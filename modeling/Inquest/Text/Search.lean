/-! # Finding text in text

Searches over lists of characters: the first occurrence of a pattern (`splitAt?`), its removal from
the front (`stripPrefix?`), its replacement throughout (`replaceAll`), and the last occurrence of a
character (`splitLast?`).

* `splitAt?_eq_some`: the two sides of an occurrence and the pattern make up the text.
* `splitInclusive_flatten`: the pieces of a text make up the text.
-/

namespace Inquest.Text

/-- What follows `pat` at the front of the text, if it stands there. -/
def stripPrefix? : (pat s : List Char) → Option (List Char)
  | [], s => some s
  | _ :: _, [] => none
  | p :: pat, c :: s => if p = c then stripPrefix? pat s else none

theorem stripPrefix?_eq_some {pat s rest : List Char} (h : stripPrefix? pat s = some rest) :
    s = pat ++ rest := by
  induction pat generalizing s with
  | nil => simpa [stripPrefix?] using h
  | cons p pat ih =>
    cases s with
    | nil => simp [stripPrefix?] at h
    | cons c s =>
      by_cases hpc : p = c
      · simp only [stripPrefix?, hpc, if_true] at h
        rw [hpc, List.cons_append, ih h]
      · simp [stripPrefix?, hpc] at h

theorem stripPrefix?_append (pat rest : List Char) :
    stripPrefix? pat (pat ++ rest) = some rest := by
  induction pat with
  | nil => rfl
  | cons p pat ih => simp [stripPrefix?, ih]

/-- The text before and after the first occurrence of `pat`. -/
def splitAt? (pat : List Char) : List Char → Option (List Char × List Char)
  | [] => if pat.isEmpty then some ([], []) else none
  | c :: s =>
    match stripPrefix? pat (c :: s) with
    | some rest => some ([], rest)
    | none => (splitAt? pat s).map fun (before, after) => (c :: before, after)

/-- The text around an occurrence, put together with the pattern, is the whole text. -/
theorem splitAt?_eq_some {pat s before after : List Char}
    (h : splitAt? pat s = some (before, after)) : s = before ++ pat ++ after := by
  induction s generalizing before after with
  | nil =>
    cases pat with
    | nil =>
      simp only [splitAt?, List.isEmpty_nil, if_true, Option.some.injEq, Prod.mk.injEq] at h
      simp [← h.1, ← h.2]
    | cons => simp [splitAt?] at h
  | cons c s ih =>
    simp only [splitAt?] at h
    split at h
    · next hp =>
      simp only [Option.some.injEq, Prod.mk.injEq] at h
      rw [← h.1, ← h.2]
      simpa using stripPrefix?_eq_some hp
    · simp only [Option.map_eq_some_iff] at h
      obtain ⟨⟨b, a⟩, hs, heq⟩ := h
      simp only [Prod.mk.injEq] at heq
      rw [← heq.1, ← heq.2]
      simp [ih hs]

/-- Whether `pat` occurs in the text. -/
def contains (pat s : List Char) : Bool := (splitAt? pat s).isSome

/-- Replacement where the first `skip` characters belong to an occurrence already replaced. -/
def replaceFrom (pat value : List Char) : (skip : Nat) → List Char → List Char
  | _, [] => []
  | skip + 1, _ :: s => replaceFrom pat value skip s
  | 0, c :: s =>
    if pat.isPrefixOf (c :: s) then value ++ replaceFrom pat value (pat.length - 1) s
    else c :: replaceFrom pat value 0 s

/-- The text with every occurrence of `pat`, a pattern of at least one character, found from the
left, replaced by `value`. -/
def replaceAll (pat value s : List Char) : List Char := replaceFrom pat value 0 s

/-- The text before and after the last occurrence of a character. -/
def splitLast? (c : Char) (s : List Char) : Option (List Char × List Char) :=
  match (s.reverse.dropWhile (· != c)) with
  | [] => none
  | _ :: before => some (before.reverse, (s.reverse.takeWhile (· != c)).reverse)

/-- The pieces of a text, each but the last ending in the separator; an empty text has none. -/
def splitInclusive (sep : Char) : List Char → List (List Char)
  | [] => []
  | c :: s =>
    if c = sep then [c] :: splitInclusive sep s
    else
      match splitInclusive sep s with
      | [] => [[c]]
      | piece :: pieces => (c :: piece) :: pieces

/-- The pieces put together are the text. -/
theorem splitInclusive_flatten (sep : Char) (s : List Char) :
    (splitInclusive sep s).flatten = s := by
  induction s with
  | nil => rfl
  | cons c s ih =>
    simp only [splitInclusive]
    split
    · simp [ih]
    · split
      · next h => rw [h] at ih; simp_all
      · next h => rw [h] at ih; simpa using ih

end Inquest.Text
