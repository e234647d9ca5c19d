import Inquest.Text.Search

/-! # Where a pattern is found

`splitAt?` finds the first occurrence of a pattern, and nothing behind that occurrence has a say in it.

* `splitAt?_eq_some_iff`: the pattern stands there, and nowhere before.
* `splitAt?_eq_none_iff`: the pattern stands nowhere.
* `FirstAt`: the first occurrence as a decomposition of the text, which is unique.
* `splitAt?_rest`: another text behind the occurrence leaves it the first.
* `splitLast?_eq_some_iff`: the last occurrence of a character.
* `infix_append_cons`: no occurrence reaches across a character that the pattern lacks.
-/

namespace Inquest.Text

variable {pat s before after rest : List Char} {c : Char}

theorem stripPrefix?_eq_none (h : stripPrefix? pat s = none) : ¬ pat <+: s := by
  rintro ⟨rest, rfl⟩
  rw [stripPrefix?_append] at h
  cases h

theorem splitAt?_cons_some (h : stripPrefix? pat (c :: s) = some rest) :
    splitAt? pat (c :: s) = some ([], rest) := by
  rw [splitAt?, h]

theorem splitAt?_cons_none (h : stripPrefix? pat (c :: s) = none) :
    splitAt? pat (c :: s) = (splitAt? pat s).map fun (before, after) => (c :: before, after) := by
  rw [splitAt?, h]

/-- **What is found is the first occurrence.** -/
theorem splitAt?_eq_some_iff :
    splitAt? pat s = some (before, after) ↔
      s = before ++ pat ++ after ∧ ∀ n < before.length, ¬ pat <+: s.drop n := by
  induction s generalizing before with
  | nil =>
    constructor
    · intro h
      have hwhole := splitAt?_eq_some h
      have hbefore : before = [] := by simp_all
      exact ⟨hwhole, fun n hn => by simp [hbefore] at hn⟩
    · rintro ⟨hwhole, -⟩
      simp_all [splitAt?]
  | cons c s ih =>
    -- the pattern stands at the front, or the first occurrence is that of the rest
    cases hp : stripPrefix? pat (c :: s) with
    | some rest =>
      have hs : c :: s = pat ++ rest := stripPrefix?_eq_some hp
      rw [splitAt?_cons_some hp]
      constructor
      · rintro ⟨⟩
        exact ⟨hs, fun n hn => absurd hn (Nat.not_lt_zero n)⟩
      · rintro ⟨hwhole, hfirst⟩
        cases before with
        | nil =>
          rw [hs, List.nil_append, List.append_cancel_left_eq] at hwhole
          rw [hwhole]
        | cons d before => exact absurd ⟨rest, hs.symm⟩ (hfirst 0 (Nat.zero_lt_succ _))
    | none =>
      have hno := stripPrefix?_eq_none hp
      rw [splitAt?_cons_none hp, Option.map_eq_some_iff]
      constructor
      · rintro ⟨⟨b, a⟩, hfound, heq⟩
        cases heq
        obtain ⟨hwhole, hfirst⟩ := ih.1 hfound
        refine ⟨congrArg (c :: ·) hwhole, fun n hn => ?_⟩
        cases n with
        | zero => exact hno
        | succ n => exact hfirst n (Nat.lt_of_succ_lt_succ hn)
      · rintro ⟨hwhole, hfirst⟩
        cases before with
        | nil => exact absurd ⟨after, hwhole.symm⟩ hno
        | cons d before =>
          obtain ⟨rfl, htail⟩ := List.cons.inj hwhole
          refine ⟨(before, after), ih.2 ⟨htail, fun n hn => ?_⟩, rfl⟩
          exact hfirst (n + 1) (Nat.succ_lt_succ hn)

/-- Nothing is found just where the pattern does not occur. -/
theorem splitAt?_eq_none_iff : splitAt? pat s = none ↔ ¬ pat <:+: s := by
  induction s with
  | nil => cases pat <;> simp [splitAt?]
  | cons c s ih =>
    cases hp : stripPrefix? pat (c :: s) with
    | some rest =>
      have hs : c :: s = pat ++ rest := stripPrefix?_eq_some hp
      rw [splitAt?_cons_some hp, hs]
      simpa using (List.prefix_append pat rest).isInfix
    | none =>
      have hno := stripPrefix?_eq_none hp
      rw [splitAt?_cons_none hp, Option.map_eq_none_iff, ih, List.infix_cons_iff, not_or]
      exact ⟨fun hrest => ⟨hno, hrest⟩, fun h => h.2⟩

theorem contains_iff : contains pat s = true ↔ pat <:+: s := by
  rw [contains, Option.isSome_iff_ne_none, ne_eq, splitAt?_eq_none_iff, Classical.not_not]

/-- The pattern stands between two parts of the text, and nowhere further to the front. -/
def FirstAt (pat s before after : List Char) : Prop :=
  s = before ++ pat ++ after ∧ ∀ b a, s = b ++ pat ++ a → before.length ≤ b.length

theorem splitAt?_eq_some_iff_firstAt :
    splitAt? pat s = some (before, after) ↔ FirstAt pat s before after := by
  rw [splitAt?_eq_some_iff, FirstAt]
  constructor
  · rintro ⟨hwhole, hfirst⟩
    refine ⟨hwhole, fun b a hb => Nat.le_of_not_lt fun hlt => hfirst b.length hlt ?_⟩
    rw [hb, List.append_assoc, List.drop_left]
    exact List.prefix_append _ _
  · rintro ⟨hwhole, hfirst⟩
    refine ⟨hwhole, fun n hn hp => ?_⟩
    obtain ⟨a, ha⟩ := hp
    have hle := hfirst (s.take n) a (by rw [List.append_assoc, ha, List.take_append_drop])
    rw [List.length_take] at hle
    omega

theorem FirstAt.unique {before' after' : List Char} (h : FirstAt pat s before after)
    (h' : FirstAt pat s before' after') : before' = before ∧ after' = after := by
  have hsame : some (before', after') = some (before, after) :=
    (splitAt?_eq_some_iff_firstAt.2 h').symm.trans (splitAt?_eq_some_iff_firstAt.2 h)
  simpa using hsame

/-- An occurrence that ends within the first of two texts is there without the second. -/
theorem prefix_of_prefix_append {text : List Char} (h : pat <+: text ++ rest)
    (hlength : pat.length ≤ text.length) : pat <+: text :=
  List.prefix_of_prefix_length_le h (List.prefix_append text rest) hlength

/-- **What stands behind an occurrence has no say in whether it is the first.** -/
theorem splitAt?_rest (h : splitAt? pat (before ++ pat ++ after) = some (before, after))
    (rest : List Char) : splitAt? pat (before ++ pat ++ rest) = some (before, rest) := by
  refine splitAt?_eq_some_iff.2 ⟨rfl, fun n hn hp => (splitAt?_eq_some_iff.1 h).2 n hn ?_⟩
  have hle : n ≤ (before ++ pat).length := by
    rw [List.length_append]
    omega
  rw [List.drop_append_of_le_length hle] at hp ⊢
  -- the occurrence begins before the end of `before`, so it ends before the end of the pattern
  have hlength : pat.length ≤ ((before ++ pat).drop n).length := by
    rw [List.length_drop, List.length_append]
    omega
  exact (prefix_of_prefix_append hp hlength).trans (List.prefix_append _ after)

/-- More text does not change where the pattern is found first. -/
theorem splitAt?_more (h : splitAt? pat s = some (before, after)) (rest : List Char) :
    splitAt? pat (s ++ rest) = some (before, after ++ rest) := by
  have hs : s = before ++ pat ++ after := splitAt?_eq_some h
  subst hs
  rw [List.append_assoc]
  exact splitAt?_rest h (after ++ rest)

/-- **No occurrence reaches across a character that the pattern lacks.** -/
theorem infix_append_cons (hc : c ∉ pat) (hpat : pat ≠ []) (h : pat <:+: before ++ c :: after) :
    pat <:+: before ∨ pat <:+: after := by
  rcases List.infix_append_iff.1 h with hbefore | hafter | ⟨front, back, rfl, hfront, hback⟩
  · exact .inl hbefore
  · rcases List.infix_cons_iff.1 hafter with hcons | hafter
    · rcases List.prefix_cons_iff.1 hcons with hnil | ⟨t, rfl, -⟩
      · exact absurd hnil hpat
      · exact absurd List.mem_cons_self hc
    · exact .inr hafter
  · rcases List.prefix_cons_iff.1 hback with rfl | ⟨t, rfl, -⟩
    · rw [List.append_nil]
      exact .inl hfront.isInfix
    · exact absurd (List.mem_append_right front List.mem_cons_self) hc

/-- A pattern is not found in front of its own first occurrence: where it does not occur in a text
that ends in a character it lacks, it does not begin there either. -/
theorem splitAt?_append (hc : c ∉ pat) (hno : ¬ pat <:+: before ++ [c]) (rest : List Char) :
    splitAt? pat (before ++ [c] ++ pat ++ rest) = some (before ++ [c], rest) := by
  refine splitAt?_eq_some_iff.2 ⟨rfl, fun n hn hp => ?_⟩
  rw [List.append_assoc, List.drop_append_of_le_length (Nat.le_of_lt hn)] at hp
  rcases Nat.le_total pat.length ((before ++ [c]).drop n).length with hle | hle
  · have hhere : pat <+: (before ++ [c]).drop n := prefix_of_prefix_append hp hle
    exact hno (hhere.isInfix.trans (List.drop_suffix n _).isInfix)
  · have hwhole : (before ++ [c]).drop n <+: pat :=
      List.prefix_of_prefix_length_le (List.prefix_append _ _) hp hle
    have hlast : c ∈ (before ++ [c]).drop n := by
      rw [List.length_append, List.length_singleton] at hn
      rw [List.drop_append_of_le_length (Nat.le_of_lt_succ hn)]
      exact List.mem_append_right _ (List.mem_singleton_self c)
    exact hc (hwhole.subset hlast)

/-- **A text is split at the last occurrence of a character**: there is none behind. -/
theorem splitLast?_eq_some_iff :
    splitLast? c s = some (before, after) ↔ s = before ++ c :: after ∧ c ∉ after := by
  constructor
  · intro h
    -- read backwards, the last occurrence is the first
    have hsplit : s.reverse.takeWhile (· != c) ++ s.reverse.dropWhile (· != c) = s.reverse :=
      List.takeWhile_append_dropWhile
    have hhead := List.head?_dropWhile_not (· != c) s.reverse
    rw [splitLast?] at h
    split at h
    · cases h
    · next d front hdrop =>
      cases h
      rw [hdrop] at hsplit hhead
      obtain rfl : d = c := by simpa using hhead
      constructor
      · simpa using (congrArg List.reverse hsplit).symm
      · intro hmem
        simpa using List.all_eq_true.1 List.all_takeWhile d (List.mem_reverse.1 hmem)
  · rintro ⟨rfl, hlast⟩
    have hback : ∀ d ∈ after.reverse, (d != c) = true := by
      intro d hd
      rw [bne_iff_ne]
      rintro rfl
      exact hlast (List.mem_reverse.1 hd)
    rw [splitLast?, List.reverse_append, List.reverse_cons, List.append_assoc,
      List.dropWhile_append_of_pos hback, List.takeWhile_append_of_pos hback]
    simp

end Inquest.Text
