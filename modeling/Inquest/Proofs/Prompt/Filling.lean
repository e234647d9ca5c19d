import Mathlib.Data.List.Find
import Mathlib.Data.List.Induction
import Mathlib.Data.List.Nodup
import Inquest.Prompt.Store
import Inquest.Proofs.Text.Search

/-! # Placeholders filled in

A template is filled in one variable after the other (`fillInTurn`), so a variable may find its
placeholder in the value of one that was set before it. All at once (`fillAtOnce`), no value would be
looked into.

A placeholder has braces at its two ends only. Hence two of them never overlap, and a text may be cut
in front of any opening brace and behind any token in braces: what is filled in on one side has no say
in the other.

* `fillAtOnce_append`, `fillAtOnce_placeholder`, `fillAtOnce_word`: the cuts, and what becomes of a token.
* `fillInTurn_placeholder`, `fillInTurn_word`: the same one variable after the other; a value is looked
  into for the variables that are set after it.
* `fillInTurn_eq_atOnce`: where the values bring about no placeholder, both come to the same.
  `Tokenized.undisturbed`: so do values without opening braces, in a text whose own braces come in pairs.
* `resolve_fills`: what the instructions of a profile are made of. `name_taken_for_placeholder`: a
  name that is looked into.
-/

namespace Inquest.Template

/-- The name of a variable, or another word, holds no braces. -/
def Bare (word : String) : Prop := '\x7b' ∉ word.toList ∧ '\x7d' ∉ word.toList

instance (word : String) : Decidable (Bare word) := inferInstanceAs (Decidable (_ ∧ _))

/-- A text in which the first `skip` characters belong to a placeholder that was replaced, with the
others replaced in the same pass. -/
def fillFrom (bindings : List (String × String)) : (skip : Nat) → List Char → List Char
  | _, [] => []
  | skip + 1, _ :: s => fillFrom bindings skip s
  | 0, c :: s =>
    match bindings.find? fun b => (placeholder b.1).isPrefixOf (c :: s) with
    | some (key, value) => value.toList ++ fillFrom bindings ((placeholder key).length - 1) s
    | none => c :: fillFrom bindings 0 s

/-- A text with all placeholders replaced in a single pass. -/
def fillAtOnce (bindings : List (String × String)) (s : List Char) : List Char :=
  fillFrom bindings 0 s

/-- A text with the placeholders of one variable replaced after those of another. -/
def fillInTurn (bindings : List (String × String)) (s : List Char) : List Char :=
  bindings.foldl (fun s b => Text.replaceAll (placeholder b.1) b.2.toList s) s

/-- How often the placeholder of a variable stands in a text. -/
def holes (key : String) : List Char → Nat
  | [] => 0
  | c :: s => holes key s + if (placeholder key).isPrefixOf (c :: s) then 1 else 0

variable {bindings : List (String × String)} {key word value : String} {a b s t : List Char}
  {c : Char}

/-! ## Placeholders in a text -/

theorem placeholder_prefix_cons (h : placeholder key <+: c :: s) : c = '\x7b' := by
  obtain ⟨rest, hrest⟩ := h
  exact (List.cons.inj hrest).1.symm

theorem brace_not_mem_tail (hkey : Bare key) : '\x7b' ∉ (placeholder key).tail := by
  simp [placeholder, hkey.1]

/-- A placeholder that begins in front of an opening brace ends there. -/
theorem placeholder_prefix_append (hkey : Bare key) (ha : a ≠ []) :
    placeholder key <+: a ++ '\x7b' :: s ↔ placeholder key <+: a := by
  refine ⟨fun h => ?_, fun h => h.trans (List.prefix_append _ _)⟩
  rcases List.prefix_or_prefix_of_prefix h (List.prefix_append a _) with hshort | ⟨t, ht⟩
  · exact hshort
  · rw [← ht, List.prefix_append_right_inj] at h
    cases t with
    | nil => exact ⟨[], by simpa using ht.symm⟩
    | cons d t =>
      obtain ⟨rfl, -⟩ := List.cons_prefix_cons.1 h
      refine absurd ?_ (brace_not_mem_tail hkey)
      rw [← ht, List.tail_append_of_ne_nil ha]
      exact List.mem_append_right _ List.mem_cons_self

theorem eq_of_append_brace {u v : List Char} (hu : '\x7d' ∉ u) (hv : '\x7d' ∉ v)
    (h : u ++ '\x7d' :: s = v ++ '\x7d' :: t) : u = v := by
  rcases List.append_eq_append_iff.1 h with ⟨d, rfl, hd⟩ | ⟨d, rfl, hd⟩
  · cases d with
    | nil => simp
    | cons x d =>
      obtain ⟨rfl, -⟩ := List.cons.inj hd
      simp at hv
  · cases d with
    | nil => simp
    | cons x d =>
      obtain ⟨rfl, -⟩ := List.cons.inj hd
      simp at hu

/-- Of two placeholders that begin at one place, neither is longer. -/
theorem placeholder_prefix_iff (hkey : Bare key) (hword : Bare word) :
    placeholder key <+: placeholder word ++ s ↔ key = word := by
  constructor
  · rintro ⟨rest, hrest⟩
    simp only [placeholder, List.cons_append, List.append_assoc, List.nil_append, List.cons.injEq,
      true_and] at hrest
    exact String.toList_inj.1 (eq_of_append_brace hkey.2 hword.2 hrest)
  · rintro rfl
    exact List.prefix_append _ _

/-! ## The single pass, cut in parts -/

theorem fillFrom_eq_drop (skip : Nat) :
    fillFrom bindings skip s = fillAtOnce bindings (s.drop skip) := by
  induction s generalizing skip with
  | nil => simp [fillFrom, fillAtOnce]
  | cons c s ih =>
    cases skip with
    | zero => rfl
    | succ skip => simpa [fillFrom] using ih skip

theorem fillAtOnce_cons (h : ∀ b ∈ bindings, ¬ placeholder b.1 <+: c :: s) :
    fillAtOnce bindings (c :: s) = c :: fillAtOnce bindings s := by
  have hnone : (bindings.find? fun b => (placeholder b.1).isPrefixOf (c :: s)) = none := by
    simpa [List.find?_eq_none] using h
  simp only [fillAtOnce, fillFrom, hnone]

theorem fillAtOnce_plain {u : List Char} (hu : '\x7b' ∉ u) :
    fillAtOnce bindings (u ++ s) = u ++ fillAtOnce bindings s := by
  induction u with
  | nil => rfl
  | cons c u ih =>
    obtain ⟨hc, hu⟩ := not_or.1 (List.mem_cons.not.1 hu)
    rw [List.cons_append, fillAtOnce_cons, ih hu, List.cons_append]
    intro b _ hstart
    exact hc (placeholder_prefix_cons hstart).symm

theorem fillAtOnce_nil (s : List Char) : fillAtOnce [] s = s := by
  induction s with
  | nil => rfl
  | cons c s ih => rw [fillAtOnce_cons (by simp), ih]

/-- **A text may be cut in front of an opening brace.** -/
theorem fillAtOnce_append (hbare : ∀ b ∈ bindings, Bare b.1) (a s : List Char) :
    fillAtOnce bindings (a ++ '\x7b' :: s) =
      fillAtOnce bindings a ++ fillAtOnce bindings ('\x7b' :: s) := by
  -- made general over the characters to skip, which the last placeholder reaches over
  suffices h : ∀ skip ≤ a.length, fillFrom bindings skip (a ++ '\x7b' :: s) =
      fillFrom bindings skip a ++ fillFrom bindings 0 ('\x7b' :: s) from h 0 (Nat.zero_le _)
  induction a with
  | nil =>
    intro skip hskip
    obtain rfl := Nat.le_zero.1 hskip
    rfl
  | cons c a ih =>
    intro skip hskip
    cases skip with
    | succ skip => exact ih skip (Nat.le_of_succ_le_succ hskip)
    | zero =>
      -- a placeholder that begins in `c :: a` ends there, so both sides find the same one
      have hsame : (bindings.find? fun b => (placeholder b.1).isPrefixOf (c :: a ++ '\x7b' :: s)) =
          bindings.find? fun b => (placeholder b.1).isPrefixOf (c :: a) := by
        refine List.find?_congr fun b hb => ?_
        rw [Bool.eq_iff_iff, List.isPrefixOf_iff_prefix, List.isPrefixOf_iff_prefix]
        exact placeholder_prefix_append (hbare b hb) (List.cons_ne_nil c a)
      rw [List.cons_append] at hsame ⊢
      simp only [fillFrom, hsame]
      split
      · next key value hfound =>
        have hstart := List.find?_some hfound
        simp only [List.isPrefixOf_iff_prefix] at hstart
        have hlength := hstart.length_le
        rw [List.length_cons] at hlength
        rw [ih _ (by omega), List.append_assoc]
        rfl
      · rw [ih 0 (Nat.zero_le _)]
        rfl

section Tokens

variable (hbare : ∀ b ∈ bindings, Bare b.1) (hword : Bare word)
include hbare hword

theorem find?_placeholder :
    (bindings.find? fun b => (placeholder b.1).isPrefixOf (placeholder word ++ s)) =
      bindings.find? fun b => b.1 = word := by
  refine List.find?_congr fun b hb => ?_
  rw [Bool.eq_iff_iff, List.isPrefixOf_iff_prefix, decide_eq_true_iff]
  exact placeholder_prefix_iff (hbare b hb) hword

/-- **Other words in braces stay.** -/
theorem fillAtOnce_word (h : word ∉ bindings.map Prod.fst) :
    fillAtOnce bindings (a ++ placeholder word ++ s) =
      fillAtOnce bindings a ++ placeholder word ++ fillAtOnce bindings s := by
  have hplain : '\x7b' ∉ word.toList ++ ['\x7d'] := brace_not_mem_tail hword
  have hnone : ∀ b ∈ bindings, ¬ placeholder b.1 <+: placeholder word ++ s := by
    intro b hb hstart
    rw [placeholder_prefix_iff (hbare b hb) hword] at hstart
    exact h (hstart ▸ List.mem_map_of_mem hb)
  rw [List.append_assoc, List.append_assoc]
  simp only [placeholder, List.cons_append] at hnone ⊢
  rw [fillAtOnce_append hbare, fillAtOnce_cons hnone, fillAtOnce_plain hplain]

end Tokens

/-- **A placeholder gives way to the value of its variable**, which is not looked into. -/
theorem fillAtOnce_placeholder {done later : List (String × String)}
    (h : bindings = done ++ (key, value) :: later) (hbare : ∀ b ∈ bindings, Bare b.1)
    (hdone : key ∉ done.map Prod.fst) :
    fillAtOnce bindings (a ++ placeholder key ++ s) =
      fillAtOnce bindings a ++ value.toList ++ fillAtOnce bindings s := by
  have hkey : Bare key := hbare (key, value) (by simp [h])
  have hfound : (bindings.find? fun b => b.1 = key) = some (key, value) := by
    rw [List.find?_eq_some_iff_append]
    refine ⟨decide_eq_true rfl, done, later, h, fun b hb => ?_⟩
    rw [Bool.not_eq_true', decide_eq_false_iff_not]
    rintro rfl
    exact hdone (List.mem_map_of_mem hb)
  -- the keys are bare, so no other key's placeholder begins here
  rw [← find?_placeholder (s := s) hbare hkey] at hfound
  have hhere : fillAtOnce bindings (placeholder key ++ s) = value.toList ++ fillAtOnce bindings s := by
    rw [placeholder, List.cons_append] at hfound ⊢
    simp only [fillAtOnce, fillFrom]
    rw [hfound]
    exact congrArg _ ((fillFrom_eq_drop _).trans (congrArg _ List.drop_left))
  rw [List.append_assoc, List.append_assoc, ← hhere]
  exact fillAtOnce_append hbare a _

theorem fillAtOnce_one (hkey : Bare key) :
    fillAtOnce [(key, value)] (a ++ placeholder key ++ s) =
      fillAtOnce [(key, value)] a ++ value.toList ++ fillAtOnce [(key, value)] s :=
  fillAtOnce_placeholder (List.nil_append _).symm (by simpa using hkey) List.not_mem_nil

/-- One variable replaced is the same single pass. -/
theorem replaceAll_eq_fillAtOnce (key value : String) (s : List Char) :
    Text.replaceAll (placeholder key) value.toList s = fillAtOnce [(key, value)] s := by
  suffices h : ∀ skip, Text.replaceFrom (placeholder key) value.toList skip s =
      fillFrom [(key, value)] skip s from h 0
  induction s with
  | nil => intro skip; cases skip <;> rfl
  | cons c s ih =>
    intro skip
    cases skip with
    | succ skip => exact ih skip
    | zero =>
      by_cases hstart : (placeholder key).isPrefixOf (c :: s)
      · simp only [Text.replaceFrom, fillFrom, List.find?_cons, hstart, if_true, ih]
      · simp only [Text.replaceFrom, fillFrom, List.find?_cons, List.find?_nil, hstart, ih,
          Bool.false_eq_true, if_false]

/-! ## How often a placeholder stands in a text -/

theorem holes_plain {u : List Char} (hu : '\x7b' ∉ u) : holes key (u ++ s) = holes key s := by
  induction u with
  | nil => rfl
  | cons c u ih =>
    obtain ⟨hc, hu⟩ := not_or.1 (List.mem_cons.not.1 hu)
    have hno : ¬ placeholder key <+: c :: (u ++ s) := fun h => hc (placeholder_prefix_cons h).symm
    rw [List.cons_append, holes, ih hu]
    simp [hno]

theorem holes_append (hkey : Bare key) (a s : List Char) :
    holes key (a ++ '\x7b' :: s) = holes key a + holes key ('\x7b' :: s) := by
  induction a with
  | nil => simp [holes]
  | cons c a ih =>
    have hsame := placeholder_prefix_append (s := s) hkey (List.cons_ne_nil c a)
    rw [List.cons_append] at hsame
    rw [List.cons_append, holes, holes, ih]
    simp only [List.isPrefixOf_iff_prefix, hsame]
    omega

theorem holes_word (hkey : Bare key) (hword : Bare word) (a s : List Char) :
    holes key (a ++ placeholder word ++ s) =
      holes key a + (if key = word then 1 else 0) + holes key s := by
  have hplain : '\x7b' ∉ word.toList ++ ['\x7d'] := brace_not_mem_tail hword
  have hhere : placeholder key <+: '\x7b' :: (word.toList ++ ['\x7d'] ++ s) ↔ key = word :=
    placeholder_prefix_iff hkey hword
  rw [List.append_assoc, placeholder, List.cons_append, holes_append hkey, holes, holes_plain hplain]
  simp only [List.isPrefixOf_iff_prefix, hhere]
  omega

theorem holes_placeholder (hkey : Bare key) (a s : List Char) :
    holes key (a ++ placeholder key ++ s) = holes key a + 1 + holes key s := by
  rw [holes_word hkey hkey, if_pos rfl]

theorem holes_eq_zero_iff : holes key s = 0 ↔ ¬ placeholder key <:+: s := by
  induction s with
  | nil => simp [holes, placeholder]
  | cons c s ih =>
    rw [holes, List.infix_cons_iff, not_or, ← ih]
    by_cases hstart : placeholder key <+: c :: s <;> simp [hstart]

/-- Induction over the places where a placeholder stands in a text. -/
theorem holes_induction {motive : List Char → Prop} (key : String)
    (bare : ∀ s, ¬ placeholder key <:+: s → motive s)
    (token : ∀ a b, motive a → motive b → motive (a ++ placeholder key ++ b)) (s : List Char) :
    motive s := by
  by_cases h : placeholder key <:+: s
  · obtain ⟨a, b, hs⟩ := h
    have hlength : a.length + (placeholder key).length + b.length = s.length := by
      rw [← hs, List.length_append, List.length_append]
    have htoken : (placeholder key).length = key.toList.length + 2 := by simp [placeholder]
    have ha := holes_induction key bare token a
    have hb := holes_induction key bare token b
    exact hs ▸ token a b ha hb
  · exact bare s h
termination_by s.length

/-! ## One variable more -/

/-- A variable whose placeholder does not stand in the text has no say. -/
theorem fillAtOnce_snoc_absent (h : ¬ placeholder key <:+: s) :
    fillAtOnce (bindings ++ [(key, value)]) s = fillAtOnce bindings s := by
  suffices hskip : ∀ skip, fillFrom (bindings ++ [(key, value)]) skip s =
      fillFrom bindings skip s from hskip 0
  induction s with
  | nil => intro skip; cases skip <;> rfl
  | cons c s ih =>
    have ih := ih fun hthere => h (List.infix_cons hthere)
    intro skip
    cases skip with
    | succ skip => exact ih skip
    | zero =>
      have hno : (placeholder key).isPrefixOf (c :: s) = false := by
        rw [Bool.eq_false_iff, ne_eq, List.isPrefixOf_iff_prefix]
        exact fun hstart => h hstart.isInfix
      simp only [fillFrom, List.find?_append, List.find?_cons, List.find?_nil, hno, Option.or_none,
        ih]

theorem fillAtOnce_one_absent (h : ¬ placeholder key <:+: s) :
    fillAtOnce [(key, value)] s = s := by
  rw [← List.nil_append [(key, value)], fillAtOnce_snoc_absent h, fillAtOnce_nil]

section Later

variable (hbare : ∀ b ∈ bindings, Bare b.1) (hkey : Bare key) (hnew : key ∉ bindings.map Prod.fst)
include hbare hkey hnew

/-- The placeholders of a variable that is not set yet stay in the text; values may bring more. -/
theorem holes_le_fillAtOnce (s : List Char) : holes key s ≤ holes key (fillAtOnce bindings s) := by
  induction s using holes_induction key with
  | bare s h =>
    rw [holes_eq_zero_iff.2 h]
    exact Nat.zero_le _
  | token a b iha ihb =>
    rw [fillAtOnce_word hbare hkey hnew, holes_placeholder hkey, holes_placeholder hkey]
    omega

/-- **A variable set after others joins their pass**, if their values bring about no placeholder of
it. -/
theorem replaceAll_fillAtOnce (s : List Char)
    (h : holes key (fillAtOnce bindings s) = holes key s) :
    Text.replaceAll (placeholder key) value.toList (fillAtOnce bindings s) =
      fillAtOnce (bindings ++ [(key, value)]) s := by
  rw [replaceAll_eq_fillAtOnce]
  have hall : ∀ b ∈ bindings ++ [(key, value)], Bare b.1 :=
    List.forall_mem_append.2 ⟨hbare, by simpa using hkey⟩
  induction s using holes_induction key with
  | bare s hs =>
    have hfilled : ¬ placeholder key <:+: fillAtOnce bindings s := by
      rw [← holes_eq_zero_iff, h, holes_eq_zero_iff]
      exact hs
    rw [fillAtOnce_snoc_absent hs, fillAtOnce_one_absent hfilled]
  | token a b iha ihb =>
    -- neither side loses a placeholder, so where none is gained in all, none is on either side
    have hlea := holes_le_fillAtOnce hbare hkey hnew a
    have hleb := holes_le_fillAtOnce hbare hkey hnew b
    rw [fillAtOnce_word hbare hkey hnew, holes_placeholder hkey, holes_placeholder hkey] at h
    rw [fillAtOnce_word hbare hkey hnew,
      fillAtOnce_one hkey, fillAtOnce_placeholder rfl hall hnew, iha (by omega), ihb (by omega)]

end Later

/-! ## One variable after the other -/

theorem fillInTurn_append (done later : List (String × String)) (s : List Char) :
    fillInTurn (done ++ later) s = fillInTurn later (fillInTurn done s) :=
  List.foldl_append

theorem fillInTurn_snoc (done : List (String × String)) (key value : String) (s : List Char) :
    fillInTurn (done ++ [(key, value)]) s =
      Text.replaceAll (placeholder key) value.toList (fillInTurn done s) :=
  fillInTurn_append done [(key, value)] s

theorem fillInTurn_cons (key value : String) (later : List (String × String)) (s : List Char) :
    fillInTurn ((key, value) :: later) s = fillInTurn later (fillAtOnce [(key, value)] s) := by
  rw [← replaceAll_eq_fillAtOnce]
  rfl

theorem fillInTurn_word (hbare : ∀ b ∈ bindings, Bare b.1) (hword : Bare word)
    (h : word ∉ bindings.map Prod.fst) (a b : List Char) :
    fillInTurn bindings (a ++ placeholder word ++ b) =
      fillInTurn bindings a ++ placeholder word ++ fillInTurn bindings b := by
  induction bindings generalizing a b with
  | nil => rfl
  | cons first bindings ih =>
    obtain ⟨key, value⟩ := first
    obtain ⟨hkey, hbare⟩ := List.forall_mem_cons.1 hbare
    obtain ⟨hne, h⟩ := not_or.1 (List.mem_cons.not.1 h)
    simp only [fillInTurn_cons]
    rw [fillAtOnce_word (by simpa using hkey) hword (by simpa using hne), ih hbare h]

/-- **A placeholder gives way to the value of its variable.** Into the value, and into what is on its
two sides by then, only the variables that are set later look. -/
theorem fillInTurn_placeholder {done later : List (String × String)}
    (hbare : ∀ b ∈ done, Bare b.1) (hkey : Bare key) (hdone : key ∉ done.map Prod.fst)
    (a b : List Char) :
    fillInTurn (done ++ (key, value) :: later) (a ++ placeholder key ++ b) =
      fillInTurn later (fillInTurn (done ++ [(key, value)]) a ++ value.toList ++
        fillInTurn (done ++ [(key, value)]) b) := by
  rw [List.append_cons, fillInTurn_append]
  simp only [fillInTurn_snoc, fillInTurn_word hbare hkey hdone, replaceAll_eq_fillAtOnce,
    fillAtOnce_one hkey]

theorem bare_of_split {done later : List (String × String)}
    (hbare : ∀ b ∈ done ++ (key, value) :: later, Bare b.1)
    (hkeys : ((done ++ (key, value) :: later).map Prod.fst).Nodup) :
    (∀ b ∈ done, Bare b.1) ∧ Bare key ∧ key ∉ done.map Prod.fst := by
  obtain ⟨hdone, hlater⟩ := List.forall_mem_append.1 hbare
  rw [List.map_append, List.map_cons, List.nodup_middle, List.nodup_cons] at hkeys
  exact ⟨hdone, (List.forall_mem_cons.1 hlater).1, fun h => hkeys.1 (List.mem_append_left _ h)⟩

/-- No value brings about a placeholder of a variable that is set later: when its turn comes, it
stands in the text as often as it did in the template. -/
def Undisturbed (bindings : List (String × String)) (s : List Char) : Prop :=
  ∀ done key value later, bindings = done ++ (key, value) :: later →
    holes key (fillInTurn done s) = holes key s

/-- **One after the other or all at once**, undisturbed, is the same. -/
theorem fillInTurn_eq_atOnce (hbare : ∀ b ∈ bindings, Bare b.1)
    (hkeys : (bindings.map Prod.fst).Nodup) (h : Undisturbed bindings s) :
    fillInTurn bindings s = fillAtOnce bindings s := by
  induction bindings using List.reverseRecOn with
  | nil => exact (fillAtOnce_nil s).symm
  | append_singleton done last ih =>
    obtain ⟨key, value⟩ := last
    obtain ⟨hbare, hkey, hnew⟩ := bare_of_split hbare hkeys
    rw [List.map_append] at hkeys
    have hdone : fillInTurn done s = fillAtOnce done s := by
      refine ih hbare (List.Nodup.of_append_left hkeys) fun before key' value' later hsplit => ?_
      exact h before key' value' (later ++ [(key, value)]) (by simp [hsplit])
    have hholes := h done key value [] rfl
    rw [hdone] at hholes
    rw [fillInTurn_snoc, hdone]
    exact replaceAll_fillAtOnce hbare hkey hnew s hholes

/-! ## Values without braces -/

/-- Every opening brace of the text begins a word in braces. -/
inductive Tokenized : List Char → Prop
  | plain {u} : '\x7b' ∉ u → Tokenized u
  | token {u word s} : '\x7b' ∉ u → Bare word → Tokenized s →
    Tokenized (u ++ placeholder word ++ s)

theorem Tokenized.append {u : List Char} (hu : '\x7b' ∉ u) (h : Tokenized s) :
    Tokenized (u ++ s) := by
  cases h with
  | plain hs => exact .plain (by simp [hu, hs])
  | token hv hword hs =>
    rw [← List.append_assoc, ← List.append_assoc]
    exact .token (by simp [hu, hv]) hword hs

/-- A value without an opening brace leaves the text as well made as before, and brings about no
placeholder of another variable. -/
theorem Tokenized.fill (hkey : Bare key) (hvalue : '\x7b' ∉ value.toList) (h : Tokenized s) :
    Tokenized (fillAtOnce [(key, value)] s) ∧
      ∀ other, Bare other → other ≠ key →
        holes other (fillAtOnce [(key, value)] s) = holes other s := by
  have hplain {u : List Char} (hu : '\x7b' ∉ u) : fillAtOnce [(key, value)] u = u :=
    fillAtOnce_one_absent fun hthere => hu (hthere.subset List.mem_cons_self)
  -- token by token: those of the key go, and the value brings none with it
  induction h with
  | plain hu =>
    rw [hplain hu]
    exact ⟨.plain hu, fun _ _ _ => rfl⟩
  | @token u word s hu hword _ ih =>
    obtain ⟨htokens, hholes⟩ := ih
    by_cases hsame : word = key
    · subst hsame
      have hfront : '\x7b' ∉ u ++ value.toList := by simp [hu, hvalue]
      rw [fillAtOnce_one hword, hplain hu]
      refine ⟨htokens.append hfront, fun other hother hne => ?_⟩
      rw [holes_plain hfront, hholes other hother hne, holes_word hother hword, if_neg hne,
        ← List.append_nil u, holes_plain hu, holes, Nat.zero_add]
    · rw [fillAtOnce_word (by simpa using hkey) hword (by simpa using hsame), hplain hu]
      refine ⟨.token hu hword htokens, fun other hother hne => ?_⟩
      rw [holes_word hother hword, holes_word hother hword, hholes other hother hne]

theorem Tokenized.holes_fillInTurn (hkey : Bare key) {done : List (String × String)}
    (hbare : ∀ b ∈ done, Bare b.1) (hvalues : ∀ b ∈ done, '\x7b' ∉ b.2.toList)
    (hnew : key ∉ done.map Prod.fst) (h : Tokenized s) :
    holes key (fillInTurn done s) = holes key s := by
  induction done generalizing s with
  | nil => rfl
  | cons first done ih =>
    obtain ⟨hfirst, hbare⟩ := List.forall_mem_cons.1 hbare
    obtain ⟨hvalue, hvalues⟩ := List.forall_mem_cons.1 hvalues
    obtain ⟨hne, hnew⟩ := not_or.1 (List.mem_cons.not.1 hnew)
    obtain ⟨htokens, hholes⟩ := h.fill hfirst hvalue
    rw [fillInTurn_cons, ih hbare hvalues hnew htokens, hholes key hkey hne]

/-- **Values without an opening brace disturb no text** whose own braces come in pairs. -/
theorem Tokenized.undisturbed (hbare : ∀ b ∈ bindings, Bare b.1)
    (hkeys : (bindings.map Prod.fst).Nodup) (hvalues : ∀ b ∈ bindings, '\x7b' ∉ b.2.toList)
    (h : Tokenized s) : Undisturbed bindings s := by
  rintro done key value later rfl
  obtain ⟨hdone, hkey, hnew⟩ := bare_of_split hbare hkeys
  exact h.holes_fillInTurn hkey hdone (List.forall_mem_append.1 hvalues).1 hnew

end Inquest.Template

namespace Inquest.PromptStore

open Template

variable {s : PromptStore} {p : Profile} {text : String}

theorem bindings_bare (s : PromptStore) (p : Profile) : ∀ b ∈ s.bindings p, Bare b.1 := by
  simp only [bindings, List.forall_mem_cons]
  decide +kernel

theorem bindings_nodup (s : PromptStore) (p : Profile) :
    ((s.bindings p).map Prod.fst).Nodup := by
  simp only [bindings, List.map_cons, List.map_nil]
  decide +kernel

theorem toList_fill (s : PromptStore) (p : Profile) (t : Template) :
    (s.fill p t).toList = fillInTurn (s.bindings p) t.text.toList := by
  unfold fill
  generalize s.bindings p = bindings
  induction bindings generalizing t with
  | nil => rfl
  | cons first bindings ih =>
    have hset : (t.set first.1 first.2).text.toList =
        Text.replaceAll (placeholder first.1) first.2.toList t.text.toList := by
      simp [Template.set, substitute]
    rw [List.foldl_cons, ih, hset]
    rfl

theorem filter_of_resolve (h : s.resolve p = .ok text) :
    ∃ t, s.templates.filter (fun t => t.isFor p) = [t] ∧ text = s.fill p t := by
  unfold resolve at h
  split at h
  · cases h
  · next t ht => exact ⟨t, ht, (Except.ok.inj h).symm⟩
  · cases h

/-- **What instructions are made of.** They are the text of the one template for the profile, filled
in one variable after the other. A placeholder in the template gives way to its value, into which
the variables set later look; other words in braces stay. If no value brings about a placeholder of
a variable that is set later, all this comes to one single pass; so it is without opening braces in
the values, in a template whose own braces come in pairs. -/
theorem resolve_fills (h : s.resolve p = .ok text) :
    ∃ t, s.templates.filter (fun t => t.isFor p) = [t] ∧
      text.toList = fillInTurn (s.bindings p) t.text.toList ∧
      (∀ done key value later a b, s.bindings p = done ++ (key, value) :: later →
        t.text.toList = a ++ placeholder key ++ b →
        text.toList = fillInTurn later (fillInTurn (done ++ [(key, value)]) a ++ value.toList ++
          fillInTurn (done ++ [(key, value)]) b)) ∧
      (∀ word a b, Bare word → word ∉ (s.bindings p).map Prod.fst →
        t.text.toList = a ++ placeholder word ++ b →
        text.toList =
          fillInTurn (s.bindings p) a ++ placeholder word ++ fillInTurn (s.bindings p) b) ∧
      (Undisturbed (s.bindings p) t.text.toList →
        text.toList = fillAtOnce (s.bindings p) t.text.toList) ∧
      (Tokenized t.text.toList → (∀ b ∈ s.bindings p, '\x7b' ∉ b.2.toList) →
        Undisturbed (s.bindings p) t.text.toList) := by
  -- the keys are bare and distinct; what is left is a statement on filling in turn
  obtain ⟨t, ht, rfl⟩ := filter_of_resolve h
  have hbare := bindings_bare s p
  have hkeys := bindings_nodup s p
  refine ⟨t, ht, toList_fill s p t, ?_, ?_, ?_, ?_⟩
  · intro done key value later a b hsplit htext
    rw [toList_fill, htext, hsplit]
    rw [hsplit] at hbare hkeys
    obtain ⟨hdone, hkey, hnew⟩ := bare_of_split hbare hkeys
    exact fillInTurn_placeholder hdone hkey hnew a b
  · intro word a b hword hnew htext
    rw [toList_fill, htext]
    exact fillInTurn_word hbare hword hnew a b
  · intro hundisturbed
    rw [toList_fill]
    exact fillInTurn_eq_atOnce hbare hkeys hundisturbed
  · intro htokens hvalues
    exact htokens.undisturbed hbare hkeys hvalues

/-- A word in braces that no variable has, beside a name that is looked into. -/
theorem resolve_fills_beside_name :
    let store : PromptStore := ⟨[⟨"cook", false, "You are \x7bname\x7d, \x7bthe\x7d cook."⟩], "", ""⟩
    let cook : Profile := ⟨"\x7bpossessions\x7d", "cook", "a knife", false⟩
    store.resolve cook = .ok "You are a knife, \x7bthe\x7d cook." ∧
      "You are a knife, \x7bthe\x7d cook.".toList =
        fillInTurn (store.bindings cook) "You are \x7bname\x7d, ".toList ++ placeholder "the" ++
          fillInTurn (store.bindings cook) " cook.".toList := by
  intro store cook
  have hresolve : store.resolve cook = .ok "You are a knife, \x7bthe\x7d cook." := by decide +kernel
  obtain ⟨t, ht, -, -, hword, -⟩ := resolve_fills hresolve
  have htext : t.text = "You are \x7bname\x7d, \x7bthe\x7d cook." := by
    have hfilter : store.templates.filter (fun t => t.isFor cook) =
        [⟨"cook", false, "You are \x7bname\x7d, \x7bthe\x7d cook."⟩] := by decide +kernel
    rw [hfilter] at ht
    cases ht
    rfl
  refine ⟨hresolve, hword "the" _ _ (by decide +kernel) (by decide +kernel) ?_⟩
  rw [htext]
  decide +kernel

/-- **A name taken for a placeholder**: it is looked into, which a single pass would not do. -/
theorem name_taken_for_placeholder :
    let store : PromptStore := ⟨[⟨"cook", false, "You are \x7bname\x7d."⟩], "", ""⟩
    let cook : Profile := ⟨"\x7bpossessions\x7d", "cook", "a knife", false⟩
    store.resolve cook = .ok "You are a knife." ∧
      fillAtOnce (store.bindings cook) "You are \x7bname\x7d.".toList =
        "You are \x7bpossessions\x7d.".toList ∧
      ¬ ∀ (s : PromptStore) (p : Profile) (text : String), s.resolve p = .ok text →
        ∃ t, s.templates.filter (fun t => t.isFor p) = [t] ∧
          text.toList = fillAtOnce (s.bindings p) t.text.toList := by
  intro store cook
  have hresolve : store.resolve cook = .ok "You are a knife." := by decide +kernel
  have hpass : fillAtOnce (store.bindings cook) "You are \x7bname\x7d.".toList =
      "You are \x7bpossessions\x7d.".toList := by decide +kernel
  refine ⟨hresolve, hpass, fun hall => ?_⟩
  obtain ⟨t, ht, htext⟩ := hall store cook _ hresolve
  have hfilter : store.templates.filter (fun t => t.isFor cook) =
      [⟨"cook", false, "You are \x7bname\x7d."⟩] := by decide +kernel
  rw [hfilter] at ht
  cases ht
  rw [hpass] at htext
  revert htext
  decide +kernel

end Inquest.PromptStore
