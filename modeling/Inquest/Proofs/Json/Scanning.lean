import Inquest.Proofs.Decimal.Shortest
import Inquest.Proofs.Json.Numerals
import Inquest.Json.Printer

/-! # Every written number is scanned to its end

A number is written in the grammar that RFC 8259 has for numbers (`Unsigned`): digits of which the
first is not zero unless it stands alone, then a fraction and an exponent if there are any. The
scanner takes such a text whole, whatever number it makes of it, so that a written number is one token
(`tokens_number`). It need not be the token of the number that was written: a double may be read as a
neighbour of it, and a number with too many digits may be out of range.

* `unsigned_write`: a written number is in the grammar.
* `whole_scanNumber`: what is in the grammar is scanned to its end.
* `ReadsBack`, `tokens_double`: a double that is read as it is written.
-/

namespace Inquest.Json

open Decimal

/-! ## The grammar -/

/-- Decimal digits, at least one. -/
def Digits (s : List Char) : Prop := s ≠ [] ∧ ∀ c ∈ s, c.isDigit = true

theorem digits_zero : Digits ['0'] := ⟨List.cons_ne_nil _ _, List.forall_mem_singleton.2 rfl⟩

/-- Decimal digits that do not start with zero. -/
structure Leading (s : List Char) : Prop where
  digits : Digits s
  first : s.head? ≠ some '0'

/-- The whole part of a number: zero, or digits that do not start with zero. -/
inductive WholePart : List Char → Prop
  | zero : WholePart ['0']
  | leading {s : List Char} (h : Leading s) : WholePart s

/-- The fraction of a number, if it has one. -/
inductive FractionPart : List Char → Prop
  | none : FractionPart []
  | digits {ds : List Char} (h : Digits ds) : FractionPart ('.' :: ds)

/-- The exponent of a number, if it has one. -/
inductive ExponentPart : List Char → Prop
  | none : ExponentPart []
  | digits {sign : Char} {ds : List Char} (hsign : sign = '+' ∨ sign = '-') (h : Digits ds) :
    ExponentPart ('e' :: sign :: ds)

/-- A number without its sign. -/
inductive Unsigned : List Char → Prop
  | parts {whole fraction exponent : List Char} (hwhole : WholePart whole)
    (hfraction : FractionPart fraction) (hexponent : ExponentPart exponent) :
    Unsigned (whole ++ (fraction ++ exponent))

theorem Digits.cons {s : List Char} (h : Digits s) : ∃ c ds, s = c :: ds ∧ c.isDigit = true := by
  obtain ⟨c, ds, rfl⟩ := List.exists_cons_of_ne_nil h.1
  exact ⟨c, ds, rfl, h.2 c List.mem_cons_self⟩

theorem Digits.append {s t : List Char} (h : Digits s) (ht : ∀ c ∈ t, c.isDigit = true) :
    Digits (s ++ t) :=
  ⟨List.append_ne_nil_of_left_ne_nil h.1 t, List.forall_mem_append.2 ⟨h.2, ht⟩⟩

theorem Leading.append {s t : List Char} (h : Leading s) (ht : ∀ c ∈ t, c.isDigit = true) :
    Leading (s ++ t) := by
  obtain ⟨c, ds, rfl, -⟩ := h.digits.cons
  exact ⟨h.digits.append ht, h.first⟩

theorem Leading.take {s : List Char} (h : Leading s) {n : Nat} (hn : n ≠ 0) : Leading (s.take n) := by
  obtain ⟨c, ds, rfl, -⟩ := h.digits.cons
  obtain ⟨n, rfl⟩ := Nat.exists_eq_succ_of_ne_zero hn
  exact ⟨⟨List.cons_ne_nil _ _, fun d hd => h.digits.2 d (List.mem_of_mem_take hd)⟩, h.first⟩

theorem Unsigned.whole {whole : List Char} (h : WholePart whole) : Unsigned whole := by
  have hparts := Unsigned.parts h .none .none
  rwa [List.append_nil, List.append_nil] at hparts

theorem Unsigned.fraction {whole ds : List Char} (h : WholePart whole) (hds : Digits ds) :
    Unsigned (whole ++ '.' :: ds) := by
  have hparts := Unsigned.parts h (.digits hds) .none
  rwa [List.append_nil] at hparts

/-- A number without its sign starts with a digit. -/
theorem Unsigned.cons {s : List Char} (h : Unsigned s) : ∃ c ds, s = c :: ds ∧ c.isDigit = true := by
  obtain ⟨hwhole, -, -⟩ := h
  cases hwhole with
  | zero => exact ⟨'0', _, rfl, rfl⟩
  | leading h =>
    obtain ⟨c, ds, rfl, hc⟩ := h.digits.cons
    exact ⟨c, _, rfl, hc⟩

/-! ## Scanning -/

/-- No digit comes first. -/
def NoDigit (s : List Char) : Prop := ∀ c ∈ s.head?, digitValue? c = none

theorem ExponentPart.noDigit {s : List Char} (h : ExponentPart s) : NoDigit s := by
  cases h with
  | none => exact nofun
  | digits => rintro c ⟨⟩; decide

theorem FractionPart.noDigit {s t : List Char} (h : FractionPart s) (ht : ExponentPart t) :
    NoDigit (s ++ t) := by
  cases h with
  | none => exact ht.noDigit
  | digits => rintro c ⟨⟩; decide

section
variable {ds rest : List Char} (hds : ∀ c ∈ ds, c.isDigit = true)
include hds

theorem countDigits_digits (hrest : NoDigit rest) (count : Nat) :
    countDigits count (ds ++ rest) = (count + ds.length, rest) := by
  induction ds generalizing count with
  | nil =>
    cases rest with
    | nil => rfl
    | cons c rest => simp [countDigits, hrest c rfl]
  | cons c ds ih =>
    obtain ⟨hc, hds⟩ := List.forall_mem_cons.1 hds
    rw [List.cons_append, countDigits, digitValue?_of_isDigit hc, if_pos Option.isSome_some, ih hds,
      List.length_cons, Nat.add_right_comm, Nat.add_assoc]

theorem takeNumber_digits (n : Nat) : (takeNumber n ds).2 = [] := by
  induction ds generalizing n with
  | nil => rfl
  | cons c ds ih =>
    obtain ⟨hc, hds⟩ := List.forall_mem_cons.1 hds
    rw [takeNumber, digitValue?_of_isDigit hc]
    exact ih hds _

/-- A significand grows by some of the digits that follow and leaves the others. -/
theorem growSignificand_some (hrest : NoDigit rest) (n taken : Nat) :
    ∃ grown took left, growSignificand n taken (ds ++ rest) = (grown, took, left ++ rest) ∧
      (∀ c ∈ left, c.isDigit = true) ∧ took + left.length = taken + ds.length := by
  induction ds generalizing n taken with
  | nil =>
    refine ⟨n, taken, [], ?_, List.forall_mem_nil _, rfl⟩
    cases rest with
    | nil => rfl
    | cons c rest => simp [growSignificand, hrest c rfl]
  | cons c ds ih =>
    obtain ⟨hc, hrestDigits⟩ := List.forall_mem_cons.1 hds
    rw [List.cons_append, growSignificand, digitValue?_of_isDigit hc]
    simp only
    split
    · obtain ⟨grown, took, left, hgrown, hleft, hlength⟩ := ih hrestDigits _ (taken + 1)
      exact ⟨grown, took, left, hgrown, hleft, by rw [hlength, List.length_cons]; omega⟩
    · exact ⟨n, taken, c :: ds, rfl, hds, rfl⟩

end

/-- A text is scanned to its end. -/
def Whole (scanned : Scanned) : Prop := ∃ v, scanned = (.ok v, [])

section
variable (negative : Bool) (n : Nat) {s t : List Char}

theorem whole_scanExponentPart (power : Int) (h : ExponentPart s) :
    Whole (scanExponentPart negative n power s) := by
  cases h with
  | none => exact ⟨_, rfl⟩
  | @digits sign ds hsign hds =>
    have hdigits : ∀ down power, Whole (exponentDigits negative n power down ds) := by
      intro down power
      obtain ⟨c, ds, rfl, hc⟩ := hds.cons
      rw [exponentDigits, if_neg (by simp [digitValue?_of_isDigit hc])]
      simp only [scaledNumber, takeNumber_digits hds.2]
      exact ⟨_, rfl⟩
    rcases hsign with rfl | rfl
    · exact hdigits false power
    · exact hdigits true power

theorem whole_scanFraction (power : Int) (hs : Digits s) (ht : ExponentPart t) :
    Whole (scanFraction negative n power (s ++ t)) := by
  obtain ⟨grown, took, left, hgrown, hleft, hlength⟩ :=
    growSignificand_some hs.2 ht.noDigit n 0
  have hpos : 0 < s.length := List.length_pos_iff.2 hs.1
  rw [scanFraction, hgrown]
  cases left with
  | cons c left =>
    -- digits beyond the significand's 64 bits are passed over
    obtain ⟨hc, -⟩ := List.forall_mem_cons.1 hleft
    have hcount := countDigits_digits hleft ht.noDigit 0
    rw [List.cons_append] at hcount ⊢
    simp only [digitValue?_of_isDigit hc, Option.isSome_some, if_true, hcount]
    exact whole_scanExponentPart negative grown _ ht
  | nil =>
    -- every digit was taken, so there was one
    have htook : took ≠ 0 := by simp only [List.length_nil] at hlength; omega
    cases t with
    | nil =>
      simp only [List.append_nil, if_neg htook]
      exact whole_scanExponentPart negative grown _ ht
    | cons c t =>
      simp only [List.nil_append, ht.noDigit c rfl, Option.isSome_none, Bool.false_eq_true, if_false,
        if_neg htook]
      exact whole_scanExponentPart negative grown _ ht

theorem whole_scanTail (hs : FractionPart s) (ht : ExponentPart t) :
    Whole (scanTail negative n (s ++ t)) := by
  cases hs with
  | digits hds => exact whole_scanFraction negative n 0 hds ht
  | none =>
    cases ht with
    | none => exact ⟨_, rfl⟩
    | digits hsign hds => exact whole_scanExponentPart negative n 0 (.digits hsign hds)

theorem whole_scanLongTail (extra : Nat) (hs : FractionPart s) (ht : ExponentPart t) :
    Whole (scanLongTail negative n extra (s ++ t)) := by
  cases hs with
  | digits hds => exact whole_scanFraction negative n extra hds ht
  | none =>
    cases ht with
    | none => exact ⟨_, rfl⟩
    | digits hsign hds => exact whole_scanExponentPart negative n extra (.digits hsign hds)

end

/-- **A number is scanned to its end.** -/
theorem whole_scanNumber (negative : Bool) {s : List Char} (h : Unsigned s) :
    Whole (scanNumber negative s) := by
  obtain @⟨whole, fraction, exponent, hwhole, hfraction, hexponent⟩ := h
  have hnone := hfraction.noDigit hexponent
  have htail := fun n => whole_scanTail negative n hfraction hexponent
  have hlong := fun n extra => whole_scanLongTail negative n extra hfraction hexponent
  generalize fraction ++ exponent = tail at hnone htail hlong
  cases hwhole with
  | zero =>
    rw [List.singleton_append, scanNumber_zero]
    cases tail with
    | nil => exact htail 0
    | cons c tail =>
      simp only [hnone c rfl, Option.isSome_none, Bool.false_eq_true, if_false]
      exact htail 0
  | leading h =>
    obtain ⟨grown, took, left, hgrown, hleft, -⟩ := growSignificand_some h.digits.2 hnone 0 0
    obtain ⟨c, ds, rfl, hc⟩ := h.digits.cons
    have hzero : c ≠ '0' := fun heq => h.first (congrArg some heq)
    rw [List.cons_append] at hgrown ⊢
    rw [scanNumber_cons hzero, if_neg (by simp [digitValue?_of_isDigit hc]), hgrown]
    simp only [countDigits_digits hleft hnone, Nat.zero_add]
    -- a whole part of at most 64 bits, or one that goes on beyond them
    cases left with
    | nil => exact htail grown
    | cons d left => exact hlong grown _

/-! ## Writing -/

theorem digits_natDigits (n : Nat) : Digits (natDigits n) :=
  ⟨Nat.toDigits_ne_nil, fun _ => isDigit_of_mem_natDigits⟩

theorem leading_natDigits {n : Nat} (hn : n ≠ 0) : Leading (natDigits n) := by
  obtain ⟨c, ds, hdigits, hc⟩ := natDigits_cons (Nat.pos_of_ne_zero hn)
  refine ⟨digits_natDigits n, fun hzero => hc ?_⟩
  rw [hdigits] at hzero
  exact Option.some.inj hzero

theorem wholePart_natDigits (n : Nat) : WholePart (natDigits n) := by
  rcases Nat.eq_zero_or_pos n with rfl | hn
  · exact .zero
  · exact .leading (leading_natDigits (Nat.ne_of_gt hn))

theorem isDigit_of_mem_zeros {k : Nat} {c : Char} (h : c ∈ List.replicate k '0') :
    c.isDigit = true := by
  rw [List.eq_of_mem_replicate h]
  rfl

section
variable {digits : List Char} (hdigits : Leading digits)
include hdigits

theorem unsigned_positional (point : Int) : Unsigned (positional true digits point) := by
  unfold positional
  split
  · refine .fraction .zero ⟨List.append_ne_nil_of_right_ne_nil _ hdigits.digits.1, ?_⟩
    exact List.forall_mem_append.2 ⟨fun c => isDigit_of_mem_zeros, hdigits.digits.2⟩
  · simp only
    split
    · next hpoint hlt =>
      refine .fraction (.leading (hdigits.take (by omega))) ⟨?_, fun c hc => ?_⟩
      · exact List.ne_nil_of_length_pos (by rw [List.length_drop]; omega)
      · exact hdigits.digits.2 c (List.mem_of_mem_drop hc)
    · refine .fraction (.leading (hdigits.append fun c => isDigit_of_mem_zeros)) ?_
      exact digits_zero

theorem unsigned_scientific (power : Int) : Unsigned (scientific digits power) := by
  have hwhole : WholePart (digits.take 1) := .leading (hdigits.take Nat.one_ne_zero)
  have hfraction : FractionPart
      (if (digits.drop 1).isEmpty then [] else '.' :: digits.drop 1) := by
    split
    · exact .none
    · next hsome =>
      rw [List.isEmpty_iff] at hsome
      exact .digits ⟨hsome, fun c hc => hdigits.digits.2 c (List.mem_of_mem_drop hc)⟩
  have hexponent : ExponentPart
      ('e' :: (if power < 0 then '-' else '+') :: natDigits power.natAbs) := by
    refine .digits ?_ (digits_natDigits _)
    split
    · exact .inr rfl
    · exact .inl rfl
  have hparts := Unsigned.parts hwhole hfraction hexponent
  rw [← List.append_assoc] at hparts
  simpa only [scientific, List.append_assoc, List.cons_append, List.nil_append] using hparts

end

/-- The magnitude of a double is written in the grammar. -/
theorem unsigned_double (x : Binary64) :
    ∃ s, Unsigned s ∧ dataLayout.write x = (if x.negative then ['-'] else []) ++ s := by
  rw [Layout.write]
  refine ⟨_, ?_, rfl⟩
  split
  · exact .fraction .zero digits_zero
  · next hx =>
    rcases shortest_digits dataLayout.tie (Bool.eq_false_iff.2 hx) with hne | hzero
    · have hdigits := leading_natDigits hne
      show Unsigned (if _ then _ else _)
      split
      · exact unsigned_positional hdigits _
      · exact unsigned_scientific hdigits _
    · rw [hzero]
      exact .fraction .zero digits_zero

/-- **A number is written in the grammar**, after a sign if it is negative. -/
theorem unsigned_write (n : Number) : ∃ s, Unsigned s ∧ (n.write = s ∨ n.write = '-' :: s) := by
  cases n with
  | int n =>
    refine ⟨natDigits n.natAbs, .whole (wholePart_natDigits _), ?_⟩
    show intDigits n = _ ∨ intDigits n = _
    unfold intDigits
    split
    · exact .inr rfl
    · exact .inl rfl
  | double x =>
    obtain ⟨s, hs, hwrite⟩ := unsigned_double x
    refine ⟨s, hs, ?_⟩
    show dataLayout.write x = _ ∨ dataLayout.write x = _
    rw [hwrite]
    cases x.negative with
    | false => exact .inl rfl
    | true => exact .inr rfl

/-! ## Tokens -/

/-- What a number is read as: a number, or nothing, because it is out of range. -/
inductive NumberDoc : Token → Doc → Prop
  | inRange (n : Number) : NumberDoc (.num n) (.num n)
  | outOfRange : NumberDoc (.broken .malformed none) (.fault .malformed none)

theorem numberToken_unsigned (negative : Bool) {s : List Char} (h : Unsigned s) :
    ∃ t d, NumberDoc t d ∧ ∀ rest, EndsNumber rest → numberToken negative (s ++ rest) = (t, rest) := by
  obtain ⟨v, hv⟩ := whole_scanNumber negative h
  have happend : ∀ rest, EndsNumber rest → scanNumber negative (s ++ rest) = (.ok v, rest) :=
    fun rest hrest => scanNumber_append hrest hv
  cases v with
  | some n => exact ⟨_, _, .inRange n, fun rest hrest => by rw [numberToken, happend rest hrest]⟩
  | none => exact ⟨_, _, .outOfRange, fun rest hrest => by rw [numberToken, happend rest hrest]⟩

/-- **A written number is one token**, whatever ends it. -/
theorem tokens_number (n : Number) :
    ∃ t d, NumberDoc t d ∧ ∀ rest, EndsNumber rest →
      tokens (n.write ++ rest) = t :: tokens rest := by
  obtain ⟨s, hs, hwrite⟩ := unsigned_write n
  rcases hwrite with hwrite | hwrite
  · obtain ⟨t, d, htoken, hnumber⟩ := numberToken_unsigned false hs
    obtain ⟨c, s, rfl, hc⟩ := hs.cons
    refine ⟨t, d, htoken, fun rest hrest => ?_⟩
    rw [hwrite]
    exact tokens_digit hc (hnumber rest hrest)
  · obtain ⟨t, d, htoken, hnumber⟩ := numberToken_unsigned true hs
    refine ⟨t, d, htoken, fun rest hrest => ?_⟩
    rw [hwrite]
    exact tokens_minus (hnumber rest hrest)

/-! ## Doubles -/

/-- A double whose written form is read as that double. -/
def ReadsBack (x : Binary64) : Prop :=
  parse (String.ofList (dataLayout.write x)) = .ok (.num (.double x))

theorem readsBack_iff (x : Binary64) :
    ReadsBack x ↔ (match parse (String.ofList (dataLayout.write x)) with
      | .ok (.num m) => some m
      | _ => none) = some (.double x) := by
  unfold ReadsBack
  split
  · next m hm => simp [hm]
  · next hm =>
    constructor
    · exact fun h => absurd h (hm _)
    · exact nofun

instance (x : Binary64) : Decidable (ReadsBack x) := decidable_of_iff _ (readsBack_iff x).symm

/-- **A double that reads back is read as it is written**, whatever ends it. -/
theorem tokens_double {x : Binary64} (hx : ReadsBack x) {rest : List Char}
    (hrest : EndsNumber rest) :
    tokens (dataLayout.write x ++ rest) = .num (.double x) :: tokens rest := by
  obtain ⟨t, d, htoken, htokens⟩ := tokens_number (.double x)
  have halone : tokens (dataLayout.write x) = [t] := by
    have hnil := htokens [] nofun
    rwa [List.append_nil] at hnil
  rw [ReadsBack, parse, decodeText, read, String.toList_ofList, readChars, halone] at hx
  cases htoken with
  | inRange m =>
    have hm : m = .double x := Json.num.inj (Except.ok.inj hx)
    rw [← hm]
    exact htokens rest hrest
  | outOfRange => cases hx

end Inquest.Json
