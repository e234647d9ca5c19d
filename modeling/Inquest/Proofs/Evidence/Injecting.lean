import Mathlib.Logic.ExistsUnique
import Inquest.Proofs.Evidence.Markers
import Inquest.Proofs.Text.Offsets

/-! # What comes of putting evidence into instructions

The outcome of `inject` is settled by where the markers stand, whatever else the instructions hold.

* `Parts`: the instructions around and between the first opening marker and the first closing marker
  behind it. There is at most one way to divide them so (`Parts.unique`).
* `injectAt`: the same by offsets in bytes, which fails where a cut would go through a character.
  `injectAt_eq`: it never does, and comes to what `inject` comes to.
* `inject_exactly`: the outcome in all cases.
-/

namespace Inquest.Evidence

variable {instructions : String} {items : List Evidence} {text before body after rest : List Char}

/-- The text before, between and behind the first opening marker and the first closing marker that
follows it. -/
structure Parts (text before body after : List Char) : Prop where
  opened : Text.FirstAt openMarker text before (body ++ closeMarker ++ after)
  closed : Text.FirstAt closeMarker (body ++ closeMarker ++ after) body after

theorem Parts.unique {before' body' after' : List Char} (h : Parts text before body after)
    (h' : Parts text before' body' after') : before' = before ∧ body' = body ∧ after' = after := by
  obtain ⟨hbefore, hrest⟩ := h.opened.unique h'.opened
  have hclosed := h'.closed
  rw [hrest] at hclosed
  exact ⟨hbefore, h.closed.unique hclosed⟩

/-! ## The section by its markers -/

theorem splitSection_eq_absent_iff : splitSection text = .absent ↔ ¬ openMarker <:+: text := by
  rw [← Text.splitAt?_eq_none_iff]
  unfold splitSection
  split
  · simp [*]
  · split <;> simp [*]

theorem splitSection_eq_unclosed_iff :
    splitSection text = .unclosed ↔
      ∃ before rest, Text.FirstAt openMarker text before rest ∧ ¬ closeMarker <:+: rest := by
  simp only [← Text.splitAt?_eq_none_iff, ← Text.splitAt?_eq_some_iff_firstAt]
  unfold splitSection
  split
  · simp [*]
  · next before rest hopen =>
    split
    · next hclose => exact iff_of_true rfl ⟨before, rest, hopen, hclose⟩
    · next hclose =>
      refine iff_of_false nofun ?_
      rintro ⟨before', rest', hopen', hclose'⟩
      simp_all

theorem splitSection_eq_found_iff_parts :
    splitSection text = .found before body after ↔ Parts text before body after := by
  rw [splitSection_eq_found_iff]
  constructor
  · rintro ⟨hwhole, hopen, hclose⟩
    constructor
    · exact Text.splitAt?_eq_some_iff_firstAt.1 (Text.splitAt?_eq_some_iff.2 ⟨hwhole, hopen⟩)
    · exact Text.splitAt?_eq_some_iff_firstAt.1 (Text.splitAt?_eq_some_iff.2 ⟨rfl, hclose⟩)
  · rintro ⟨hopen, hclose⟩
    obtain ⟨hwhole, hopen⟩ :=
      Text.splitAt?_eq_some_iff.1 (Text.splitAt?_eq_some_iff_firstAt.2 hopen)
    obtain ⟨-, hclose⟩ := Text.splitAt?_eq_some_iff.1 (Text.splitAt?_eq_some_iff_firstAt.2 hclose)
    exact ⟨hwhole, hopen, hclose⟩

/-! ## The outcome -/

theorem inject_of_absent (h : splitSection instructions.toList = .absent) :
    inject instructions items = .ok none := by
  simp [inject, injectChars, h, Except.map]

theorem inject_of_unclosed (h : splitSection instructions.toList = .unclosed) :
    inject instructions items = .error .unclosedMarker := by
  simp [inject, injectChars, h, Except.map]

theorem inject_of_found (h : splitSection instructions.toList = .found before body after) :
    inject instructions items =
      .ok (if body = bodyChars items then none
        else some (String.ofList (before ++ openMarker ++ bodyChars items ++ closeMarker ++ after))) := by
  by_cases hbody : body = bodyChars items <;>
    simp [inject, injectChars, h, hbody, Except.map]

theorem inject_eq_error_iff :
    inject instructions items = .error .unclosedMarker ↔
      splitSection instructions.toList = .unclosed := by
  cases h : splitSection instructions.toList with
  | absent => simp [inject_of_absent h]
  | unclosed => simp [inject_of_unclosed h]
  | found before body after => simp [inject_of_found h]

/-! ## Offsets in bytes -/

/-- Evidence put into instructions whose markers are found, and which are cut, at offsets in bytes;
nothing comes of a cut through a character. -/
def injectAt (instructions : String) (items : List Evidence) :
    Option (Except InjectError (Option String)) :=
  let text := instructions.toList
  match Text.offset? openMarker text with
  | none => some (.ok none)
  | some opening => do
    let bodyStart := opening + (Text.bytes openMarker).length
    let (untilBody, fromBody) ← Text.cutAt? bodyStart text
    match Text.offset? closeMarker fromBody with
    | none => some (.error .unclosedMarker)
    | some closing => do
      let (untilClose, fromClose) ← Text.cutAt? (bodyStart + closing) text
      let (_, told) ← Text.cutAt? bodyStart untilClose
      if told = bodyChars items then some (.ok none)
      else some (.ok (some (String.ofList (untilBody ++ bodyChars items ++ fromClose))))

theorem openMarker_ne_nil : openMarker ≠ [] := by decide

/-- Where the first opening marker ends, the instructions can be cut. -/
theorem cutAt?_body (before rest : List Char) :
    Text.cutAt? ((Text.bytes before).length + (Text.bytes openMarker).length)
      (before ++ openMarker ++ rest) = some (before ++ openMarker, rest) := by
  rw [← List.length_append, ← Text.bytes_append]
  exact Text.cutAt?_bytes ..

/-- **No cut goes through a character**, and what comes of offsets in bytes is what comes of
characters. -/
theorem injectAt_eq (instructions : String) (items : List Evidence) :
    injectAt instructions items = some (inject instructions items) := by
  simp only [injectAt, Text.offset?_eq openMarker_ne_nil]
  -- the two searches by offsets find what the two splits find, the second after the first
  cases hopen : Text.splitAt? openMarker instructions.toList with
  | none =>
    rw [inject_of_absent (splitSection_eq_absent_iff.2 (Text.splitAt?_eq_none_iff.1 hopen))]
    rfl
  | some parts =>
    obtain ⟨before, rest⟩ := parts
    have hwhole : instructions.toList = before ++ openMarker ++ rest := Text.splitAt?_eq_some hopen
    simp only [Option.map_some, hwhole, cutAt?_body, Option.bind_eq_bind, Option.bind_some,
      Text.offset?_eq closeMarker_ne_nil]
    cases hclose : Text.splitAt? closeMarker rest with
    | none =>
      have hunclosed : splitSection instructions.toList = .unclosed :=
        splitSection_eq_unclosed_iff.2 ⟨before, rest,
          Text.splitAt?_eq_some_iff_firstAt.1 hopen, Text.splitAt?_eq_none_iff.1 hclose⟩
      rw [inject_of_unclosed hunclosed]
      rfl
    | some parts =>
      obtain ⟨body, after⟩ := parts
      have hfound : splitSection instructions.toList = .found before body after := by
        simp only [splitSection, hopen, hclose]
      have hrest : before ++ openMarker ++ rest =
          (before ++ openMarker ++ body) ++ (closeMarker ++ after) := by
        rw [Text.splitAt?_eq_some hclose]
        simp only [List.append_assoc]
      have hcut : Text.cutAt?
          ((Text.bytes before).length + (Text.bytes openMarker).length + (Text.bytes body).length)
          (before ++ openMarker ++ rest) =
            some (before ++ openMarker ++ body, closeMarker ++ after) := by
        rw [hrest, ← List.length_append, ← List.length_append, ← Text.bytes_append,
          ← Text.bytes_append]
        exact Text.cutAt?_bytes ..
      rw [inject_of_found hfound]
      simp only [Option.map_some, hcut, cutAt?_body, Option.bind_some]
      by_cases hbody : body = bodyChars items <;> simp [hbody]

/-- **The outcome of one injection.** It fails just where the first opening marker has no closing
marker behind it, and changes nothing where there is no opening marker. Otherwise the instructions
divide in one way only into the text before, between and behind the two markers, of which the text
between them is replaced by the evidence, if it is another; before and behind, nothing moves. Found
and cut by offsets in bytes, no character is cut in two and the outcome is the same. -/
theorem inject_exactly (instructions : String) (items : List Evidence) :
    (inject instructions items = .error .unclosedMarker ↔
      ∃ before rest, Text.FirstAt openMarker instructions.toList before rest ∧
        ¬ closeMarker <:+: rest) ∧
    (¬ openMarker <:+: instructions.toList → inject instructions items = .ok none) ∧
    (openMarker <:+: instructions.toList → inject instructions items ≠ .error .unclosedMarker →
      ∃! parts : List Char × List Char × List Char,
        Parts instructions.toList parts.1 parts.2.1 parts.2.2) ∧
    (∀ before body after, Parts instructions.toList before body after →
      (inject instructions items = .ok none ↔ body = bodyChars items) ∧
      (body ≠ bodyChars items → inject instructions items = .ok (some (String.ofList
        (before ++ openMarker ++ bodyChars items ++ closeMarker ++ after))))) ∧
    injectAt instructions items = some (inject instructions items) := by
  refine ⟨?_, ?_, ?_, ?_, injectAt_eq instructions items⟩
  · rw [inject_eq_error_iff, splitSection_eq_unclosed_iff]
  · intro hopen
    exact inject_of_absent (splitSection_eq_absent_iff.2 hopen)
  · intro hopen hclosed
    cases h : splitSection instructions.toList with
    | absent => exact absurd hopen (splitSection_eq_absent_iff.1 h)
    | unclosed => exact absurd (inject_of_unclosed h) hclosed
    | found before body after =>
      have hparts := splitSection_eq_found_iff_parts.1 h
      refine ⟨(before, body, after), hparts, ?_⟩
      rintro ⟨before', body', after'⟩ hparts'
      obtain ⟨rfl, rfl, rfl⟩ := hparts.unique hparts'
      rfl
  · intro before body after hparts
    rw [inject_of_found (splitSection_eq_found_iff_parts.2 hparts)]
    by_cases hbody : body = bodyChars items <;> simp [hbody]

/-- Letters of two and three bytes around the markers, and a closing marker before the opening one. -/
example :
    (inject "é [END COLLECTED EVIDENCE] ☂[COLLECTED EVIDENCE]ü[END COLLECTED EVIDENCE]ß"
      [⟨"épée", ""⟩]).toOption =
    some (some ("é [END COLLECTED EVIDENCE] ☂[COLLECTED EVIDENCE]\n- épée\n" ++
      "[END COLLECTED EVIDENCE]ß")) := by
  decide +kernel

end Inquest.Evidence
