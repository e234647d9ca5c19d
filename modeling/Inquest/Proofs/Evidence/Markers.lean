import Inquest.Proofs.Evidence
import Inquest.Proofs.Text.Search

/-! # The markers stay where they are

Evidence is put between the first opening marker and the first closing marker behind it. As long as no
item spells out the closing marker, these are the first ones afterwards too, whatever the items say: a
line begins with a dash, its name ends at a colon or at the end of the line, and the marker has none of
these.

* `splitSection_eq_found_iff`: the section lies between the two first markers.
* `splitSection_revised`: revised instructions have the same text before the section and behind it.
-/

namespace Inquest.Evidence

/-- Neither the name nor the description holds the closing marker. -/
def Unmarked (e : Evidence) : Prop :=
  ¬ closeMarker <:+: e.name.toList ∧ ¬ closeMarker <:+: e.description.toList

/-! ## Lines -/

theorem closeMarker_ne_nil : closeMarker ≠ [] := by decide

theorem newline_not_mem_closeMarker : '\n' ∉ closeMarker := by decide

/-- The marker begins with a bracket, not with the blank before a name. -/
theorem infix_of_infix_space {s : List Char} (h : closeMarker <:+: ' ' :: s) :
    closeMarker <:+: s := by
  rcases List.infix_cons_iff.1 h with hp | hs
  · rcases List.prefix_cons_iff.1 hp with hnil | ⟨t, ht, -⟩
    · exact absurd hnil closeMarker_ne_nil
    · have hhead : closeMarker.head? = some '[' := by decide
      rw [ht] at hhead
      exact absurd hhead (by simp)
  · exact hs

/-- A marker in a line, or behind it, is in the name, in the description or behind the line. -/
theorem infix_line {e : Evidence} {rest : List Char} (h : closeMarker <:+: e.line ++ rest) :
    closeMarker <:+: e.name.toList ∨ closeMarker <:+: e.description.toList ∨
      closeMarker <:+: rest := by
  -- the marker has none of the characters that hold a line together, so it lies between them
  have hdash : '-' ∉ closeMarker := by decide
  have hcolon : ':' ∉ closeMarker := by decide
  have hskip {s : List Char} (hs : closeMarker <:+: [] ++ '-' :: ' ' :: s) : closeMarker <:+: s := by
    rcases Text.infix_append_cons hdash closeMarker_ne_nil hs with hs | hs
    · exact absurd (List.infix_nil.1 hs) closeMarker_ne_nil
    · exact infix_of_infix_space hs
  unfold line at h
  split at h
  · simp only [List.cons_append, List.append_assoc, List.nil_append] at h
    rcases Text.infix_append_cons newline_not_mem_closeMarker closeMarker_ne_nil (hskip h)
      with h | h
    · exact .inl h
    · exact .inr (.inr h)
  · simp only [List.cons_append, List.append_assoc, List.nil_append] at h
    rcases Text.infix_append_cons hcolon closeMarker_ne_nil (hskip h) with h | h
    · exact .inl h
    · rcases Text.infix_append_cons newline_not_mem_closeMarker closeMarker_ne_nil
        (infix_of_infix_space h) with h | h
      · exact .inr (.inl h)
      · exact .inr (.inr h)

theorem not_infix_lines {items : List Evidence} (h : ∀ e ∈ items, e.Unmarked) :
    ¬ closeMarker <:+: items.flatMap line := by
  induction items with
  | nil =>
    intro hin
    exact closeMarker_ne_nil (List.infix_nil.1 hin)
  | cons e rest ih =>
    intro hin
    rcases infix_line hin with hname | hdescription | hrest
    · exact (h e List.mem_cons_self).1 hname
    · exact (h e List.mem_cons_self).2 hdescription
    · exact ih (fun e he => h e (List.mem_cons_of_mem _ he)) hrest

/-! ## The body -/

theorem line_ends (e : Evidence) : ∃ s, e.line = s ++ ['\n'] := by
  unfold line
  split
  · exact ⟨'-' :: ' ' :: e.name.toList, rfl⟩
  · exact ⟨'-' :: ' ' :: (e.name.toList ++ ':' :: ' ' :: e.description.toList), by simp⟩

/-- The text between the markers ends with its last line. -/
theorem bodyChars_ends (items : List Evidence) : ∃ s, bodyChars items = s ++ ['\n'] := by
  rcases List.eq_nil_or_concat items with rfl | ⟨before, e, rfl⟩
  · exact ⟨"\n- (none)".toList, by decide⟩
  · obtain ⟨s, hs⟩ := e.line_ends
    refine ⟨'\n' :: (before.flatMap line ++ s), ?_⟩
    simp [bodyChars, hs]

theorem not_infix_bodyChars {items : List Evidence} (h : ∀ e ∈ items, e.Unmarked) :
    ¬ closeMarker <:+: bodyChars items := by
  intro hin
  change closeMarker <:+: [] ++ '\n' :: _ at hin
  rcases Text.infix_append_cons newline_not_mem_closeMarker closeMarker_ne_nil hin
    with hin | hin
  · exact closeMarker_ne_nil (List.infix_nil.1 hin)
  · split at hin
    · exact absurd hin.length_le (by decide)
    · exact not_infix_lines h hin

/-- **The first closing marker behind unmarked items is the one that was put there.** -/
theorem splitAt?_bodyChars {items : List Evidence} (h : ∀ e ∈ items, e.Unmarked)
    (after : List Char) :
    Text.splitAt? closeMarker (bodyChars items ++ closeMarker ++ after) =
      some (bodyChars items, after) := by
  obtain ⟨s, hs⟩ := bodyChars_ends items
  have hno := not_infix_bodyChars h
  rw [hs] at hno ⊢
  exact Text.splitAt?_append newline_not_mem_closeMarker hno after

/-! ## The section -/

/-- **The section lies between the first opening marker and the first closing marker behind it.** -/
theorem splitSection_eq_found_iff {instructions before body after : List Char} :
    splitSection instructions = .found before body after ↔
      instructions = before ++ openMarker ++ (body ++ closeMarker ++ after) ∧
        (∀ n < before.length, ¬ openMarker <+: instructions.drop n) ∧
        ∀ n < body.length, ¬ closeMarker <+: (body ++ closeMarker ++ after).drop n := by
  have hparts : splitSection instructions = .found before body after ↔
      ∃ rest, Text.splitAt? openMarker instructions = some (before, rest) ∧
        Text.splitAt? closeMarker rest = some (body, after) := by
    unfold splitSection
    constructor
    · intro h
      split at h
      · cases h
      · next rest hopen =>
        split at h
        · cases h
        · next hclose =>
          cases h
          exact ⟨_, hopen, hclose⟩
    · rintro ⟨rest, hopen, hclose⟩
      simp only [hopen, hclose]
  simp only [hparts, Text.splitAt?_eq_some_iff]
  constructor
  · rintro ⟨_, ⟨hwhole, hopen⟩, rfl, hclose⟩
    exact ⟨hwhole, hopen, hclose⟩
  · rintro ⟨hwhole, hopen, hclose⟩
    exact ⟨_, ⟨hwhole, hopen⟩, rfl, hclose⟩

/-- In revised instructions the section begins where it did and ends at the first closing marker. -/
theorem splitSection_revised_of {items : List Evidence} {instructions : String}
    {before body after body' after' : List Char}
    (h : splitSection instructions.toList = .found before body after)
    (hclose : Text.splitAt? closeMarker (bodyChars items ++ closeMarker ++ after) =
      some (body', after')) :
    splitSection (revised items instructions).toList = .found before body' after' := by
  obtain ⟨hwhole, hopen, -⟩ := splitSection_eq_found_iff.1 h
  -- what comes after the opening marker does not move the marker
  have hfirst : Text.splitAt? openMarker instructions.toList =
      some (before, body ++ closeMarker ++ after) := Text.splitAt?_eq_some_iff.2 ⟨hwhole, hopen⟩
  rw [hwhole] at hfirst
  obtain ⟨-, hopen'⟩ := Text.splitAt?_eq_some_iff.1
    (Text.splitAt?_rest hfirst (bodyChars items ++ closeMarker ++ after))
  obtain ⟨htold, hclose'⟩ := Text.splitAt?_eq_some_iff.1 hclose
  have hrevised : (revised items instructions).toList =
      before ++ openMarker ++ (body' ++ closeMarker ++ after') := by
    rw [revised_of_found h, String.toList_ofList, ← htold]
    simp only [List.append_assoc]
  rw [htold, ← hrevised] at hopen'
  rw [htold] at hclose'
  exact splitSection_eq_found_iff.2 ⟨hrevised, hopen', hclose'⟩

/-- **Revised instructions have the same text before the section and behind it.** -/
theorem splitSection_revised {items : List Evidence} {instructions : String}
    {before body after : List Char} (hitems : ∀ e ∈ items, e.Unmarked)
    (h : splitSection instructions.toList = .found before body after) :
    splitSection (revised items instructions).toList = .found before (bodyChars items) after :=
  splitSection_revised_of h (splitAt?_bodyChars hitems after)

end Inquest.Evidence
