import Inquest.Evidence

/-! # Evidence put into instructions

What `inject` makes of instructions is their text with the section, if there is one, `revised`.

* `revised_eq_self_iff`: nothing changes just where the section already holds the evidence.
* `inject_eq`: an error for a section that is never closed, the revised text for a change.
-/

namespace Inquest.Evidence

/-- The instructions with the section replaced, if there is one. -/
def revised (items : List Evidence) (instructions : String) : String :=
  match splitSection instructions.toList with
  | .found before _ after =>
    String.ofList (before ++ openMarker ++ bodyChars items ++ closeMarker ++ after)
  | _ => instructions

section
variable {items : List Evidence} {instructions : String} {before body after : List Char}
  (h : splitSection instructions.toList = .found before body after)
include h

theorem revised_of_found :
    revised items instructions =
      String.ofList (before ++ openMarker ++ bodyChars items ++ closeMarker ++ after) := by
  rw [revised, h]

theorem revised_eq_self_of_found :
    revised items instructions = instructions ↔ body = bodyChars items := by
  have hwhole : instructions.toList = before ++ openMarker ++ (body ++ closeMarker ++ after) :=
    splitSection_eq_found h
  rw [revised_of_found h, ← String.toList_inj, String.toList_ofList, hwhole]
  simp only [List.append_assoc, List.append_cancel_left_eq, List.append_cancel_right_eq]
  exact eq_comm

end

/-- **Nothing changes just where the section, if there is one, already holds the evidence.** -/
theorem revised_eq_self_iff {items : List Evidence} {instructions : String} :
    revised items instructions = instructions ↔
      ∀ before body after, splitSection instructions.toList = .found before body after →
        body = bodyChars items := by
  constructor
  · exact fun hsame _ _ _ hfound => (revised_eq_self_of_found hfound).1 hsame
  · intro hbody
    cases h : splitSection instructions.toList with
    | found before body after => exact (revised_eq_self_of_found h).2 (hbody before body after h)
    | _ => rw [revised, h]

/-- What comes of putting evidence into instructions. -/
theorem inject_eq (instructions : String) (items : List Evidence) :
    inject instructions items =
      if splitSection instructions.toList = .unclosed then .error .unclosedMarker
      else .ok (if revised items instructions = instructions then none
        else some (revised items instructions)) := by
  unfold inject injectChars
  cases h : splitSection instructions.toList with
  | absent =>
    have hsame : revised items instructions = instructions := by rw [revised, h]
    rw [if_neg nofun, if_pos hsame]
    rfl
  | unclosed => rfl
  | found before body after =>
    have hsame : revised items instructions = instructions ↔ body = bodyChars items :=
      revised_eq_self_of_found h
    rw [if_neg nofun]
    by_cases hbody : body = bodyChars items
    · rw [if_pos (hsame.2 hbody)]
      simp only [hbody, if_true]
      rfl
    · rw [if_neg fun heq => hbody (hsame.1 heq), revised_of_found h]
      simp only [hbody, if_false]
      rfl

end Inquest.Evidence
