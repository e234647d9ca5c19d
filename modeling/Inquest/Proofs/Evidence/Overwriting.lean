import Inquest.Proofs.Evidence.Markers

/-! # Evidence told again and again

Evidence that is put into instructions takes the place of what was told before, unless that spells out
the closing marker. Then the section that is found the next time ends within the old evidence, and
the rest of it stays in the instructions for good.

* `unmarked_iff`: no item holds the closing marker just where the text between the markers does not.
* `splitSection_told`: what lies behind the section after evidence was told.
* `told_again_iff`: only the evidence told last is left just where none before it held the marker.
* `knot_piles_up`: an item whose name is the closing marker makes the instructions longer every time.
-/

namespace Inquest.Evidence

/-! ## Items and the text between the markers -/

theorem line_infix_bodyChars {items : List Evidence} {e : Evidence} (he : e ∈ items) :
    e.line <:+: bodyChars items := by
  obtain ⟨before, after, rfl⟩ := List.append_of_mem he
  refine ⟨'\n' :: before.flatMap line, after.flatMap line, ?_⟩
  simp [bodyChars]

theorem name_infix_line (e : Evidence) : e.name.toList <:+: e.line := by
  unfold line
  split
  · exact ⟨['-', ' '], ['\n'], by simp⟩
  · exact ⟨['-', ' '], ':' :: ' ' :: (e.description.toList ++ ['\n']), by simp⟩

/-- A description with a marker is not blank, so it is told. -/
theorem description_infix_line {e : Evidence} (h : closeMarker <:+: e.description.toList) :
    e.description.toList <:+: e.line := by
  have hbracket : '[' ∈ e.description.toList := h.subset (by decide)
  have hblank : Text.isBlank e.description = false := by
    refine Bool.eq_false_iff.2 fun hblank => ?_
    have hall := List.all_eq_true.1 hblank '[' hbracket
    exact absurd hall (by decide)
  rw [line, if_neg (by simp [hblank])]
  exact ⟨'-' :: ' ' :: (e.name.toList ++ [':', ' ']), ['\n'], by simp⟩

/-- **The text between the markers holds the closing marker just where an item does.** -/
theorem unmarked_iff {items : List Evidence} :
    (∀ e ∈ items, e.Unmarked) ↔ ¬ closeMarker <:+: bodyChars items := by
  constructor
  · exact not_infix_bodyChars
  · intro hbody e he
    have hline : e.line <:+: bodyChars items := line_infix_bodyChars he
    constructor
    · intro hname
      exact hbody ((hname.trans e.name_infix_line).trans hline)
    · intro hdescription
      exact hbody ((hdescription.trans (description_infix_line hdescription)).trans hline)

/-! ## What is left behind -/

/-- What stays behind the section once other evidence is told: the text from the first closing marker
within the old evidence on. -/
def leftover (items : List Evidence) : List Char :=
  match Text.splitAt? closeMarker (bodyChars items) with
  | none => []
  | some (_, rest) => rest ++ closeMarker

theorem leftover_eq_nil_iff {items : List Evidence} :
    leftover items = [] ↔ ∀ e ∈ items, e.Unmarked := by
  rw [unmarked_iff, ← Text.splitAt?_eq_none_iff, leftover]
  cases Text.splitAt? closeMarker (bodyChars items) with
  | none => simp
  | some parts => simp [closeMarker_ne_nil]

/-- **Told evidence ends at the first closing marker in it**, and what follows is behind the
section. -/
theorem splitSection_told (items : List Evidence) {instructions : String}
    {before body after : List Char}
    (h : splitSection instructions.toList = .found before body after) :
    ∃ body', splitSection (revised items instructions).toList =
      .found before body' (leftover items ++ after) := by
  rcases hfirst : Text.splitAt? closeMarker (bodyChars items) with _ | ⟨told, rest⟩
  · have hitems : ∀ e ∈ items, e.Unmarked :=
      unmarked_iff.2 (Text.splitAt?_eq_none_iff.1 hfirst)
    refine ⟨bodyChars items, ?_⟩
    rw [leftover_eq_nil_iff.2 hitems]
    exact splitSection_revised hitems h
  · have hmore := Text.splitAt?_more hfirst (closeMarker ++ after)
    refine ⟨told, splitSection_revised_of h ?_⟩
    simp only [leftover, hfirst, List.append_assoc]
    exact hmore

/-! ## Evidence told many times -/

/-- The instructions once evidence was put into them, changed or not. -/
def tell (instructions : String) (items : List Evidence) : Except InjectError String :=
  (inject instructions items).map fun changed => changed.getD instructions

theorem tell_eq (instructions : String) (items : List Evidence) :
    tell instructions items =
      if splitSection instructions.toList = .unclosed then .error .unclosedMarker
      else .ok (revised items instructions) := by
  rw [tell, inject_eq]
  split
  · rfl
  · split
    · next hsame => exact congrArg Except.ok hsame.symm
    · rfl

theorem tell_of_found {instructions : String} {before body after : List Char}
    (h : splitSection instructions.toList = .found before body after) (items : List Evidence) :
    tell instructions items = .ok (revised items instructions) := by
  rw [tell_eq, if_neg (by simp [h])]

/-- One list of evidence told after the other, and then the last. -/
theorem tell_all_of_found (inventories : List (List Evidence)) (last : List Evidence)
    {instructions : String} {before body after : List Char}
    (h : splitSection instructions.toList = .found before body after) :
    (inventories ++ [last]).foldlM tell instructions =
      .ok (String.ofList (before ++ openMarker ++ bodyChars last ++ closeMarker ++
        (inventories.reverse.flatMap leftover ++ after))) := by
  induction inventories generalizing instructions body after with
  | nil =>
    rw [List.nil_append, List.foldlM_cons, tell_of_found h, revised_of_found h]
    rfl
  | cons items rest ih =>
    obtain ⟨body', htold⟩ := splitSection_told items h
    rw [List.cons_append, List.foldlM_cons, tell_of_found h]
    refine (ih htold).trans ?_
    simp

/-- Without a section that is closed there is nothing to tell. -/
theorem tell_all_of_not_found {instructions : String}
    (h : ∀ before body after, splitSection instructions.toList ≠ .found before body after)
    (inventories : List (List Evidence)) (last : List Evidence) :
    (inventories ++ [last]).foldlM tell instructions = tell instructions last := by
  have htell (items : List Evidence) :
      tell instructions items =
        if splitSection instructions.toList = .unclosed then .error .unclosedMarker
        else .ok instructions := by
    rw [tell_eq, revised_eq_self_iff.2 fun before body after hfound =>
      absurd hfound (h before body after)]
  by_cases hunclosed : splitSection instructions.toList = .unclosed
  · cases inventories with
    | nil => simp
    | cons items rest =>
      rw [List.cons_append, List.foldlM_cons, htell items, htell last, if_pos hunclosed]
      rfl
  · induction inventories with
    | nil => simp
    | cons items rest ih =>
      rw [List.cons_append, List.foldlM_cons, htell items, if_neg hunclosed]
      exact ih

/-- **Only the evidence told last is left just where none before it held the closing marker.**
Whatever was told before, the text before the section and the evidence told last are there; of what
was told before, all that follows a closing marker in it stays behind the section, the latest
first. -/
theorem told_again_iff (instructions : String) (inventories : List (List Evidence))
    (last : List Evidence) :
    ((inventories ++ [last]).foldlM tell instructions = tell instructions last ↔
        ((∃ before body after, splitSection instructions.toList = .found before body after) →
          ∀ items ∈ inventories, ∀ e ∈ items, e.Unmarked)) ∧
      ∀ before body after, splitSection instructions.toList = .found before body after →
        (inventories ++ [last]).foldlM tell instructions =
          .ok (String.ofList (before ++ openMarker ++ bodyChars last ++ closeMarker ++
            (inventories.reverse.flatMap leftover ++ after))) := by
  refine ⟨?_, fun before body after h => tell_all_of_found inventories last h⟩
  by_cases hfound : ∃ before body after,
      splitSection instructions.toList = .found before body after
  · obtain ⟨before, body, after, h⟩ := hfound
    -- telling piles up what each inventory leaves over, which is nothing just for unmarked items
    have hleft : inventories.reverse.flatMap leftover = [] ↔
        ∀ items ∈ inventories, ∀ e ∈ items, e.Unmarked := by
      simp only [List.flatMap_eq_nil_iff, List.mem_reverse, leftover_eq_nil_iff]
    rw [tell_all_of_found inventories last h, tell_of_found h, revised_of_found h,
      Except.ok.injEq, String.ofList_inj, List.append_cancel_left_eq,
      List.append_left_eq_self, hleft]
    exact ⟨fun hitems _ => hitems, fun hitems => hitems ⟨before, body, after, h⟩⟩
  · have hnone : ∀ before body after,
        splitSection instructions.toList ≠ .found before body after :=
      fun before body after h => hfound ⟨before, body, after, h⟩
    exact ⟨fun _ hsome => absurd hsome hfound,
      fun _ => tell_all_of_not_found hnone inventories last⟩

/-- An item whose name is the closing marker. -/
def knot : Evidence := ⟨"[END COLLECTED EVIDENCE]", ""⟩

/-- **Telling the same evidence again need not leave the instructions as they are.** -/
theorem knot_piles_up :
    let bare := "[COLLECTED EVIDENCE][END COLLECTED EVIDENCE]"
    let once := "[COLLECTED EVIDENCE]\n- [END COLLECTED EVIDENCE]\n[END COLLECTED EVIDENCE]"
    (tell bare [knot]).toOption = some once ∧
      (tell once [knot]).toOption = some (once ++ "\n[END COLLECTED EVIDENCE]") ∧
      ([[knot], [knot]].foldlM tell bare).toOption ≠ (tell bare [knot]).toOption := by
  decide +kernel

end Inquest.Evidence
