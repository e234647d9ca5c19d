import Mathlib.Data.List.Infix
import Inquest.Proofs.Text.Search
import Inquest.Proofs.World.Causes

/-! # Who is found by a name

A suspect answers to a text that holds their name or their role, and of those who do, the first in the
town is found. So whoever is named exactly is found, unless somebody before them in the town answers
to the same name: Ann does to "Joanna".

* `find?_eq_some_iff`: who is found, by the order of the town.
* `posts_goTo_iff`, `posts_arrest_iff`: the commands that come of whom was found, and no other.
* `found_by_name`: an exact name. `ann_found_for_joanna`: a name that holds another.
-/

namespace Inquest

/-- An errand whose first commands are settled posts a command next. -/
def Errand.Posts {α : Type} (e : Errand α) (past : List (Command × Settlement)) (cmd : Command) :
    Prop :=
  ∃ next, e.Leads past (.post cmd next)

section

variable {α : Type} {a : α} {c cmd : Command} {next : Settlement → Errand α}
  {past : List (Command × Settlement)}

theorem Errand.not_posts_done : ¬ (Errand.done a).Posts past cmd := by
  rintro ⟨_, h⟩
  cases h

theorem Errand.posts_post :
    (Errand.post c next).Posts past cmd ↔
      past = [] ∧ cmd = c ∨ ∃ s rest, past = (c, s) :: rest ∧ (next s).Posts rest cmd := by
  constructor
  · rintro ⟨after, h⟩
    cases h with
    | here => exact .inl ⟨rfl, rfl⟩
    | settled h => exact .inr ⟨_, _, rfl, after, h⟩
  · rintro (⟨rfl, rfl⟩ | ⟨s, rest, rfl, after, h⟩)
    · exact ⟨next, .here _⟩
    · exact ⟨after, .settled h⟩

end

namespace Conduct

/-- The form in which names are looked for: without blanks at the ends, in small letters. -/
def folded (text : String) : String := Text.lowercase (Text.trim text)

/-- A suspect answers to a text in which their name or their role occurs. -/
def AnswersTo (npc : Profile) (text : String) : Prop :=
  (folded npc.name ≠ "" ∧ (folded npc.name).toList <:+: (folded text).toList) ∨
    (npc.role ≠ "" ∧ npc.role.toList <:+: (folded text).toList)

instance (npc : Profile) (text : String) : Decidable (AnswersTo npc text) :=
  inferInstanceAs (Decidable (_ ∨ _))

variable {c : Conduct} {p q npc : Profile} {text : String} {before after : List Profile}

theorem AnswersTo.folded_ne (h : AnswersTo npc text) : folded text ≠ "" := by
  intro hempty
  rcases h with ⟨hne, h⟩ | ⟨hne, h⟩ <;>
  · rw [hempty, String.toList_empty, List.infix_nil, String.toList_eq_nil_iff] at h
    exact hne h

theorem find?_eq (c : Conduct) (text : String) :
    c.find? text = c.town.find? fun npc => AnswersTo npc text := by
  -- an empty name or role is passed over, as it stands in every text
  have hanswers : ∀ npc : Profile,
      ((!(folded npc.name).isEmpty &&
          Text.contains (folded npc.name).toList (folded text).toList) ||
        (!npc.role.isEmpty && Text.contains npc.role.toList (folded text).toList)) =
      decide (AnswersTo npc text) := by
    intro npc
    rw [Bool.eq_iff_iff, decide_eq_true_iff]
    simp [Text.contains_iff, AnswersTo]
  unfold find?
  by_cases htext : folded text = ""
  · have hnone : c.town.find? (fun npc => AnswersTo npc text) = none := by
      rw [List.find?_eq_none]
      intro npc _ h
      exact (of_decide_eq_true h).folded_ne htext
    rw [hnone]
    exact if_pos (String.isEmpty_iff.2 htext)
  · refine (if_neg fun h => htext (String.isEmpty_iff.1 h)).trans ?_
    exact congrArg c.town.find? (funext hanswers)

/-- **Who is found**: the first of the town who answers. -/
theorem find?_eq_some_iff :
    c.find? text = some q ↔
      AnswersTo q text ∧
        ∃ before after, c.town = before ++ q :: after ∧ ∀ npc ∈ before, ¬ AnswersTo npc text := by
  rw [find?_eq, List.find?_eq_some_iff_append]
  simp

theorem answersTo_name (h : folded p.name ≠ "") : AnswersTo p p.name :=
  .inl ⟨h, List.infix_rfl⟩

/-- Whoever is named is found, or somebody before them. -/
theorem find?_name_of_split (htown : c.town = before ++ p :: after) (h : folded p.name ≠ "") :
    ∃ q ∈ before ++ [p], c.find? p.name = some q := by
  rw [find?_eq, htown, List.find?_append]
  cases hbefore : before.find? fun npc => AnswersTo npc p.name with
  | some q => exact ⟨q, List.mem_append_left _ (List.mem_of_find?_eq_some hbefore), rfl⟩
  | none => exact ⟨p, by simp, by simp [answersTo_name h]⟩

theorem find?_name_eq_self_iff (htown : c.town = before ++ p :: after) (hp : p ∉ before)
    (h : folded p.name ≠ "") :
    c.find? p.name = some p ↔ ∀ npc ∈ before, ¬ AnswersTo npc p.name := by
  rw [find?_eq, htown, List.find?_append]
  cases hbefore : before.find? fun npc => AnswersTo npc p.name with
  | some q =>
    have hq := List.mem_of_find?_eq_some hbefore
    have hanswers := List.find?_some hbefore
    refine iff_of_false ?_ fun hnone => hnone q hq (of_decide_eq_true hanswers)
    rintro ⟨⟩
    exact hp hq
  | none =>
    refine iff_of_true (by simp [answersTo_name h]) fun npc hnpc hanswers => ?_
    exact List.find?_eq_none.1 hbefore npc hnpc (decide_eq_true hanswers)

/-! ## What comes of it -/

variable {now : Timestamp} {parameters : Parameters} {action name : String}
  {past : List (Command × Settlement)} {cmd : Command}

theorem required_of_text (hvalue : parameters.text? name = some text) (h : folded text ≠ "") :
    required parameters name = some text := by
  have hblank : Text.isBlank text = false := by
    rw [Bool.eq_false_iff]
    intro hblank
    have hstart := Text.trimStartChars_eq_nil_iff.2 hblank
    refine h ?_
    simp only [folded, Text.trim, Text.trimChars, hstart]
    rfl
  simp [required, hvalue, hblank]

theorem posts_goTo_iff (hvalue : required parameters "npc_name" = some name)
    (hfound : c.find? name = some q) :
    (c.goTo now parameters).Posts past cmd ↔
      past = [] ∧ cmd = .moveNextTo c.profile.name q.name := by
  simp only [goTo, hvalue, moveNextTo, hfound, Errand.andThen, Errand.posts_post,
    Errand.not_posts_done, and_false, exists_false, or_false]

/-- The arrest is posted only once the walk has come to its end. -/
theorem posts_arrest_iff (hvalue : required parameters "suspect_npc_name" = some name)
    (hfound : c.find? name = some q) :
    (c.arrest now parameters).Posts past cmd ↔
      past = [] ∧ cmd = .moveNextTo c.profile.name q.name ∨
      past = [(.moveNextTo c.profile.name q.name, .ok ())] ∧
        cmd = .arrest c.profile.name q.name := by
  simp only [arrest, hvalue, moveNextTo, hfound, Errand.andThen, Errand.posts_post]
  refine or_congr_right ?_
  constructor
  · rintro ⟨s, rest, rfl, h⟩
    cases s with
    | error e => exact (Errand.not_posts_done h).elim
    | ok u =>
      rcases Errand.posts_post.1 h with ⟨rfl, rfl⟩ | ⟨s, rest, -, h⟩
      · exact ⟨rfl, rfl⟩
      · exact (Errand.not_posts_done h).elim
  · rintro ⟨rfl, rfl⟩
    exact ⟨.ok (), [], rfl, Errand.posts_post.2 (.inl ⟨rfl, rfl⟩)⟩

/-- **Whom an exact name finds.** In a town in which no two bear one name, it finds the first who
answers to it: the one so named, unless somebody before them does. The walk and the arrest that come
of the name are to whom it has found, and to nobody else. -/
theorem found_by_name (hnames : (c.town.map Profile.name).Nodup)
    (htown : c.town = before ++ p :: after) (hname : folded p.name ≠ "") :
    ∃ q ∈ before ++ [p], c.find? p.name = some q ∧
      (AnswersTo q p.name ∧
        ∃ earlier later, c.town = earlier ++ q :: later ∧
          ∀ npc ∈ earlier, ¬ AnswersTo npc p.name) ∧
      (q = p ↔ ∀ npc ∈ before, ¬ AnswersTo npc p.name) ∧
      (∀ now action parameters past cmd, StandardAction.ofName? action = some .goToNpc →
        parameters.text? "npc_name" = some p.name →
        ((c.perform now action parameters).Posts past cmd ↔
          past = [] ∧ cmd = .moveNextTo c.profile.name q.name)) ∧
      (∀ now action parameters past cmd, StandardAction.ofName? action = some .arrestSuspect →
        parameters.text? "suspect_npc_name" = some p.name →
        ((c.perform now action parameters).Posts past cmd ↔
          past = [] ∧ cmd = .moveNextTo c.profile.name q.name ∨
          past = [(.moveNextTo c.profile.name q.name, .ok ())] ∧
            cmd = .arrest c.profile.name q.name)) := by
  obtain ⟨q, hq, hfound⟩ := find?_name_of_split htown hname
  refine ⟨q, hq, hfound, find?_eq_some_iff.1 hfound, ?_, ?_, ?_⟩
  · -- names are distinct, so nobody before is the one who is meant
    have hp : p ∉ before := by
      rw [htown, List.map_append, List.map_cons, List.nodup_middle, List.nodup_cons] at hnames
      exact fun hmem => hnames.1 (List.mem_append_left _ (List.mem_map_of_mem hmem))
    rw [← find?_name_eq_self_iff htown hp hname, hfound, Option.some.injEq]
  · intro now action parameters past cmd haction hvalue
    rw [perform, haction]
    exact posts_goTo_iff (required_of_text hvalue hname) hfound
  · intro now action parameters past cmd haction hvalue
    rw [perform, haction]
    exact posts_arrest_iff (required_of_text hvalue hname) hfound

/-- Nobody before Hans answers to his name, so an arrest that names him is his. -/
theorem found_by_name_hans :
    let mara : Profile := ⟨"Mara", "innkeeper", "a ledger", false⟩
    let hans : Profile := ⟨"Hans", "farmer", "a pitchfork", false⟩
    let otto : Profile := ⟨"Otto", "mayor", "a seal", false⟩
    let c : Conduct := ⟨otto, [mara, hans, otto]⟩
    c.find? "Hans" = some hans ∧
      ((c.perform default "arrest_suspect" [("suspect_npc_name", .text "Hans")]).Posts
        [(.moveNextTo "Otto" "Hans", .ok ())] (.arrest "Otto" "Hans")) := by
  intro mara hans otto c
  have htown : c.town = [mara] ++ hans :: [otto] := rfl
  obtain ⟨q, -, hfound, -, hself, -, harrest⟩ :=
    found_by_name (by decide +kernel) htown (by decide +kernel)
  have hq : q = hans := hself.2 (by decide +kernel)
  subst hq
  refine ⟨hfound, ?_⟩
  exact (harrest default _ _ _ _ (by decide +kernel) (by decide +kernel)).2 (.inr ⟨rfl, rfl⟩)

/-- **Ann answers to "Joanna"**, and being before her in the town is arrested in her place. -/
theorem ann_found_for_joanna :
    let ann : Profile := ⟨"Ann", "cook", "a knife", false⟩
    let joanna : Profile := ⟨"Joanna", "farmer", "a rope", false⟩
    let otto : Profile := ⟨"Otto", "mayor", "a seal", false⟩
    let c : Conduct := ⟨otto, [ann, joanna, otto]⟩
    c.find? joanna.name = some ann ∧
      ((c.perform default "arrest_suspect" [("suspect_npc_name", .text "Joanna")]).Posts
        [(.moveNextTo "Otto" "Ann", .ok ())] (.arrest "Otto" "Ann")) ∧
      ¬ ∀ (c : Conduct) (p : Profile), (c.town.map Profile.name).Nodup →
        (∀ npc ∈ c.town, folded npc.name ≠ "") →
        (c.town.map fun npc => folded npc.name).Nodup → p ∈ c.town →
        c.find? p.name = some p := by
  intro ann joanna otto c
  have hfound : c.find? joanna.name = some ann := by decide +kernel
  refine ⟨hfound, ?_, fun hall => ?_⟩
  · have haction : StandardAction.ofName? "arrest_suspect" = some .arrestSuspect := by
      decide +kernel
    rw [perform, haction]
    have hvalue : required [("suspect_npc_name", .text "Joanna")] "suspect_npc_name" =
        some joanna.name := by decide +kernel
    exact (posts_arrest_iff hvalue hfound).2 (.inr ⟨rfl, rfl⟩)
  · -- were people found by their names alone, Joanna would be found
    have hjoanna : c.find? joanna.name = some joanna :=
      hall c joanna (by decide +kernel) (by decide +kernel) (by decide +kernel) (by decide +kernel)
    rw [hfound] at hjoanna
    revert hjoanna
    decide +kernel

end Conduct

end Inquest
