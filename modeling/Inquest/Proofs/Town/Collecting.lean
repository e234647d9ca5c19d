import Inquest.Proofs.Evidence.Markers
import Inquest.Proofs.Town.Telling

/-! # Evidence collected while suspects are talked to

The board fills up while the detective goes about. What a suspect is told is the board as it stands when
the words are said, an item that comes to it while they are answered counts as found after them, and
the text around the evidence stays as it was written.

* `Board.items_collectAll`: a board holds the first item of each name, in the order of collection.
* `Bearing.Tells`: the operations that have a suspect told the evidence.
* `Guarded`: the board and the markers of a suspect, as they are at every time.
* `collected_evidence_told`: what is told, and that nothing else touches the instructions.
-/

namespace Inquest

/-! ## The board -/

/-- Whether two items have one name. -/
def Evidence.sameName (e f : Evidence) : Bool := e.name == f.name

/-- The first item of each name, in order. -/
def Evidence.firsts (items : List Evidence) : List Evidence := items.eraseDupsBy sameName

theorem Evidence.firsts_cons (e : Evidence) (items : List Evidence) :
    firsts (e :: items) = e :: firsts (items.filter fun f => !f.sameName e) := by
  rw [firsts, firsts, List.eraseDupsBy_cons]
  simp only [Bool.decide_eq_false]

/-- The board after items were collected one after the other. -/
def Board.collectAll (b : Board) (items : List Evidence) : Board :=
  items.foldl (fun b e => (b.collect e).1) b

/-- **A board holds the first item of each name**, what was on it before coming first. -/
theorem Board.items_collectAll (b : Board) (items : List Evidence) :
    (b.collectAll items).items =
      b.items ++ Evidence.firsts (items.filter fun e => !b.items.any fun i => i.name == e.name) := by
  induction items generalizing b with
  | nil => exact (List.append_nil _).symm
  | cons e items ih =>
    show (((b.collect e).1).collectAll items).items = _
    rw [ih, collect]
    by_cases he : (b.items.any fun i => i.name == e.name) = true
    · rw [if_pos he, List.filter_cons_of_neg (by simp [he])]
    · rw [if_neg he, List.filter_cons_of_pos (by simpa using he), Evidence.firsts_cons,
        List.filter_filter, List.append_assoc, List.singleton_append]
      -- neither an item on the board before nor this one lets a later item of its name in
      have hboth (f : Evidence) : (!(b.items ++ [e]).any fun i => i.name == f.name) =
          (!f.sameName e && !b.items.any fun i => i.name == f.name) := by
        rw [List.any_append, Bool.not_or, Bool.and_comm, Evidence.sameName, BEq.comm]
        simp
      simp only [hboth]

theorem Board.items_collectAll_empty (items : List Evidence) :
    (empty.collectAll items).items = Evidence.firsts items := by
  have hall : (items.filter fun e => !empty.items.any fun i => i.name == e.name) = items :=
    List.filter_eq_self.2 fun _ _ => rfl
  rw [items_collectAll, hall]
  rfl

theorem Board.mem_collectAll {b : Board} {items : List Evidence} {e : Evidence}
    (h : e ∈ (b.collectAll items).items) : e ∈ b.items ∨ e ∈ items := by
  induction items generalizing b with
  | nil => exact .inl h
  | cons f items ih =>
    rcases ih h with hb | hitems
    · change e ∈ (b.collect f).1.items at hb
      unfold collect at hb
      split at hb
      · exact .inl hb
      · rcases List.mem_append.1 hb with hb | hf
        · exact .inl hb
        · exact .inr (List.mem_singleton.1 hf ▸ List.mem_cons_self)
    · exact .inr (List.mem_cons_of_mem f hitems)

/-! ## Who is told -/

namespace Bearing

variable {b : Bearing} {i : Nat} {c : Company} {o : Operation}

/-- The operation has the suspect at a place told the evidence. -/
def Tells (b : Bearing) (i : Nat) : Operation → Prop
  | .update | .speak _ => b.active = i
  | .address name _ => b.place? name = some i
  | _ => False

theorem deedsOf_tells (h : b.Tells i o) : ∃ said, b.deedsOf i c o = [b.deed said] := by
  cases o with
  | update => exact ⟨none, if_pos h⟩
  | speak w => exact ⟨some (c, w), if_pos h⟩
  | address name w =>
    have hplace : b.place? name = some i := h
    refine ⟨some (c, w), ?_⟩
    simp only [deedsOf, after, turn, deed?, hplace, Option.getD_some, if_true, Option.map_some,
      Option.toList_some]
  | _ => exact h.elim

theorem deedsOf_untold (h : ¬ b.Tells i o) : b.deedsOf i c o = [] := by
  unfold deedsOf
  split
  · next hactive =>
    cases o with
    | update | speak _ => exact absurd hactive h
    | address name w =>
      cases hplace : b.place? name with
      | none => rw [deed?, hplace, Option.map_none, Option.toList_none]
      | some j =>
        have hj : j = i := by simpa only [after, turn, hplace, Option.getD_some] using hactive
        exact absurd (hplace.trans (congrArg some hj)) h
    | _ => rfl
  · rfl

end Bearing

/-- The words that are said in an operation. -/
def Operation.words? : Operation → Option Words
  | .speak w | .address _ w => some w
  | _ => none

/-! ## A town that goes on -/

/-- Something that happens in a town: an item comes to the board, or the detective does something. -/
inductive Occasion : Type 1
  | found (e : Evidence)
  | done (c : Company) (o : Operation)

namespace Occasion

/-- The inventory stays the same board, and no item holds the closing marker. -/
def Ordinary : Occasion → Prop
  | .found e => e.Unmarked
  | .done _ (.equip _) => False
  | .done _ _ => True

/-- The item that is found. -/
def item? : Occasion → Option Evidence
  | .found e => some e
  | .done _ _ => none

end Occasion

/-- An item put on the board; a list that stays as it is takes none. -/
def Inventory.collect (e : Evidence) : Inventory → Inventory
  | .board b => .board (b.collect e).1
  | .fixed items => .fixed items

namespace Town

/-- The town after an item was found. -/
def collect (t : Town) (e : Evidence) : Town :=
  { t with inventory := t.inventory.map (Inventory.collect e) }

/-- The town after an occasion. -/
def meet (t : Town) : Occasion → Town
  | .found e => t.collect e
  | .done c o => t.perform c o

/-- The requests that an operation leads to, the oldest first. -/
def asked (t : Town) (c : Company) (o : Operation) : List Request :=
  ((Play.perform c.model.recorded c.casting ⟨t, (c.modelState, []), c.executorState⟩
    o).model.2.map Prod.snd).reverse

/-- The board holds the items found so far, none of which holds the closing marker, and the suspect at
a place has the same text around the evidence as ever. -/
structure Guarded (i : Nat) (before after : List Char) (items : List Evidence) (t : Town) :
    Prop where
  board : t.inventory = some (.board (Board.empty.collectAll items))
  unmarked : ∀ e ∈ items, e.Unmarked
  markers : ∃ s body, t.sessions[i]? = some s ∧
    Evidence.splitSection s.instructions.toList = .found before body after

namespace Guarded

variable {i : Nat} {before after : List Char} {items : List Evidence} {t : Town}
  (h : Guarded i before after items t)
include h

theorem evidence : t.evidence = Evidence.firsts items := by
  rw [Town.evidence, h.board, ← Board.items_collectAll_empty]
  rfl

theorem unmarked_evidence : ∀ e ∈ t.evidence, e.Unmarked := by
  intro e he
  rw [Town.evidence, h.board] at he
  rcases Board.mem_collectAll he with he | he
  · cases he
  · exact h.unmarked e he

/-- What the suspect is told is the text around the evidence with the items found so far. -/
theorem revised {s : Session} (hs : t.sessions[i]? = some s) :
    Evidence.revised t.evidence s.instructions =
      String.ofList (before ++ Evidence.openMarker ++ Evidence.bodyChars (Evidence.firsts items) ++
        Evidence.closeMarker ++ after) := by
  obtain ⟨s', body, hs', hfound⟩ := h.markers
  rw [hs] at hs'
  cases hs'
  rw [Evidence.revised_of_found hfound, h.evidence]

theorem collect {e : Evidence} (he : e.Unmarked) :
    Guarded i before after (items ++ [e]) (t.collect e) where
  board := by
    rw [Town.collect, h.board, Board.collectAll, Board.collectAll, List.foldl_append]
    rfl
  unmarked := by
    intro f hf
    rcases List.mem_append.1 hf with hf | hf
    · exact h.unmarked f hf
    · rwa [List.mem_singleton.1 hf]
  markers := h.markers

theorem perform (c : Company) {o : Operation} (ho : (Occasion.done c o).Ordinary) :
    Guarded i before after items (t.perform c o) where
  board := by
    have hinventory : (t.bearing.after o).inventory = t.inventory := by
      cases o with
      | equip => exact ho.elim
      | turnToIndex index =>
        rw [Bearing.after]
        split <;> rfl
      | _ => rfl
    rw [← t.bearing_perform c o] at hinventory
    exact hinventory.trans h.board
  unmarked := h.unmarked
  markers := by
    obtain ⟨s, body, hs, hfound⟩ := h.markers
    rw [t.session_perform c o i, hs, Option.map_some]
    by_cases htells : t.bearing.Tells i o
    · obtain ⟨said, hdeeds⟩ := Bearing.deedsOf_tells (c := c) htells
      rw [hdeeds]
      refine ⟨_, Evidence.bodyChars t.evidence, rfl, ?_⟩
      rw [List.foldl_cons, List.foldl_nil, Session.instructions_undergo]
      exact Evidence.splitSection_revised h.unmarked_evidence hfound
    · rw [Bearing.deedsOf_untold htells]
      exact ⟨s, body, rfl, hfound⟩

/-- **The board and the markers are as they should be at every time.** -/
theorem meetAll {past : List Occasion} (hpast : ∀ x ∈ past, x.Ordinary) :
    Guarded i before after (items ++ past.filterMap Occasion.item?) (past.foldl meet t) := by
  induction past generalizing items t with
  | nil =>
    rw [List.filterMap_nil, List.append_nil]
    exact h
  | cons x past ih =>
    have hrest : ∀ y ∈ past, y.Ordinary := fun y hy => hpast y (List.mem_cons_of_mem x hy)
    have hx : x.Ordinary := hpast x List.mem_cons_self
    cases x with
    | found e =>
      have hlater := ih (h.collect hx) hrest
      rwa [List.append_assoc] at hlater
    | done c o => exact ih (h.perform c hx) hrest

end Guarded

/-! ## What is told -/

section
variable (t : Town) (c : Company)

theorem asked_speak (w : Words) :
    let told := Evidence.revised t.evidence t.activeSession.instructions
    (∀ q ∈ t.asked c (.speak w), q.instructions = some told) ∧
      (t.asked c (.speak w) = [] ↔
        Evidence.splitSection t.activeSession.instructions.toList = .unclosed ∨
          w.chunks = some 0) := by
  intro told
  obtain ⟨hasked, hunasked, -⟩ :=
    Play.tells_speak c.model c.casting t c.modelState c.executorState w
  refine ⟨fun q hq => ?_, ?_⟩
  · obtain ⟨asked, hmem, rfl⟩ := List.mem_map.1 (List.mem_reverse.1 hq)
    exact hasked asked hmem
  · rw [asked, List.reverse_eq_nil_iff, List.map_eq_nil_iff]
    exact hunasked

theorem asked_address {name : String} {t' : Town} (h : t.switchTo name = .ok t') (w : Words) :
    t.asked c (.address name w) = t'.asked c (.speak w) := by
  simp only [asked, Play.perform, Play.address_eq, h]

/-- Only an operation that has somebody told the evidence leads to requests. -/
theorem tells_of_asked {o : Operation} (h : t.asked c o ≠ []) : ∃ j, t.bearing.Tells j o := by
  cases o with
  | update | speak _ => exact ⟨t.active, rfl⟩
  | address name w =>
    rcases t.switchTo_cases name with ⟨-, hswitch⟩ | ⟨j, t', hplace, -⟩
    · refine absurd ?_ h
      simp only [asked, Play.perform, Play.address_eq, hswitch, List.map_nil, List.reverse_nil]
    · exact ⟨j, hplace⟩
  | equip inventory => exact absurd rfl h
  | turnTo name =>
    refine absurd ?_ h
    simp only [asked, Play.perform]
    cases t.switchTo name <;> rfl
  | turnToIndex index =>
    refine absurd ?_ h
    simp only [asked, Play.perform]
    cases t.switchToIndex index <;> rfl

/-- Words to a suspect lead to the requests that they lead to in a town where that suspect is the active
one. -/
theorem asked_words {i : Nat} {s : Session} (hs : t.sessions[i]? = some s) {o : Operation} {w : Words}
    (htells : t.bearing.Tells i o) (hwords : o.words? = some w) :
    ∃ t' : Town, t.asked c o = t'.asked c (.speak w) ∧ t'.activeSession = s ∧
      t'.evidence = t.evidence ∧ t'.detective = t.detective := by
  have hactive {t' : Town} (hsessions : t'.sessions = t.sessions) (hi : t'.active = i) :
      t'.activeSession = s := by
    rw [← hsessions, ← hi, List.getElem?_eq_getElem t'.active_lt] at hs
    exact Option.some.inj hs
  cases o with
  | speak w' =>
    cases hwords
    exact ⟨t, rfl, hactive rfl htells, rfl, rfl⟩
  | address name w' =>
    cases hwords
    have hplace : t.bearing.place? name = some i := htells
    rcases t.switchTo_cases name with ⟨hnone, -⟩ | ⟨j, t', hj, hswitch, hturned⟩
    · rw [hnone] at hplace
      cases hplace
    · have hi : t'.active = i := by
        rw [show t'.active = t'.bearing.active from rfl, hturned.bearing, Bearing.turn, hplace]
        rfl
      exact ⟨t', t.asked_address c hswitch w, hactive hturned.sessions hi,
        congrArg (fun b : Bearing => (b.inventory.map Inventory.items).getD []) hturned.bearing,
        congrArg Bearing.detective hturned.bearing⟩
  | _ => cases hwords

/-- Everything that the model is asked about a suspect holds the evidence as it is then. -/
theorem asked_tells {i : Nat} {s : Session} (hs : t.sessions[i]? = some s) {o : Operation}
    (h : t.bearing.Tells i o) :
    (∀ q ∈ t.asked c o, q.instructions = some (Evidence.revised t.evidence s.instructions)) ∧
      ∀ w, o.words? = some w → (t.asked c o = [] ↔
        Evidence.splitSection s.instructions.toList = .unclosed ∨ w.chunks = some 0) := by
  cases hwords : o.words? with
  | some w =>
    obtain ⟨t', hasked, hactive, hevidence, -⟩ := t.asked_words c hs h hwords
    have hspeak := t'.asked_speak c w
    rw [hactive, hevidence, ← hasked] at hspeak
    refine ⟨hspeak.1, fun w' hw => ?_⟩
    cases hw
    exact hspeak.2
  | none =>
    cases o with
    | update =>
      have hnone : t.asked c .update = [] := by
        simp only [asked, Play.perform]
        cases t.updateInstructions <;> rfl
      rw [hnone]
      exact ⟨List.forall_mem_nil _, fun w hw => by cases hw⟩
    | speak | address => cases hwords
    | _ => exact h.elim

variable {t}

theorem instructions_perform {i : Nat} {s : Session} (hs : t.sessions[i]? = some s) {o : Operation}
    (h : t.bearing.Tells i o) :
    (t.perform c o).sessions[i]?.map Session.instructions =
      some (Evidence.revised t.evidence s.instructions) := by
  obtain ⟨said, hdeeds⟩ := Bearing.deedsOf_tells (c := c) h
  rw [session_perform, hs, hdeeds]
  exact congrArg some (s.instructions_undergo _)

theorem session_perform_untold {i : Nat} {o : Operation} (h : ¬ t.bearing.Tells i o) :
    (t.perform c o).sessions[i]? = t.sessions[i]? := by
  rw [session_perform, Bearing.deedsOf_untold h]
  exact Option.map_id'

end

open Evidence in
/-- **A suspect is told what was found, each item once, and nothing else in the instructions moves.**
The board of a town goes on being filled, in whatever order items are found and suspects are talked to.
Then every request about a suspect, in all rounds of a turn, has the instructions that the suspect began
with, but for the text between the first markers, which lists the first item found under each name. They
stay with the suspect, and nothing but telling the evidence changes them. -/
theorem collected_evidence_told {t₀ : Town} {i : Nat} {s₀ : Session} {earlier : List Evidence}
    {before body after : List Char} {past : List Occasion} (hs : t₀.sessions[i]? = some s₀)
    (hboard : t₀.inventory = some (.board (Board.empty.collectAll earlier)))
    (hwhole : s₀.instructions.toList = before ++ openMarker ++ (body ++ closeMarker ++ after))
    (hopen : ∀ n < before.length, ¬ openMarker <+: s₀.instructions.toList.drop n)
    (hclose : ∀ n < body.length, ¬ closeMarker <+: (body ++ closeMarker ++ after).drop n)
    (hearlier : ∀ e ∈ earlier, e.Unmarked) (hpast : ∀ x ∈ past, x.Ordinary) :
    let t := past.foldl meet t₀
    let found := firsts (earlier ++ past.filterMap Occasion.item?)
    let told := String.ofList (before ++ openMarker ++ bodyChars found ++ closeMarker ++ after)
    (∀ c o, t.bearing.Tells i o →
      (∀ q ∈ t.asked c o, q.instructions = some told) ∧
        (∀ w, o.words? = some w → (t.asked c o = [] ↔ w.chunks = some 0)) ∧
        (t.perform c o).sessions[i]?.map Session.instructions = some told) ∧
      (∀ c o, ¬ t.bearing.Tells i o →
        (t.asked c o ≠ [] → ∃ j, j ≠ i ∧ t.bearing.Tells j o) ∧
          (t.perform c o).sessions[i]?.map Session.instructions =
            t.sessions[i]?.map Session.instructions) ∧
      ∀ e, (t.collect e).sessions[i]? = t.sessions[i]? := by
  intro t found told
  -- the board holds the items, the session its prefix and suffix; every occasion keeps that
  have hstart : Guarded i before after earlier t₀ :=
    ⟨hboard, hearlier, s₀, body, hs, splitSection_eq_found_iff.2 ⟨hwhole, hopen, hclose⟩⟩
  have hguarded : Guarded i before after (earlier ++ past.filterMap Occasion.item?) t :=
    hstart.meetAll hpast
  obtain ⟨s, body', hsession, hfound⟩ := hguarded.markers
  have htold : revised t.evidence s.instructions = told := hguarded.revised hsession
  -- a section that can be found is closed, so nothing is refused
  have hclosed : splitSection s.instructions.toList ≠ .unclosed := by
    rw [hfound]
    nofun
  refine ⟨fun c o htells => ?_, fun c o htells => ⟨fun hasked => ?_, ?_⟩, fun e => rfl⟩
  · obtain ⟨hasked, hunasked⟩ := t.asked_tells c hsession htells
    rw [htold] at hasked
    refine ⟨hasked, fun w hw => (hunasked w hw).trans (or_iff_right hclosed), ?_⟩
    rw [instructions_perform c hsession htells, htold]
  · obtain ⟨j, hj⟩ := t.tells_of_asked c hasked
    exact ⟨j, fun hji => htells (hji ▸ hj), hj⟩
  · rw [session_perform_untold c htells]

/-- A rope is found, somebody else is asked, another rope and a knife are found: the cook, who is asked
twice in one turn, is told of the first rope and of the knife. -/
theorem collected_evidence_told_of_ropes :
    let cook := { Session.new (.new "Rosa" "cook" "a knife")
      "Hm.[COLLECTED EVIDENCE]?[END COLLECTED EVIDENCE]." { Settings.default with followUp := .untilText }
      with tools := [⟨"wave", "Wave.", .null, false⟩] }
    let t₀ : Town := ⟨[cook, .new (.new "Bo" "guard" "a key") "" .default], 0, 0, "Ann",
      some (.board .empty), by decide, by decide⟩
    let company : Company :=
      ⟨Session.faltering, fun _ _ => ⟨fun _ e _ _ => (.panicked, e)⟩, false, ()⟩
    let past : List Occasion :=
      [.found ⟨"rope", "wet"⟩, .done company (.address "Bo" ⟨default, "Hi.", none⟩),
        .found ⟨"rope", "dry"⟩, .found ⟨"knife", ""⟩]
    let t := past.foldl meet t₀
    let asked := t.asked company (.address "Rosa" ⟨default, "Hello.", none⟩)
    asked.length = 2 ∧ ∀ q ∈ asked, q.instructions =
      some "Hm.[COLLECTED EVIDENCE]\n- rope: wet\n- knife\n[END COLLECTED EVIDENCE]." := by
  intro cook t₀ company past t asked
  have hshort {s : String} (hs : s.toList.length < Evidence.closeMarker.length) :
      ¬ Evidence.closeMarker <:+: s.toList :=
    fun h => absurd h.length_le (Nat.not_le.2 hs)
  have hpast : ∀ x ∈ past, x.Ordinary := by
    intro x hx
    simp only [past, List.mem_cons, List.not_mem_nil, or_false] at hx
    rcases hx with rfl | rfl | rfl | rfl
    · exact ⟨hshort (by decide), hshort (by decide)⟩
    · trivial
    · exact ⟨hshort (by decide), hshort (by decide)⟩
    · exact ⟨hshort (by decide), hshort (by decide)⟩
  have htold := @collected_evidence_told t₀ 0 cook [] "Hm.".toList "?".toList ".".toList past rfl rfl
    (by decide +kernel) (by decide +kernel) (by decide +kernel) nofun hpast
  refine ⟨by decide +kernel, fun q hq => ?_⟩
  rw [(htold.1 company (.address "Rosa" ⟨default, "Hello.", none⟩) (by rfl)).1 q hq]
  decide +kernel

end Town

end Inquest
