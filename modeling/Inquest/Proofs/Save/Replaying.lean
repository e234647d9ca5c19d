import Inquest.Proofs.Save.Accepting
import Inquest.Proofs.Save.Forgetting
import Inquest.Proofs.Session.Remembering
import Inquest.Proofs.Town.Collecting
import Inquest.Proofs.Town.Founding

/-! # What a restored town tells the model

The first request about a suspect of a restored town holds what was said before, as the transcript has it.
Who said it is made out by name alone: what a detective with the suspect's own name said is told the model
as the suspect's words.

* `Town.first_asked`: the first request about words to a suspect.
* `Town.Lived`: a town with its past: operations in any company, new names, saves that it was restored
  from. `Town.Lived.marked`: its save is coherent, whatever the past.
* `Later.chronicle`, `Lived.chronicle`: every session has its chronicle, and goes on with it.
* `restored_replays`: the first request after a save is restored. `namesake_misheard`: a detective with
  the suspect's name.
-/

namespace Inquest

variable {σ ε : Type}

/-! ## The first request -/

namespace Session

/-- The first request of the rounds of a turn is made at once. -/
theorem rounds_first {ask : Asking (σ × List (σ × Request))} (hask : ask.Recorded)
    (executor : Executor ε) (now : Timestamp) (left : Nat) (draft : Draft)
    (scene : Scene (σ × List (σ × Request)) ε) :
    (rounds ask executor now left draft scene).Always fun state =>
      ∃ later, state.model.2 =
        later ++ (scene.model.1, scene.session.request) :: scene.model.2 := by
  have hone {s : Session} {a a' : σ × List (σ × Request)} {heard : List Chunk × Option Heard}
      (ha : ask a s.request = (heard, a')) : a'.2 = (a.1, s.request) :: a.2 := by
    have hkept := hask a s.request
    rwa [ha] at hkept
  refine rounds_induction (P := fun _ _ scene told => told.Always fun state =>
    ∃ later, state.model.2 = later ++ (scene.model.1, scene.session.request) :: scene.model.2)
    ?silent ?failed ?pending ?again ?last left draft scene
  case silent =>
    intro left draft s a e chunks a' ha
    exact Told.always_heard chunks ⟨[], hone ha⟩ ⟨[], hone ha⟩
  case failed =>
    intro left draft s a e chunks a' reason ha
    exact Told.always_heard chunks ⟨[], hone ha⟩ ⟨[], hone ha⟩
  case pending =>
    intro left draft s a e chunks a' r is e' ha hc
    exact Told.always_heard chunks ⟨[], hone ha⟩ ⟨[], hone ha⟩
  case again =>
    intro left draft s a e chunks a' r is e' ha hc hagain scene told ih
    refine (ih.imp ?_).prepend chunks is ⟨[], hone ha⟩ ⟨[], hone ha⟩
    rintro state ⟨later, hlater⟩
    refine ⟨later ++ [(scene.model.1, scene.session.request)], ?_⟩
    rw [hlater, List.append_assoc, List.singleton_append]
    exact congrArg (fun asked => later ++ _ :: asked) (hone ha)
  case last =>
    intro left draft s a e chunks a' r is e' ha hc hagain committed closing
    have hdone : Told.Always ⟨[(.done closing.1, ⟨closing.2, a', e'⟩)], .replied closing.1,
        ⟨closing.2, a', e'⟩⟩ fun state : Scene (σ × List (σ × Request)) ε =>
          ∃ later, state.model.2 = later ++ (a.1, s.request) :: a.2 :=
      Told.always_done closing.1 ⟨[], hone ha⟩
    exact hdone.prepend chunks is ⟨[], hone ha⟩ ⟨[], hone ha⟩

/-- **The first request about a message** is that of the session with the message. -/
theorem deliver_first (model : Model σ) (executor : Executor ε) (m : Message)
    (scene : Scene (σ × List (σ × Request)) ε) (hm : m.chunks ≠ some 0) :
    ∃ later, (m.deliver model.recorded executor scene).2.model.2 =
      later ++ (scene.model.1, (m.begun scene).session.request) :: scene.model.2 := by
  obtain ⟨now, sender, text, _ | _ | k⟩ := m
  · simp only [Message.deliver, send_eq]
    exact (rounds_first model.recorded_byResponse executor now _ _ _).1
  · exact absurd rfl hm
  · simp only [Message.deliver, stream_eq]
    exact (rounds_first model.recorded_byEvents executor now _ _ _).upTo k

end Session

namespace Town

variable {t : Town} {i : Nat} {s : Session}

/-- The first request about words to the active suspect. -/
theorem first_asked_speak (t : Town) (c : Company) (w : Words) {q : Request}
    (hq : (t.asked c (.speak w)).head? = some q) :
    q = ({ t.activeSession with
      instructions := Evidence.revised t.evidence t.activeSession.instructions }.beginTurn w.now
        t.detective w.text).request := by
  by_cases hunheard : Evidence.splitSection t.activeSession.instructions.toList = .unclosed ∨
      w.chunks = some 0
  · rw [(t.asked_speak c w).2.2 hunheard] at hq
    cases hq
  · obtain ⟨hclosed, hheard⟩ := not_or.1 hunheard
    let told := { t.activeSession with
      instructions := Evidence.revised t.evidence t.activeSession.instructions }
    obtain ⟨later, hlater⟩ := Session.deliver_first c.model
      (c.casting t.activeSession.profile t.profiles) (w.by t.detective)
      ⟨told, (c.modelState, []), c.executorState⟩ hheard
    have hkept : (Play.speak c.model.recorded c.casting ⟨t, (c.modelState, []), c.executorState⟩
        w).model.2 =
        later ++ [(c.modelState, (told.beginTurn w.now t.detective w.text).request)] := by
      rw [Play.speak_eq, Session.informed_eq, if_neg hclosed]
      exact hlater
    simp only [asked, Play.perform, hkept, List.head?_reverse, List.map_append, List.map_cons,
      List.map_nil, List.getLast?_concat, Option.some.injEq] at hq
    exact hq.symm

/-- **The first request about words to a suspect** is that of the suspect's session, with the evidence told
and the words in it. -/
theorem first_asked (hs : t.sessions[i]? = some s) {c : Company} {o : Operation} {w : Words}
    (htells : t.bearing.Tells i o) (hwords : o.words? = some w) {q : Request}
    (hq : (t.asked c o).head? = some q) :
    q = ({ s with instructions := Evidence.revised t.evidence s.instructions }.beginTurn w.now
      t.detective w.text).request := by
  obtain ⟨t', hasked, hactive, hevidence, hdetective⟩ := t.asked_words c hs htells hwords
  have hspeak := t'.first_asked_speak c w (hasked ▸ hq)
  rwa [hactive, hevidence, hdetective] at hspeak

/-! ## A town with its past -/

/-- A town with its past: it was set up, the detective did things in whatever company and took other names,
and more than once it may have been saved and restored. -/
inductive Lived : Town → Prop
  | started {profiles prompts policy settings t} :
    start profiles prompts policy settings = .ok t → Lived t
  | later {t t'} : Lived t → t.Later t' → Lived t'
  | restored {t t'} (now : Timestamp) (settings : Settings) : Lived t →
    SavedTown.restore settings (SavedTown.capture now t) = .ok t' → Lived t'

/-- One suspect alone is marked, and that is the culprit. -/
def Marked (t : Town) : Prop :=
  ∃ p, t.profiles.filter Profile.isCulprit = [p] ∧ p.name = t.culpritName

theorem Sound.one_marked (h : t.Sound) : t.Marked := by
  have hlt : t.culprit < t.profiles.length := by
    rw [profiles, List.length_map]
    exact t.culprit_lt
  refine ⟨t.profiles[t.culprit], ?_, ?_⟩
  · exact filter_of_only hlt fun i hi => h.marked (List.getElem?_eq_getElem hi)
  · have hname := t.culpritName_eq
    rw [List.getElem?_eq_getElem hlt] at hname
    exact Option.some.inj hname

theorem Marked.later {t' : Town} (h : t.Marked) (hlater : t.Later t') : t'.Marked := by
  obtain ⟨hprofiles, hculprit⟩ := hlater.same
  obtain ⟨p, hp, hname⟩ := h
  have hsame := t'.culpritName_eq
  rw [hprofiles, hculprit, t.culpritName_eq] at hsame
  exact ⟨p, hprofiles ▸ hp, hname.trans (Option.some.inj hsame)⟩

/-- The save of a town is coherent. -/
theorem Marked.coherent (h : t.Marked) (now : Timestamp) : (SavedTown.capture now t).Coherent := by
  have hprofiles : (SavedTown.capture now t).profiles = t.profiles := by
    show (t.sessions.map _).map _ = t.sessions.map _
    rw [List.map_map]
    rfl
  refine ⟨?_, hprofiles ▸ h, ?_⟩
  · intro hnone
    have hlength := congrArg List.length (List.map_eq_nil_iff.1 hnone)
    exact absurd (hlength ▸ t.active_lt) (Nat.not_lt_zero _)
  · rw [SavedTown.names, hprofiles, profiles, List.map_map]
    exact List.mem_map.2 ⟨t.activeSession, List.getElem_mem t.active_lt, rfl⟩

theorem marked_of_restore {settings : Settings} {s : SavedTown}
    (h : SavedTown.restore settings s = .ok t) : t.Marked := by
  obtain ⟨hcoherent, hsessions, -, -, hculprit, -⟩ := SavedTown.of_restore h
  have hprofiles : t.profiles = s.profiles :=
    (congrArg (List.map Session.profile) hsessions).trans (SavedTown.profiles_sessions settings s)
  rw [Marked, hprofiles, hculprit]
  exact hcoherent.marked

theorem Lived.marked (h : t.Lived) : t.Marked := by
  induction h with
  | started hstart => exact (sound_start hstart).one_marked
  | later _ hlater ih => exact ih.later hlater
  | restored _ _ _ hrestore => exact marked_of_restore hrestore

end Town

/-! ## Chronicles -/

namespace Session

variable {s : Session} {earlier pages : List Page}

/-- A deed adds a page at most. -/
theorem Chronicle.undergo (h : Chronicle earlier pages s) (d : Deed) :
    ∃ more, Chronicle earlier (pages ++ more) (s.undergo d) := by
  have hnone : ∀ {s}, Chronicle earlier pages s → ∃ more, Chronicle earlier (pages ++ more) s :=
    fun h => ⟨[], (List.append_nil pages).symm ▸ h⟩
  unfold Session.undergo
  rw [informed_eq]
  by_cases hclosed : Evidence.splitSection s.instructions.toList = .unclosed
  · rw [if_pos hclosed]
    exact hnone h
  · rw [if_neg hclosed]
    rcases d.said with _ | ⟨c, m⟩
    · exact hnone (h.told d.evidence)
    · by_cases hunheard : m.chunks = some 0
      · obtain ⟨now, sender, text, chunks⟩ := m
        cases hunheard
        exact hnone (h.told d.evidence)
      · obtain ⟨rounds, between, acts, point, hcourse⟩ := deliver_course c.model
          (c.casting s.profile d.suspects) m
          ⟨{ s with instructions := Evidence.revised d.evidence s.instructions }, c.modelState,
            c.executorState⟩ hunheard
        exact ⟨_, (h.told d.evidence).page hcourse⟩

theorem Chronicle.undergoAll (h : Chronicle earlier pages s) (ds : List Deed) :
    ∃ more, Chronicle earlier (pages ++ more) (ds.foldl Session.undergo s) := by
  induction ds generalizing pages s with
  | nil => exact ⟨[], (List.append_nil pages).symm ▸ h⟩
  | cons d ds ih =>
    obtain ⟨more, hmore⟩ := h.undergo d
    obtain ⟨rest, hrest⟩ := ih hmore
    exact ⟨more ++ rest, List.append_assoc .. ▸ hrest⟩

end Session

namespace Town

variable {t : Town} {i : Nat} {s : Session} {earlier pages : List Session.Page}

theorem Later.profile_session {t' : Town} (h : t.Later t') (i : Nat) :
    t'.sessions[i]?.map Session.profile = t.sessions[i]?.map Session.profile := by
  rw [← List.getElem?_map, ← List.getElem?_map]
  exact congrArg (fun people : List Profile => people[i]?) h.same.1

/-- What becomes of a town adds pages to the chronicles. -/
theorem Later.chronicle {t' : Town} (hlater : t.Later t') (hs : t.sessions[i]? = some s)
    (h : Session.Chronicle earlier pages s) :
    ∃ s' more, t'.sessions[i]? = some s' ∧ Session.Chronicle earlier (pages ++ more) s' := by
  induction hlater with
  | now => exact ⟨s, [], hs, (List.append_nil pages).symm ▸ h⟩
  | @done t' c o _ ih =>
    obtain ⟨s', more, hs', h'⟩ := ih
    obtain ⟨rest, hrest⟩ := h'.undergoAll (t'.bearing.deedsOf i c o)
    refine ⟨_, more ++ rest, ?_, List.append_assoc .. ▸ hrest⟩
    rw [session_perform, hs', Option.map_some]
  | renamed name _ ih => exact ih

/-- A new town's sessions are new. -/
theorem chronicle_start {profiles : List Profile} {prompts : PromptStore} {policy : CulpritPolicy}
    {settings : Settings} (hstart : start profiles prompts policy settings = .ok t)
    (hs : t.sessions[i]? = some s) : Session.Chronicle [] [] s := by
  rcases start_cases profiles prompts policy settings with ⟨-, h⟩ | ⟨_, -, h⟩ | ⟨-, -, -, h⟩ |
    ⟨culprit, -, -, ⟨e, -, h⟩ | ⟨sessions, t', henlist, h, rfl, -, -⟩⟩
  all_goals
    rw [h] at hstart
    cases hstart
  have hall := instructed_of_enlist henlist
  obtain ⟨hi, rfl⟩ := List.getElem?_eq_some_iff.1 hs
  obtain ⟨text, -, hnew⟩ := hall.get (hall.length_eq.symm ▸ hi) hi
  rw [List.get_eq_getElem] at hnew
  exact hnew ▸ .opened _ text settings

theorem session_restored {t' : Town} {settings : Settings} {now : Timestamp}
    (h : SavedTown.restore settings (SavedTown.capture now t) = .ok t') :
    t'.sessions[i]? = t.sessions[i]?.map fun s =>
      (Session.new s.profile s.instructions settings).withTranscript s.transcript := by
  obtain ⟨-, hsessions, -⟩ := SavedTown.of_restore h
  rw [hsessions]
  show ((t.sessions.map SavedSuspect.ofSession).map (SavedSuspect.session settings))[i]? = _
  rw [List.map_map, List.getElem?_map]
  rfl

/-- **Every session of a town has its chronicle.** -/
theorem Lived.chronicle (h : t.Lived) (hs : t.sessions[i]? = some s) :
    ∃ earlier pages, Session.Chronicle earlier pages s := by
  induction h generalizing s with
  | started hstart => exact ⟨[], [], chronicle_start hstart hs⟩
  | @later t t' _ hlater ih =>
    have hprofile := hlater.profile_session i
    rw [hs, Option.map_some] at hprofile
    obtain ⟨s₀, hs₀, -⟩ := Option.map_eq_some_iff.1 hprofile.symm
    obtain ⟨earlier, pages, h⟩ := ih hs₀
    obtain ⟨s', more, hs', h'⟩ := hlater.chronicle hs₀ h
    obtain rfl : s = s' := Option.some.inj (hs.symm.trans hs')
    exact ⟨_, _, h'⟩
  | @restored t t' now settings _ hrestore ih =>
    rw [session_restored hrestore] at hs
    obtain ⟨s', hs', rfl⟩ := Option.map_eq_some_iff.1 hs
    obtain ⟨earlier, pages, h⟩ := ih hs'
    exact ⟨_, _, h.resumed settings⟩

end Town

namespace SavedTown

/-- **What a restored town tells the model of the past.** The save of a town with whatever past is restored.
As long as nothing more was said to a suspect there, and whatever else was done, the first request about words
to the suspect names no response, and its input is a replay of the saved transcript and the words; only
instructions whose section is never closed, and words to whose answer nobody listens, lead to no request. The
replay says who said what just where no detective had the suspect's name, and it has the user's items of
the session that was saved just where, besides, no response held an item of the user. -/
theorem restored_replays {t : Town} (h : t.Lived) (now : Timestamp) (settings : Settings) :
    ∃ t', restore settings (capture now t) = .ok t' ∧ ∀ i s, t.sessions[i]? = some s →
      (∃ earlier pages, Session.Chronicle earlier pages s) ∧
      ∀ t'' s'', t'.Later t'' → t''.sessions[i]? = some s'' → s''.transcript = s.transcript →
        ∀ c o w, t''.bearing.Tells i o → o.words? = some w →
          (t''.asked c o = [] ↔
            Evidence.splitSection s''.instructions.toList = .unclosed ∨ w.chunks = some 0) ∧
          ∀ q, (t''.asked c o).head? = some q →
            ∀ earlier pages, Session.Chronicle earlier pages s →
              s.Replayed earlier pages (.userText (frameMessage t''.detective w.text)) q := by
  obtain ⟨t', hrestore⟩ := restore_of_coherent (h.marked.coherent now) settings
  refine ⟨t', hrestore, fun i s hs => ⟨h.chronicle hs, ?_⟩⟩
  intro t'' s'' hlater hs'' hsame c o w htells hwords
  refine ⟨(t''.asked_tells c hs'' htells).2 w hwords, fun q hq earlier pages hchronicle => ?_⟩
  have hresumed := Town.session_restored (i := i) hrestore
  rw [hs, Option.map_some] at hresumed
  obtain ⟨s', more, hs', hlived⟩ := hlater.chronicle hresumed (hchronicle.resumed settings)
  obtain rfl : s'' = s' := Option.some.inj (hs''.symm.trans hs')
  have hname : s''.name = s.name := by
    have hprofile := hlater.profile_session i
    rw [hs'', hresumed] at hprofile
    exact congrArg Profile.name (Option.some.inj hprofile)
  -- every page has its message on record, so the transcript is the same only if there is none
  obtain rfl : more = [] := by
    have htranscript := hlived.transcript
    rw [hsame, hchronicle.transcript, hname, List.nil_append, @List.flatMap_append _ _ (_ ++ _),
      List.self_eq_append_right, List.flatMap_eq_nil_iff] at htranscript
    exact List.eq_nil_iff_forall_not_mem.2 fun p hp => List.cons_ne_nil _ _ (htranscript p hp)
  obtain ⟨hprevious, hinput⟩ := (hlived.told t''.evidence).request w.now t''.detective w.text
  rw [← Town.first_asked hs'' htells hwords hq] at hprevious hinput
  refine hchronicle.replayed hprevious (hinput.trans ?_)
  rw [← hname, ← hsame]
  rfl

/-- A company in which nothing comes of actions. -/
def counters : Company := ⟨Session.counting, idle, 0, ()⟩

/-- Something is said to the active suspect. -/
def saying (text : String) : Operation := .speak ⟨default, text, none⟩

/-- The town after a detective of some name has greeted the cook. -/
def greeted (detective : String) : Town :=
  { kitchenBefore with detective := detective }.perform counters (saying "Hello.")

theorem lived_greeted (detective : String) : (greeted detective).Lived :=
  .later (.started kitchen_eq) (.done counters _ (.renamed detective .now))

/-- The cook is greeted by Ann, and after a save is restored she is spoken to again. -/
theorem restored_replays_greeted :
    ∃ t', restore .default (capture default (greeted "Ann")) = .ok t' ∧
      t'.asked counters (saying "Well?") ≠ [] ∧
      ∀ q, (t'.asked counters (saying "Well?")).head? = some q →
        q.previousResponseId = none ∧ q.input = [.userText "[Ann says]: Hello.",
          .assistantText "one", .userText "[Ann says]: Well?"] := by
  have hcook : (greeted "Ann").sessions.map (fun s => (s.name, s.instructions, s.transcript)) =
      [("Rosa", "[COLLECTED EVIDENCE]\n- (none)\n[END COLLECTED EVIDENCE]",
        [.spoken default "Ann" "Rosa" "[Ann says]: Hello.", .spoken default "Rosa" "Ann" "one"])] := by
    decide +kernel
  have hclosed : Evidence.splitSection
      "[COLLECTED EVIDENCE]\n- (none)\n[END COLLECTED EVIDENCE]".toList ≠ .unclosed := by
    decide +kernel
  obtain ⟨s, hs, hsaid⟩ := List.map_eq_singleton_iff.1 hcook
  obtain ⟨hname, hinstructions, htranscript⟩ := by simpa only [Prod.mk.injEq] using hsaid
  obtain ⟨t', ht', hreplays⟩ := restored_replays (lived_greeted "Ann") default .default
  obtain ⟨-, hsessions, -, -, -, hdetective⟩ := of_restore ht'
  simp only [capture, greeted, Town.detective_perform] at hdetective
  have hactive : t'.active = 0 := by
    have hlength : t'.sessions.length = 1 := by
      rw [hsessions, sessions, List.length_map, capture, List.length_map, hs]
      rfl
    exact Nat.lt_one_iff.1 (hlength ▸ t'.active_lt)
  have hs₀ : (greeted "Ann").sessions[0]? = some s := congrArg (fun l : List Session => l[0]?) hs
  obtain ⟨⟨earlier, pages, hchronicle⟩, hnext⟩ := hreplays 0 s hs₀
  obtain ⟨hunasked, hfirst⟩ := hnext t' _ .now ((Town.session_restored ht').trans (congrArg _ hs₀))
    rfl counters (saying "Well?") ⟨default, "Well?", none⟩ hactive rfl
  refine ⟨t', ht', fun hnone => ?_, fun q hq => ?_⟩
  · rcases hunasked.1 hnone with hopen | hzero
    · exact hclosed (hinstructions ▸ hopen)
    · cases hzero
  · obtain ⟨hafresh, hinput, -, -⟩ := hfirst q hq earlier pages hchronicle
    rw [hname, htranscript, hdetective] at hinput
    exact ⟨hafresh, hinput⟩

/-- **What a detective with the suspect's name said is replayed as the suspect's words.** -/
theorem namesake_misheard :
    (greeted "Rosa").Lived ∧
      (greeted "Rosa").sessions.map (fun s => s.history.map Item.isUser) = [[true, false]] ∧
      ∃ t', restore .default (capture default (greeted "Rosa")) = .ok t' ∧
        (t'.asked counters (saying "Well?")).map (fun q => q.input.map Item.isUser) =
          [[false, false, true]] := by
  refine ⟨lived_greeted "Rosa", by decide +kernel, ?_⟩
  obtain ⟨t', ht'⟩ :=
    restore_of_coherent ((lived_greeted "Rosa").marked.coherent default) .default
  have hasked : ((restore .default (capture default (greeted "Rosa"))).toOption.map fun t' =>
      (t'.asked counters (saying "Well?")).map fun q => q.input.map Item.isUser) =
      some [[false, false, true]] := by
    decide +kernel
  rw [ht'] at hasked
  exact ⟨t', ht', Option.some.inj hasked⟩

end SavedTown

end Inquest
