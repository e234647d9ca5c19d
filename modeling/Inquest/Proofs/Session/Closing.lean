import Inquest.Proofs.Session.Journal
import Inquest.Proofs.Session.Requests

/-! # How many rounds a turn has, and what it says in the end

* `Closing`: what a turn says, by the invocations of all its rounds and the text of the last one.
* `override_gathered`, `gathered_last`: what a turn has gathered after its rounds.
* `Halt.asked`, `Message.Course.asked`: the requests of a turn.
* `rounds_and_reply`: the rounds of a turn and its reply.
-/

namespace Inquest

/-- What a turn says in the end, by its invocations and the text of its last response. -/
inductive Closing (acts : List Invocation) (text : String) : String → Prop
  /-- The last invocation that has words speaks. -/
  | spoken {before i after t} : acts = before ++ i :: after → i.overrideText = some t →
    (∀ j ∈ after, j.overrideText = none) → Closing acts text t
  | text : (∀ j ∈ acts, j.overrideText = none) → Text.isBlank text = false → Closing acts text text
  | acknowledged {before i} : (∀ j ∈ acts, j.overrideText = none) → Text.isBlank text = true →
    acts = before ++ [i] → i.success = true → Closing acts text "Very well."
  | excused {before i} : (∀ j ∈ acts, j.overrideText = none) → Text.isBlank text = true →
    acts = before ++ [i] → i.success = false → Closing acts text i.output
  | silent : acts = [] → Text.isBlank text = true → Closing acts text ""

/-- Asked in this way, the model is heard to the end of every answer. -/
def Asking.Ends {σ : Type} (ask : Asking σ) : Prop := ∀ a q, (ask a q).1.2 ≠ none

/-- The executor finishes every action. -/
def Executor.Finishes {ε : Type} (executor : Executor ε) : Prop :=
  ∀ now e name parameters, (executor.perform now e name parameters).1 ≠ .pending

namespace Session

/-! ## Words of invocations -/

theorem lastOverride_append (is js : List Invocation) :
    lastOverride (is ++ js) = (lastOverride js).or (lastOverride is) := by
  rw [lastOverride, List.filterMap_append, List.getLast?_append]
  rfl

theorem lastOverride_singleton (i : Invocation) : lastOverride [i] = i.overrideText := by
  cases h : i.overrideText <;> simp [lastOverride, h]

theorem lastOverride_eq_none {is : List Invocation} (h : lastOverride is = none) :
    ∀ j ∈ is, j.overrideText = none :=
  List.filterMap_eq_nil_iff.1 (List.getLast?_eq_none_iff.1 h)

theorem lastOverride_eq_some {is : List Invocation} {t : String} (h : lastOverride is = some t) :
    ∃ before i after, is = before ++ i :: after ∧ i.overrideText = some t ∧
      ∀ j ∈ after, j.overrideText = none := by
  induction is using List.reverseRecOn with
  | nil => cases h
  | append_singleton is i ih =>
    rw [lastOverride_append, lastOverride_singleton] at h
    cases hi : i.overrideText with
    | some words =>
      rw [hi] at h
      cases h
      exact ⟨is, i, [], rfl, hi, nofun⟩
    | none =>
      rw [hi] at h
      obtain ⟨before, j, after, rfl, hj, hafter⟩ := ih h
      refine ⟨before, j, after ++ [i], by simp, hj, fun k hk => ?_⟩
      rcases List.mem_append.1 hk with hk | hk
      · exact hafter k hk
      · rw [List.mem_singleton.1 hk, hi]

theorem closing_spokenText {draft : Draft} {text : String}
    (hoverride : draft.override = lastOverride draft.activities)
    (htext : draft.text = if Text.isBlank text then "" else text) :
    Closing draft.activities text (spokenText draft) := by
  rw [spokenText]
  -- first the words of an action, then the model's text, then what the last action came to
  cases hwords : draft.override with
  | some t =>
    obtain ⟨before, i, after, hacts, hi, hafter⟩ := lastOverride_eq_some (hoverride.symm.trans hwords)
    exact .spoken hacts hi hafter
  | none =>
    have hnone := lastOverride_eq_none (hoverride.symm.trans hwords)
    cases hblank : Text.isBlank text with
    | false =>
      have htext : draft.text = text := by simpa [hblank] using htext
      simp only [htext, hblank]
      exact .text hnone hblank
    | true =>
      have htext : draft.text = "" := by simpa [hblank] using htext
      simp only [htext, Text.isBlank_empty]
      cases hlast : draft.activities.getLast? with
      | none => exact .silent (List.getLast?_eq_none_iff.1 hlast) hblank
      | some i =>
        obtain ⟨before, hacts⟩ := List.getLast?_eq_some_iff.1 hlast
        cases hsuccess : i.success with
        | true =>
          have hspoken := Closing.acknowledged hnone hblank hacts hsuccess
          simpa [hsuccess, acknowledgement] using hspoken
        | false =>
          have hspoken := Closing.excused hnone hblank hacts hsuccess
          simpa [hsuccess] using hspoken

/-! ## What the rounds gather -/

theorem override_gathered {draft : Draft} {rounds : List Round} :
    (gathered draft rounds).override =
      (lastOverride (rounds.flatMap Round.invocations)).or draft.override := by
  fun_induction gathered with
  | case1 => rfl
  | case2 draft x => rw [List.flatMap_singleton]; rfl
  | case3 draft x rest hrest ih =>
    rw [ih, List.flatMap_cons, lastOverride_append, Option.or_assoc]
    rfl

/-- Where no round but the last has text, the text is that of the last, as are the id and what was
received. -/
theorem gathered_last (draft : Draft) {rounds : List Round} {last : Round}
    (hlast : rounds.getLast? = some last)
    (hblank : ∀ x ∈ rounds.dropLast, Text.isBlank x.response.text = true) :
    (gathered draft rounds).text =
        (if Text.isBlank last.response.text then draft.text else last.response.text) ∧
      (gathered draft rounds).responseId = some last.response.id ∧
      (gathered draft rounds).raw = some last.response.raw.compact := by
  fun_induction gathered with
  | case1 => cases hlast
  | case2 draft x =>
    cases hlast
    exact ⟨rfl, rfl, rfl⟩
  | case3 draft x rest hrest ih =>
    have hsome : rest ≠ [] := fun h => hrest h
    rw [List.getLast?_cons_of_ne_nil hsome] at hlast
    rw [List.dropLast_cons_of_ne_nil hsome] at hblank
    obtain ⟨htext, hid, hraw⟩ := ih hlast fun y hy => hblank y (List.mem_cons_of_mem _ hy)
    have hx : (gather draft x.response x.invocations true).text = draft.text :=
      if_pos (hblank x List.mem_cons_self)
    exact ⟨by rw [htext, hx], hid, hraw⟩

/-- A round with text is the last. -/
theorem Finished.blank {settings : Settings} {bound : Nat} {rounds : List Round}
    (h : Finished settings bound rounds) :
    ∀ x ∈ rounds.dropLast, Text.isBlank x.response.text = true := by
  intro x hx
  obtain ⟨k, hk, rfl⟩ := List.getElem_of_mem hx
  rw [List.length_dropLast] at hk
  have hlt : k < rounds.length := by omega
  rw [List.getElem_dropLast, ← Bool.not_eq_false]
  intro htext
  have hlast : k + 1 = rounds.length :=
    (h.2 k _ (List.getElem?_eq_getElem hlt)).1 (.inr (.inr (.inl htext)))
  omega

/-- What a turn has gathered after its last round. -/
theorem Finished.closing {settings : Settings} {bound left : Nat} {sender : String}
    {rounds : List Round} (h : Finished settings bound rounds) :
    ∃ last, rounds.getLast? = some last ∧
      Closing (rounds.flatMap Round.invocations) last.response.text
        (spokenText (gathered (.start sender left) rounds)) ∧
      (gathered (.start sender left) rounds).activities = rounds.flatMap Round.invocations ∧
      (gathered (.start sender left) rounds).responseId = some last.response.id ∧
      (gathered (.start sender left) rounds).raw = some last.response.raw.compact := by
  obtain ⟨last, hlast⟩ := Option.ne_none_iff_exists'.1 (mt List.getLast?_eq_none_iff.1 h.1)
  obtain ⟨htext, hid, hraw⟩ := gathered_last (.start sender left) hlast h.blank
  have hactivities : (gathered (.start sender left) rounds).activities =
      rounds.flatMap Round.invocations := activities_gathered
  have hoverride : (gathered (.start sender left) rounds).override =
      lastOverride (gathered (.start sender left) rounds).activities := by
    rw [override_gathered, hactivities]
    exact Option.or_none
  have hclosing := closing_spokenText hoverride htext
  rw [hactivities] at hclosing
  exact ⟨last, hlast, hclosing, hactivities, hid, hraw⟩

/-! ## The requests of a turn -/

variable {σ ε : Type}

theorem Message.recorded_asking (model : Model σ) (m : Message) :
    (m.asking model.recorded).Recorded := by
  rw [Message.asking]
  split
  · exact model.recorded_byResponse
  · exact model.recorded_byEvents

theorem Message.asking_keepingOf (model : Model σ) (m : Message) :
    (m.asking model.recorded).KeepingOf (m.asking model) := by
  rw [Message.asking, Message.asking]
  split
  · exact model.byResponse_keepingOf
  · exact model.byEvents_keepingOf

/-- The requests of committed rounds, the newest first. -/
theorem Committed.asked {ask : Asking (σ × List (σ × Request))} (hask : ask.Recorded)
    {executor : Executor ε} {now : Timestamp} {sender : String}
    {scene between : Scene (σ × List (σ × Request)) ε} {rounds : List Round}
    (h : Committed ask executor now sender scene rounds between) :
    ∃ asked, between.model.2 = asked ++ scene.model.2 ∧
      asked.map Prod.snd = (rounds.map Round.request).reverse := by
  induction h with
  | none => exact ⟨[], rfl, rfl⟩
  | @next s a e chunks r a' is e' rounds between ha _ _ ih =>
    obtain ⟨asked, hlog, hrequests⟩ := ih
    have hround : a'.2 = (a.1, s.request) :: a.2 := by
      have hkept := hask a s.request
      rwa [ha] at hkept
    refine ⟨asked ++ [(a.1, s.request)], ?_, ?_⟩
    · rw [hlog, List.append_assoc, List.singleton_append, ← hround]
    · rw [List.map_append, hrequests, List.map_cons, List.map_cons, List.reverse_cons]
      rfl

/-- After its committed rounds a turn asks no more, or once for a round that comes to nothing. -/
theorem Halt.asked {ask : Asking (σ × List (σ × Request))} (hask : ask.Recorded)
    {executor : Executor ε} {now : Timestamp} {bound : Nat} {draft : Draft} {rounds : List Round}
    {between later : Scene (σ × List (σ × Request)) ε} {acts : List Invocation} {point : Point}
    (h : Halt ask executor now bound draft rounds between acts point later) :
    later.model.2 = between.model.2 ∧ rounds.length ≤ bound + 1 ∨
      rounds.length ≤ bound ∧ ∃ x, later.model.2 = x :: between.model.2 := by
  have hone {a : σ × List (σ × Request)} {heard : List Chunk × Option Heard}
      (ha : ask between.model between.session.request = (heard, a)) :
      ∃ x, a.2 = x :: between.model.2 := by
    have hkept := hask between.model between.session.request
    rw [ha] at hkept
    exact ⟨_, hkept⟩
  cases h with
  | hearing hon ha => exact .inr ⟨hon.length_le, hone ha⟩
  | silent hon ha => exact .inr ⟨hon.length_le, hone ha⟩
  | failed hon ha => exact .inr ⟨hon.length_le, hone ha⟩
  | pending hon ha => exact .inr ⟨hon.length_le, hone ha⟩
  | telling hrounds =>
    refine .inl ⟨rfl, ?_⟩
    rcases hrounds with hon | hfin
    · exact Nat.le_succ_of_le hon.length_le
    · exact hfin.length_le
  | replied hfin => exact .inl ⟨rfl, hfin.length_le⟩

/-- The requests of a turn are as many as the settings allow at most, and those of its rounds if it
comes to a reply. -/
theorem Message.Course.asked {model : Model σ} {executor : Executor ε} {m : Message}
    {scene between : Scene (σ × List (σ × Request)) ε} {rounds : List Round}
    {acts : List Invocation} {point : Point}
    (h : m.Course model.recorded executor scene rounds between acts point) :
    ∃ asked, (m.deliver model.recorded executor scene).2.model.2 = asked ++ scene.model.2 ∧
      asked.length ≤ scene.session.settings.maxToolRounds + 1 ∧
      ∀ reply, point.reply? = some reply →
        asked.map Prod.snd = (rounds.map Round.request).reverse := by
  have hask := m.recorded_asking model
  obtain ⟨asked, hlog, hrequests⟩ := h.committed.asked hask
  have hlog : between.model.2 = asked ++ scene.model.2 := hlog
  have hlength : asked.length = rounds.length := by
    have hsame := congrArg List.length hrequests
    rwa [List.length_map, List.length_reverse, List.length_map] at hsame
  rcases h.halt.asked hask with ⟨hlater, hbound⟩ | ⟨hbound, x, hlater⟩
  · rw [← hlength] at hbound
    exact ⟨asked, hlater.trans hlog, hbound, fun _ _ => hrequests⟩
  · rw [← hlength] at hbound
    rw [hlog] at hlater
    refine ⟨x :: asked, hlater, Nat.succ_le_succ hbound, fun reply hreply => ?_⟩
    -- a turn that comes to a reply does not ask after its rounds
    obtain ⟨-, -, hmodel, -⟩ := h.replies hreply
    rw [hmodel, hlog] at hlater
    have hlengths := congrArg List.length hlater
    simp at hlengths

/-! ## The end of a turn -/

theorem perform_finishes {executor : Executor ε} (hexecutor : executor.Finishes) (now : Timestamp)
    (tools : Toolbox) (e : ε) (c : Call) : (perform executor now tools e c).1 ≠ none := by
  simp only [perform]
  split
  · exact nofun
  · split
    · exact nofun
    · next parameters _ =>
      have hfinished := hexecutor now e c.name parameters
      rcases hp : executor.perform now e c.name parameters with ⟨(_ | _) | _ | _, _⟩
      · exact nofun
      · exact nofun
      · exact nofun
      · rw [hp] at hfinished
        exact absurd rfl hfinished

/-- A turn is abandoned only by a model or an executor that never finishes. -/
theorem Halt.ends {ask : Asking σ} {executor : Executor ε} {now : Timestamp} {bound : Nat}
    {draft : Draft} {rounds : List Round} {between later : Scene σ ε} {acts : List Invocation}
    {point : Point} (h : Halt ask executor now bound draft rounds between acts point later)
    (hmodel : ask.Ends) (hexecutor : executor.Finishes) : point ≠ .ended .abandoned := by
  rintro rfl
  rcases h.givenUp with ⟨hsilent, -⟩ | ⟨_, _, _, _, _, _, _, _, -, -, -, hpending⟩
  · exact hmodel _ _ hsilent
  · exact perform_finishes hexecutor _ _ _ _ (congrArg Prod.fst hpending)

/-- **The rounds of a turn and its reply.** A turn that comes to a reply asks exactly once for each of
its rounds, and its last round is the first that stops it: the settings allow no other, it has no calls
or it has text, or as many rounds as the settings allow went before it. The reply says what the
invocations of all rounds and the text of the last one come to, and brings these invocations and the
id of the last response. No turn asks more often than the settings allow, and only a model or an
executor that never finishes keeps a turn from its end. -/
theorem rounds_and_reply (model : Model σ) (executor : Executor ε) (m : Message)
    (scene : Scene (σ × List (σ × Request)) ε) (hm : m.chunks ≠ some 0) :
    ∃ rounds between acts point asked,
      m.Course model.recorded executor scene rounds between acts point ∧
      (m.deliver model.recorded executor scene).2.model.2 = asked ++ scene.model.2 ∧
      asked.length ≤ scene.session.settings.maxToolRounds + 1 ∧
      ((m.asking model).Ends → executor.Finishes → point ≠ .ended .abandoned) ∧
      ∀ reply, point.reply? = some reply →
        asked.map Prod.snd = (rounds.map Round.request).reverse ∧
        (∀ k x, rounds[k]? = some x →
          (Stops scene.session.settings scene.session.settings.maxToolRounds k x.response ↔
            k + 1 = rounds.length)) ∧
        ∃ last, rounds.getLast? = some last ∧
          Closing (rounds.flatMap Round.invocations) last.response.text reply.message ∧
          reply.activities = rounds.flatMap Round.invocations ∧
          reply.responseId = some last.response.id ∧
          reply.raw = some last.response.raw.compact := by
  obtain ⟨rounds, between, acts, point, hcourse⟩ := deliver_course model.recorded executor m scene hm
  obtain ⟨asked, hlog, hbound, hasked⟩ := hcourse.asked
  refine ⟨rounds, between, acts, point, asked, hcourse, hlog, hbound, ?_, fun reply hreply => ?_⟩
  · intro hmodel hexecutor
    -- keeping the requests does not change whether the model answers
    have hrecorded : (m.asking model.recorded).Ends := by
      intro a q hnone
      have hsame := congrArg Prod.fst (m.asking_keepingOf model a q)
      exact hmodel a.1 q (hsame ▸ hnone)
    exact hcourse.halt.ends hrecorded hexecutor
  · obtain ⟨hfin, -, -, hclosing⟩ := hcourse.replies hreply
    obtain ⟨-, hmessage, hactivities, hid, hraw⟩ := finish_eq hclosing
    rw [hmessage, hactivities, hid, hraw]
    exact ⟨hasked reply hreply, hfin.2, hfin.closing⟩

/-- A response that asks for an action and says nothing. -/
def going (n : Nat) : Response :=
  ⟨toString n, "m", .completed, [.call ⟨none, "c", "go_to_npc", "\x7b\x7d"⟩], ⟨0, 0⟩, .null⟩

/-- A model that always wants to go somewhere, and never says a word. -/
def roaming : Model Nat where
  respond n _ := (.came (.ok (going n)), n + 1)
  stream n _ := (.came (.ok [.ok (.completed (going n))]), n + 1)

/-- Two rounds and an acknowledgement, where one round may follow the first. -/
theorem rounds_and_reply_acknowledged :
    let settings := { Settings.default with followUp := .untilText, maxToolRounds := 1 }
    let executor : Executor Unit :=
      ⟨fun now e name parameters => (.finished (.ok (.succeeded now name parameters "Gone.")), e)⟩
    let m : Message := ⟨default, "Ann", "Where is Rosa?", none⟩
    let scene : Scene (Nat × List (Nat × Request)) Unit :=
      ⟨.new (.new "Rosa" "cook" "a knife") "Be brief." settings, (0, []), ()⟩
    m.chunks ≠ some 0 ∧ ∃ rounds between acts point reply,
      m.Course roaming.recorded executor scene rounds between acts point ∧
        rounds.length = 2 ∧ point.reply? = some reply ∧ reply.message = "Very well." ∧
        reply.activities = rounds.flatMap Round.invocations := by
  intro settings executor m scene
  have hm : m.chunks ≠ some 0 := nofun
  obtain ⟨rounds, between, acts, point, asked, hcourse, hasked, -, -, hclosing⟩ :=
    rounds_and_reply roaming executor m scene hm
  have hheard : ((lastPoint? (m.deliver roaming.recorded executor scene).1).bind
      Point.reply?).map Reply.message = some "Very well." := by decide +kernel
  rw [hcourse.heard, Option.bind_some] at hheard
  obtain ⟨reply, hreply, hmessage⟩ := Option.map_eq_some_iff.1 hheard
  obtain ⟨hrequests, -, last, -, -, hactivities, -⟩ := hclosing reply hreply
  have hlog : (m.deliver roaming.recorded executor scene).2.model.2.length = 2 := by decide +kernel
  have hrounds : rounds.length = 2 := by
    have hsame := congrArg List.length hrequests
    rw [hasked, List.append_nil] at hlog
    rwa [List.length_map, List.length_reverse, List.length_map, hlog, eq_comm] at hsame
  exact ⟨hm, rounds, between, acts, point, reply, hcourse, hrounds, hreply, hmessage, hactivities⟩

end Session

end Inquest
