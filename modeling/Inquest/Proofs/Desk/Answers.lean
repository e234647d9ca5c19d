import Inquest.Desk.Shift
import Inquest.Proofs.Session.Course
import Inquest.Proofs.Town.Talking
import Mathlib.Data.List.Forall2

/-! # One request, one answer

The answer to a request passes on what the conversation tells, chunk by chunk, and then says once how the
request ended.

* `turn_closes`: the reply is the last chunk of its stream and no other is, and it is the suspect's own.
* `Answered`: what an answer must be, in terms of the conversation in the town alone.
* `attend_answered`: an open desk answers so.
* `Answered.endsOnce`: such an answer ends, and ends once, unless the desk is shut down or nothing ever
  comes of a conversation without limit.
-/

namespace Inquest

variable {σ ε : Type}

/-! ## Streams -/

/-- The chunk with which a stream ends. -/
def Ending.closing : Ending → List Chunk
  | .replied r => [.done r]
  | _ => []

namespace Session

/-- What is told of a turn of a suspect: chunks on the way, and in the end the suspect's reply, if there
is one. -/
structure Closes {α : Type} (name : String) (told : Told α) : Prop where
  chunks : ∃ cs, told.chunks.map Prod.fst = cs ++ told.ending.closing ∧ ∀ c ∈ cs, c.Underway
  sender : ∀ r, told.ending = .replied r → r.sender = name

theorem Closes.heard {α : Type} {name : String} {heard : List Chunk} {a b : α} {ending : Ending}
    (h : ∀ c ∈ heard, c.Underway) (hending : ∀ r, ending ≠ .replied r) :
    Closes name ⟨heard.map fun c => (c, a), ending, b⟩ where
  chunks := by
    refine ⟨heard, ?_, h⟩
    rw [List.map_map]
    cases ending with
    | replied r => exact absurd rfl (hending r)
    | _ => exact (List.map_id' heard).trans (List.append_nil heard).symm
  sender := fun r hr => absurd hr (hending r)

/-- A round in front of what is told later. -/
theorem Closes.prepend {α : Type} {name : String} {told : Told α} (h : Closes name told)
    {heard : List Chunk} (hheard : ∀ c ∈ heard, c.Underway) (is : List Invocation) (a b : α) :
    Closes name (told.prepend ((heard.map fun c => (c, a)) ++ is.map fun i => (.action i, b))) where
  chunks := by
    obtain ⟨cs, hcs, hunderway⟩ := h.chunks
    refine ⟨heard ++ is.map Chunk.action ++ cs, ?_, ?_⟩
    · simp only [Told.chunks_prepend, Told.ending_prepend, List.map_append, hcs, List.map_map,
        List.append_assoc]
      exact congrArg (· ++ _) (List.map_id' heard)
    · intro c hc
      rcases List.mem_append.1 hc with hc | hc
      · rcases List.mem_append.1 hc with hc | hc
        · exact hheard c hc
        · obtain ⟨i, -, rfl⟩ := List.mem_map.1 hc
          trivial
      · exact hunderway c hc
  sender := h.sender

theorem rounds_close {ask : Asking σ} (hask : Underway ask) (executor : Executor ε)
    (now : Timestamp) (left : Nat) (draft : Draft) (scene : Scene σ ε) :
    Closes scene.session.name (rounds ask executor now left draft scene) := by
  have hheard {a a' : σ} {q : Request} {chunks : List Chunk} {heard : Option Heard}
      (ha : ask a q = ((chunks, heard), a')) : ∀ c ∈ chunks, c.Underway := by
    have h := hask a q
    rwa [ha] at h
  refine rounds_induction (P := fun _ _ scene told => Closes scene.session.name told)
    ?silent ?failed ?pending ?again ?last left draft scene
  case silent => exact fun ha => .heard (hheard ha) nofun
  case failed => exact fun ha => .heard (hheard ha) nofun
  case pending => exact fun ha _ => .heard (hheard ha) nofun
  case again =>
    intro left draft s a e chunks a' r is e' ha hc hagain scene told ih
    exact ih.prepend (hheard ha) is _ _
  case last =>
    intro left draft s a e chunks a' r is e' ha hc hagain committed closing
    have hdone : Closes s.name (⟨[(.done closing.1, ⟨closing.2, a', e'⟩)], .replied closing.1,
        ⟨closing.2, a', e'⟩⟩ : Told (Scene σ ε)) :=
      ⟨⟨[], rfl, nofun⟩, fun r hr => by
        cases hr
        rfl⟩
    exact hdone.prepend (hheard ha) is _ _

/-- **A reply is the last chunk of its stream and no other is, and it is the suspect's own.** -/
theorem turn_closes {ask : Asking σ} (hask : Underway ask) (executor : Executor ε) (now : Timestamp)
    (sender text : String) (scene : Scene σ ε) :
    Closes scene.session.name (turn ask executor now sender text scene) :=
  rounds_close hask executor now scene.session.settings.maxToolRounds
    (.start sender scene.session.settings.maxToolRounds)
    { scene with session := scene.session.beginTurn now sender text }

theorem Closes.map {α β : Type} {name : String} {told : Told α} (h : Closes name told) (f : α → β) :
    Closes name (told.map f) where
  chunks := by
    obtain ⟨cs, hcs, hunderway⟩ := h.chunks
    refine ⟨cs, ?_, hunderway⟩
    rw [Told.map, List.map_map]
    exact hcs
  sender := h.sender

end Session

/-! ## Conversations by name -/

theorem Session.name_informed {items : List Evidence} {s s' : Session}
    (h : s.informed items = .ok s') : s'.name = s.name := by
  rw [informed_eq] at h
  split at h
  · cases h
  · cases h
    rfl

namespace Play

/-- Whoever is turned to by name has the name. -/
theorem name_switchTo {t t' : Town} {name : String} (h : t.switchTo name = .ok t') :
    t'.activeSession.name = name := by
  unfold Town.switchTo at h
  split at h
  · next i hi =>
    cases h
    exact eq_of_beq (List.findFinIdx?_eq_some_iff.1 hi).1
  · cases h

variable (model : Model σ) (casting : Casting ε) (now : Timestamp) {npc text : String}
  {p p' : Play σ ε}

/-- The suspect who was asked for replies. -/
theorem sender_talk {r : Reply}
    (h : p.talk model casting now npc text = (.ok (.replied r), p')) : r.sender = npc := by
  unfold talk turnTo at h
  cases hswitch : p.town.switchTo npc with
  | error e =>
    rw [hswitch] at h
    cases h
  | ok t =>
    simp only [hswitch, Except.map, send_eq] at h
    split at h
    · cases h
    · next s hs =>
      have hname : s.name = npc := (Session.name_informed hs).trans (name_switchTo hswitch)
      rw [Session.send_eq] at h
      have hending := Except.ok.inj (congrArg Prod.fst h)
      exact ((Session.turn_closes (Session.underway_byResponse model) ..).sender r hending).trans
        hname

/-- The stream of the suspect who was asked for. -/
theorem closes_streamTo {told : Told (Play σ ε)}
    (h : p.streamTo model casting now npc text = (.ok told, p')) : Session.Closes npc told := by
  unfold streamTo turnTo at h
  cases hswitch : p.town.switchTo npc with
  | error e =>
    rw [hswitch] at h
    cases h
  | ok t =>
    simp only [hswitch, Except.map, stream_eq] at h
    split at h
    · cases h
    · next s hs =>
      have hname : s.name = npc := (Session.name_informed hs).trans (name_switchTo hswitch)
      cases h
      rw [Session.stream_eq, ← hname]
      have hturn := Session.turn_closes (Session.underway_byEvents model)
        (activeExecutor casting ⟨t, p.model, p.executor⟩) now t.detective text
        ⟨s, p.model, p.executor⟩
      exact hturn.map _

end Play

/-! ## Answers -/

namespace Desk

/-- Responses that end a request. -/
def Response.Last : Response → Prop
  | .complete _ | .failed _ _ | .culprit _ | .saved _ | .saveFailed _ => True
  | _ => False

/-- A chunk on the way, and how it is passed on. -/
inductive Passes (npc : String) : Chunk → Response → Prop
  | text (t : String) : Passes npc (.text t) (.text npc t)
  | processing : Passes npc .processing (.processing npc)
  | action (i : Invocation) : Passes npc (.action i) (.action npc i)

/-- How a conversation ends, and what is said of that: the suspect's own reply, what went wrong in words
for the player, or, when there is a limit, an apology. Without a limit one waits for good. -/
inductive Ends (limited : Bool) (npc : String) : Except TownError Ending → Option Response → Prop
  | complete {r : Reply} (hsender : r.sender = npc) :
    Ends limited npc (.ok (.replied r)) (some (.complete r))
  | refused (e : TownError) : Ends limited npc (.error e) (some (.failed npc e.fallback))
  | failed (e : TurnError) : Ends limited npc (.ok (.failed e)) (some (.failed npc troubleText))
  | expired (hlimited : limited = true) :
    Ends limited npc (.ok .abandoned) (some (.failed npc troubleText))
  | endless (hlimited : limited = false) : Ends limited npc (.ok .abandoned) none

variable (model : Model σ) (casting : Casting ε)

/-- What an answer must be: a desk, a visit to it, the answer and the play after it. -/
inductive Answered (d : Desk σ ε) (v : Visit) : List Response → Play σ ε → Prop
  /-- A whole reply is waited for. -/
  | talked {npc text result last p} (hrequest : v.request = .talk npc text)
      (htalk : d.play.talk model casting v.now npc text = (result, p))
      (hends : Ends d.limited npc result last) : Answered d v last.toList p
  /-- Nobody can be listened to. -/
  | unheard {npc text e p} (hrequest : v.request = .stream npc text)
      (hstream : d.play.streamTo model casting v.now npc text = (.error e, p)) :
    Answered d v [.failed npc e.fallback] p
  /-- A reply is listened to, to its end. -/
  | heard {npc text told p cs passed last} (hrequest : v.request = .stream npc text)
      (hstream : d.play.streamTo model casting v.now npc text = (.ok told, p))
      (hchunks : told.chunks.map Prod.fst = cs ++ told.ending.closing)
      (hpassed : List.Forall₂ (Passes npc) cs passed)
      (hends : Ends d.limited npc (.ok told.ending) last) :
    Answered d v (passed ++ last.toList) told.final
  /-- A reply is listened to until the time is up, when its last chunk may have been passed on or not. -/
  | late {npc text told p c p' cut rest said passed} (hrequest : v.request = .stream npc text)
      (hstream : d.play.streamTo model casting v.now npc text = (.ok told, p))
      (hlimited : d.limited = true) (hchunks : told.chunks = cut ++ (c, p') :: rest)
      (hsaid : said = cut.map Prod.fst ∨ said = cut.map Prod.fst ++ [c])
      (hpassed : List.Forall₂ (Passes npc) said passed) :
    Answered d v (passed ++ [.failed npc troubleText]) p'
  | revealed (hrequest : v.request = .reveal) :
    Answered d v [.culprit d.play.town.culpritName] d.play
  | saved {path directory} (hrequest : v.request = .save path)
      (hstore : (SavedTown.capture v.now d.play.town).store path d.directory = .ok directory) :
    Answered d v [.saved path] d.play
  | notSaved {path e} (hrequest : v.request = .save path)
      (hstore : (SavedTown.capture v.now d.play.town).store path d.directory = .error e) :
    Answered d v [.saveFailed e.message] d.play
  | shutdown (hrequest : v.request = .shutdown) : Answered d v [] d.play

theorem ends_conclude {limited : Bool} {npc : String} {result : Except TownError Ending}
    (h : ∀ r, result = .ok (.replied r) → r.sender = npc) :
    Ends limited npc result (conclude limited npc result) := by
  rcases result with e | r | e | -
  · exact .refused e
  · exact .complete (h r rfl)
  · exact .failed e
  · cases limited
    · exact .endless rfl
    · exact .expired rfl

/-- Every chunk on the way is passed on, in order. -/
theorem passes_forward {npc : String} {cs : List Chunk} (h : ∀ c ∈ cs, c.Underway) :
    List.Forall₂ (Passes npc) cs (cs.filterMap (forward npc)) := by
  induction cs with
  | nil => exact .nil
  | cons c cs ih =>
    have hrest := ih fun c hc => h c (List.mem_cons_of_mem _ hc)
    cases c with
    | text t => exact .cons (.text t) hrest
    | processing => exact .cons .processing hrest
    | action i => exact .cons (.action i) hrest
    | done r => exact (h (.done r) List.mem_cons_self).elim

theorem forward_closing (npc : String) (ending : Ending) :
    ending.closing.filterMap (forward npc) = [] := by
  cases ending <;> rfl

theorem filterMap_forward {α : Type} (npc : String) (chunks : List (Chunk × α)) :
    (chunks.filterMap fun (c, _) => forward npc c) =
      (chunks.map Prod.fst).filterMap (forward npc) := by
  rw [List.filterMap_map]
  rfl

/-- What is passed on of a stream that was given up. -/
theorem givenUp?_eq_some {α : Type} {npc : String} {told : Told α} {late : Late}
    {answer : List Response} {a : α} (hcloses : Session.Closes npc told)
    (h : givenUp? npc told late = some (answer, a)) :
    ∃ c cut rest said passed, told.chunks = cut ++ (c, a) :: rest ∧
      (said = cut.map Prod.fst ∨ said = cut.map Prod.fst ++ [c]) ∧
      List.Forall₂ (Passes npc) said passed ∧ answer = passed ++ [.failed npc troubleText] := by
  obtain ⟨k, heard⟩ := late
  obtain ⟨c, hc, hundone, hanswer⟩ : ∃ c, told.chunks[k]? = some (c, a) ∧ (∀ r, c ≠ .done r) ∧
      answer = (told.chunks.take (if heard then k + 1 else k)).filterMap
        (fun (c, _) => forward npc c) ++ [.failed npc troubleText] := by
    unfold givenUp? at h
    split at h
    · cases h
    · cases h
    · next c _ hundone hc =>
      cases h
      exact ⟨c, hc, hundone, rfl⟩
  obtain ⟨hk, hget⟩ := List.getElem?_eq_some_iff.1 hc
  have htake : told.chunks.take (k + 1) = told.chunks.take k ++ [(c, a)] := by
    rw [List.take_add_one, hc]
    rfl
  -- the chunk at which it is given up is not the reply, so none before it is
  have hunderway : ∀ d ∈ (told.chunks.take k).map Prod.fst ++ [c], d.Underway := by
    intro d hd
    obtain ⟨cs, hcs, hunderway⟩ := hcloses.chunks
    have hlt : k < cs.length := by
      by_contra hge
      have hlast : (told.chunks.map Prod.fst)[k]? = some c := by
        rw [List.getElem?_map, hc]
        rfl
      rw [hcs, List.getElem?_append_right (Nat.le_of_not_lt hge)] at hlast
      have hmem := List.mem_of_getElem? hlast
      cases hending : told.ending with
      | replied r =>
        rw [hending] at hmem
        exact hundone r (List.mem_singleton.1 hmem)
      | failed e | abandoned =>
        rw [hending] at hmem
        cases hmem
    have hcut : (told.chunks.take k).map Prod.fst ++ [c] = cs.take (k + 1) := by
      have hmap := congrArg (List.map Prod.fst) htake
      rw [List.map_append, List.map_singleton, List.map_take, hcs,
        List.take_append_of_le_length hlt] at hmap
      exact hmap.symm
    rw [hcut] at hd
    exact hunderway d (List.mem_of_mem_take hd)
  have hchunks : told.chunks = told.chunks.take k ++ (c, a) :: told.chunks.drop (k + 1) := by
    rw [← hget, List.getElem_cons_drop, List.take_append_drop]
  rw [filterMap_forward] at hanswer
  cases heard with
  | false =>
    exact ⟨c, _, _, _, _, hchunks, .inl rfl,
      passes_forward fun d hd => hunderway d (List.mem_append_left _ hd), hanswer⟩
  | true =>
    rw [if_pos rfl, htake, List.map_append] at hanswer
    exact ⟨c, _, _, _, _, hchunks, .inr rfl, passes_forward hunderway, hanswer⟩

variable (d : Desk σ ε) (v : Visit)

/-- **An open desk that takes its time answers as it must.** -/
theorem serve_answered :
    Answered model casting d v (d.serve model casting v.now v.request).1
      (d.serve model casting v.now v.request).2.play := by
  cases hrequest : v.request with
  | talk npc text =>
    have hends : Ends d.limited npc (d.play.talk model casting v.now npc text).1
        (conclude d.limited npc (d.play.talk model casting v.now npc text).1) :=
      ends_conclude fun r hr => Play.sender_talk model casting v.now (Prod.ext hr rfl)
    exact .talked hrequest rfl hends
  | stream npc text =>
    rcases hstream : d.play.streamTo model casting v.now npc text with ⟨e | told, p⟩
    · simp only [serve, hstream]
      exact .unheard hrequest hstream
    · simp only [serve, hstream]
      have hcloses := Play.closes_streamTo model casting v.now hstream
      obtain ⟨cs, hcs, hunderway⟩ := hcloses.chunks
      rw [filterMap_forward, hcs, List.filterMap_append, forward_closing, List.append_nil]
      exact .heard hrequest hstream hcs (passes_forward hunderway)
        (ends_conclude fun r hr => hcloses.sender r (Except.ok.inj hr))
  | reveal => exact .revealed hrequest
  | save path =>
    simp only [serve]
    cases hstore : (SavedTown.capture v.now d.play.town).store path d.directory with
    | ok directory => exact .saved hrequest hstore
    | error e => exact .notSaved hrequest hstore
  | shutdown => exact .shutdown hrequest

/-- **An open desk answers as it must.** -/
theorem attend_answered (h : d.standing = .serving) :
    Answered model casting d v (d.attend model casting v).1 (d.attend model casting v).2.play := by
  have hserve : d.handle model casting v.now v.request = d.serve model casting v.now v.request := by
    rw [handle, h]
  have hanswered := serve_answered model casting d v
  rw [← hserve] at hanswered
  unfold attend
  split
  · next k npc text _ hlimited hlate hrequest =>
    split
    · exact hanswered
    · next told hstream =>
      split
      · exact hanswered
      · next answer play hgiven =>
        have hcloses := Play.closes_streamTo model casting v.now (Prod.ext hstream rfl)
        obtain ⟨c, cut, rest, said, passed, hchunks, hsaid, hpassed, rfl⟩ :=
          givenUp?_eq_some hcloses hgiven
        exact .late hrequest (Prod.ext hstream rfl) hlimited hchunks hsaid hpassed
  · exact hanswered

/-! ## How an answer ends -/

/-- A conversation of which nothing ever comes, and no limit to it. -/
def Endless : Prop :=
  d.limited = false ∧
    match v.request with
    | .talk npc text => (d.play.talk model casting v.now npc text).1 = .ok .abandoned
    | .stream npc text => ∃ told,
      (d.play.streamTo model casting v.now npc text).1 = .ok told ∧ told.ending = .abandoned
    | _ => False

/-- The suspect named in a response. -/
def Response.npc? : Response → Option String
  | .text npc _ | .processing npc | .action npc _ | .failed npc _ => some npc
  | .complete r => some r.sender
  | _ => none

theorem Ends.npc? {limited : Bool} {npc : String} {result : Except TownError Ending}
    {last : Option Response} (h : Ends limited npc result last) :
    ∀ x ∈ last.toList, x.npc? = some npc := by
  cases h with
  | complete hsender => simp [Response.npc?, hsender]
  | endless => exact nofun
  | _ => simp [Response.npc?]

theorem Passes.npc? {npc : String} {cs : List Chunk} {passed : List Response}
    (h : List.Forall₂ (Passes npc) cs passed) : ∀ x ∈ passed, x.npc? = some npc ∧ ¬ x.Last := by
  induction h with
  | nil => exact nofun
  | cons hpasses _ ih =>
    refine List.forall_mem_cons.2 ⟨?_, ih⟩
    cases hpasses <;> exact ⟨rfl, id⟩

/-- An answer that ends once, with its last response. -/
def EndsOnce (answer : List Response) : Prop :=
  ∃ progress last, answer = progress ++ [last] ∧ (∀ x ∈ progress, ¬ x.Last) ∧ last.Last

theorem EndsOnce.single {r : Response} (h : r.Last) : EndsOnce [r] := ⟨[], r, rfl, nofun, h⟩

variable {model casting d v} {answer : List Response} {p : Play σ ε}

/-- **An answer ends, and ends once**, unless the desk is shut down or a conversation is endless. -/
theorem Answered.endsOnce (h : Answered model casting d v answer p)
    (hopen : v.request ≠ .shutdown) (hends : ¬ Endless model casting d v) : EndsOnce answer := by
  cases h with
  | talked hrequest htalk hlast =>
    cases hlast with
    | endless hlimited =>
      refine absurd ⟨hlimited, ?_⟩ hends
      rw [hrequest]
      exact congrArg Prod.fst htalk
    | _ => exact .single trivial
  | unheard => exact .single trivial
  | @heard npc text told p cs passed last hrequest hstream hchunks hpassed hlast =>
    have hprogress : ∀ x ∈ passed, ¬ x.Last := fun x hx => (Passes.npc? hpassed x hx).2
    generalize hending : told.ending = ending at hlast
    cases hlast with
    | endless hlimited =>
      refine absurd ⟨hlimited, ?_⟩ hends
      rw [hrequest]
      exact ⟨told, congrArg Prod.fst hstream, hending⟩
    | _ => exact ⟨passed, _, rfl, hprogress, trivial⟩
  | late hrequest hstream hlimited hchunks hsaid hpassed =>
    exact ⟨_, _, rfl, fun x hx => (Passes.npc? hpassed x hx).2, trivial⟩
  | shutdown hrequest => exact absurd hrequest hopen
  | _ => exact .single trivial

/-- **All responses to a conversation name the suspect who was asked for.** -/
theorem Answered.npc? (h : Answered model casting d v answer p) {npc text : String}
    (hrequest : v.request = .talk npc text ∨ v.request = .stream npc text) :
    ∀ x ∈ answer, x.npc? = some npc := by
  cases h with
  | talked hrequest' htalk hlast =>
    rw [hrequest'] at hrequest
    rcases hrequest with ⟨⟨⟩⟩ | ⟨⟨⟩⟩
    exact hlast.npc?
  | unheard hrequest' hstream =>
    rw [hrequest'] at hrequest
    rcases hrequest with ⟨⟨⟩⟩ | ⟨⟨⟩⟩
    simp [Response.npc?]
  | heard hrequest' hstream hchunks hpassed hlast =>
    rw [hrequest'] at hrequest
    rcases hrequest with ⟨⟨⟩⟩ | ⟨⟨⟩⟩
    intro x hx
    rcases List.mem_append.1 hx with hx | hx
    · exact (Passes.npc? hpassed x hx).1
    · exact hlast.npc? x hx
  | late hrequest' hstream hlimited hchunks hsaid hpassed =>
    rw [hrequest'] at hrequest
    rcases hrequest with ⟨⟨⟩⟩ | ⟨⟨⟩⟩
    intro x hx
    rcases List.mem_append.1 hx with hx | hx
    · exact (Passes.npc? hpassed x hx).1
    · rw [List.mem_singleton.1 hx]
      rfl
  | revealed hrequest' | saved hrequest' | notSaved hrequest' | shutdown hrequest' =>
    rw [hrequest'] at hrequest
    rcases hrequest with ⟨⟨⟩⟩ | ⟨⟨⟩⟩

end Desk

end Inquest
