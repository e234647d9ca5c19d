import Inquest.Proofs.Json.Records
import Inquest.Session.Basic

/-! # Items come back as they were sent

An item is written into a request as an object that holds more than is asked for on the way back:
its kind, and the annotations of a text. What is read from it is the item again.

* `decodePart_partJson`, `decodeMessage_toJson`, `decodeCall_toJson`: messages and calls.
* `items_come_back`: whatever was read from a response, and its place in a request that resends all.
-/

namespace Inquest

namespace Json

theorem depth_le_itemsDepth {j : Json} {items : List Json} (h : j ∈ items) :
    depth j ≤ itemsDepth items := by
  induction items with
  | nil => cases h
  | cons i items ih =>
    rw [itemsDepth]
    rcases List.mem_cons.1 h with rfl | h
    · exact Nat.le_max_left ..
    · exact Nat.le_trans (ih h) (Nat.le_max_right ..)

end Json

namespace Item

open Json

/-- A part needs no more room than it takes up. -/
theorem decodePart_partJson {room : Nat} (p : Part) (h : depth (partJson p) ≤ room) :
    decodePart room (toDoc (partJson p)) = .ok (some p) := by
  obtain ⟨more, rfl⟩ := Nat.exists_eq_add_of_le' h
  cases p with
  | _ => rfl

theorem decodeItems_parts {room : Nat} {parts : List Part}
    (h : ∀ p ∈ parts, depth (partJson p) ≤ room) :
    decodeItems (decodePart room) (toDocs (parts.map partJson)) = .ok (parts.map some) := by
  induction parts with
  | nil => rfl
  | cons p parts ih =>
    rw [List.map_cons, toDocs, decodeItems, decodePart_partJson p (h p List.mem_cons_self),
      ih fun q hq => h q (List.mem_cons_of_mem _ hq)]
    rfl

/-- The fields of a message. -/
def messageSchema : List Field :=
  [defaulted "id" (nullable text), required "role" text, defaulted "content" (listOf decodePart)]

theorem decodeMessage_toJson (id : Option String) (speaker : Speaker) (parts : List Part) :
    decodeValue decodeMessage (toJson (.message id speaker parts)) =
      .ok (.message id speaker parts) := by
  let room := itemsDepth (parts.map partJson)
  have hdepth : depth (toJson (.message id speaker parts)) = room + 2 := by
    cases id <;> simp [toJson, idField, depth, fieldsDepth, room]
  have hroom : ∀ p ∈ parts, depth (partJson p) ≤ room := fun p hp =>
    depth_le_itemsDepth (List.mem_map_of_mem hp)
  have hcontent : Decoded (listOf decodePart) (room + 1) (.arr (parts.map partJson))
      (parts.map some) := by
    show listOf decodePart (room + 1) (.arr (toDocs (parts.map partJson)) none) = _
    rw [listOf, Nat.add_sub_cancel, decodeItems_parts hroom]
    rfl
  have hspeaker : Decoded text (room + 1) (.str speaker.word) speaker.word := decoded_text ..
  obtain ⟨found, hfound, hid, hrole, hparts⟩ : ∃ found,
      fieldsOf messageSchema (room + 2) (toDoc (toJson (.message id speaker parts))) = .ok found ∧
      found.getD (room + 2) "id" (nullable text) none = .ok id ∧
      found.lookup "role" = some (toDoc (.str speaker.word)) ∧
      found.lookup "content" = some (toDoc (.arr (parts.map partJson))) := by
    -- the kind is the one field that the schema does not know
    cases id with
    | none =>
      refine ⟨_, fieldsOf_among ?_ (by simp [idField]), rfl, rfl, rfl⟩
      refine List.forall_mem_cons.2 ⟨hcontent.check .., ?_⟩
      exact List.forall_mem_cons.2 ⟨hspeaker.check .., List.forall_mem_singleton.2 trivial⟩
    | some i =>
      refine ⟨_, fieldsOf_among ?_ (by simp [idField]), rfl, rfl, rfl⟩
      refine List.forall_mem_cons.2 ⟨hcontent.check .., List.forall_mem_cons.2 ⟨rfl, ?_⟩⟩
      exact List.forall_mem_cons.2 ⟨hspeaker.check .., List.forall_mem_singleton.2 trivial⟩
  rw [messageSchema] at hfound
  rw [decodeValue, hdepth, decodeMessage, hfound, ok_bind, hid, ok_bind, hspeaker.get hrole,
    ok_bind, hcontent.getD hparts, ok_bind, Speaker.ofWord_word, List.filterMap_map]
  exact congrArg (fun parts => Except.ok (Item.message id speaker parts)) List.filterMap_some

theorem decodeCall_toJson (c : Call) :
    decodeValue decodeCall (toJson (.call c)) = .ok (.call c) := by
  obtain ⟨_ | id, callId, name, arguments⟩ := c
  · rfl
  · rfl

theorem ofJson?_toJson_message (id : Option String) (speaker : Speaker) (parts : List Part) :
    ofJson? (toJson (.message id speaker parts)) = some (.message id speaker parts) := by
  have hkind : (toJson (.message id speaker parts)).textAt? "type" = some "message" := by
    cases id <;> rfl
  rw [ofJson?, hkind]
  simp only [decodeMessage_toJson]
  rfl

theorem ofJson?_toJson_call (c : Call) : ofJson? (toJson (.call c)) = some (.call c) := by
  have hkind : (toJson (.call c)).textAt? "type" = some "function_call" := by
    obtain ⟨_ | _, _, _, _⟩ := c <;> rfl
  rw [ofJson?, hkind]
  simp only [decodeCall_toJson]
  rfl

theorem message_of_decodeMessage {room : Nat} {d : Doc} {i : Item}
    (h : decodeMessage room d = .ok i) : ∃ id speaker parts, i = .message id speaker parts := by
  simp only [decodeMessage, bind_eq_ok] at h
  obtain ⟨_, -, id, -, role, -, parts, -, h⟩ := h
  cases h
  exact ⟨_, _, _, rfl⟩

theorem call_of_decodeCall {room : Nat} {d : Doc} {i : Item} (h : decodeCall room d = .ok i) :
    ∃ c, i = .call c := by
  simp only [decodeCall, bind_eq_ok] at h
  obtain ⟨_, -, id, -, callId, -, name, -, arguments, -, h⟩ := h
  cases h
  exact ⟨_, rfl⟩

/-- What can be read from a value. Of reasoning nothing is lost. -/
theorem ofJson?_cases {v : Json} {i : Item} (h : ofJson? v = some i) :
    (∃ id speaker parts, i = .message id speaker parts) ∨ (∃ c, i = .call c) ∨
      ∃ id, i = .reasoning id v := by
  have ok_of_toOption {x : Except Fault Item} (hx : x.toOption = some i) : x = .ok i := by
    cases x with
    | error f => cases hx
    | ok j => exact congrArg _ (Option.some.inj hx)
  unfold ofJson? at h
  split at h
  · exact .inl (message_of_decodeMessage (ok_of_toOption h))
  · exact .inr (.inl (call_of_decodeCall (ok_of_toOption h)))
  · obtain ⟨id, -, rfl⟩ := Option.map_eq_some_iff.1 h
    exact .inr (.inr ⟨id, rfl⟩)
  · cases h

/-- What was read is read again from what is written of it. -/
theorem ofJson?_toJson {v : Json} {i : Item} (h : ofJson? v = some i) :
    ofJson? i.toJson = some i := by
  rcases ofJson?_cases h with ⟨id, speaker, parts, rfl⟩ | ⟨c, rfl⟩ | ⟨id, rfl⟩
  · exact ofJson?_toJson_message id speaker parts
  · exact ofJson?_toJson_call c
  · exact h

/-- A request that resends all holds every item of the history in its place. -/
theorem itemsAt_input_body {s : Session} (h : s.settings.context = .fullTranscript)
    (defaultModel : String) (stream : Bool) :
    (s.request.body defaultModel stream).itemsAt "input" = s.history.map toJson := by
  have hinput : s.request.input = s.history := by
    rw [Session.request, h]
  rw [← hinput]
  rfl

/-- **Items come back as they were sent.** Whatever item is read from a value is read again from
what is written of it, and reasoning is written as it came; so is every message and every call, also
one that no value was read as. In a request that resends the whole history an item that the model
put out stands in its place, and is read as that item there. -/
theorem items_come_back :
    (∀ v i, ofJson? v = some i →
      ofJson? i.toJson = some i ∧ ∀ id raw, i = .reasoning id raw → i.toJson = v) ∧
    (∀ id speaker parts,
      ofJson? (toJson (.message id speaker parts)) = some (.message id speaker parts)) ∧
    (∀ c, ofJson? (toJson (.call c)) = some (.call c)) ∧
    ∀ (s : Session) (defaultModel : String) (stream : Bool) (k : Nat) (v : Json) (i : Item),
      s.settings.context = .fullTranscript → s.history[k]? = some i → ofJson? v = some i →
      ∃ w, ((s.request.body defaultModel stream).itemsAt "input")[k]? = some w ∧
        ofJson? w = some i := by
  refine ⟨fun v i h => ⟨ofJson?_toJson h, ?_⟩, ofJson?_toJson_message, ofJson?_toJson_call, ?_⟩
  · rintro id raw rfl
    rcases ofJson?_cases h with ⟨_, _, _, hi⟩ | ⟨_, hi⟩ | ⟨_, hi⟩
    · cases hi
    · cases hi
    · cases hi
      rfl
  · intro s defaultModel stream k v i hcontext hk h
    refine ⟨i.toJson, ?_, ofJson?_toJson h⟩
    rw [itemsAt_input_body hcontext, List.getElem?_map, hk]
    rfl

end Item

end Inquest
