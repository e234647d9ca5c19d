import Inquest.Client.Exchange
import Inquest.Proofs.Client.Lines
import Inquest.Proofs.Json.Rereading
import Inquest.Proofs.Text.Encoding

/-! # One body, whole or streamed

A service may answer a request with the body of a response, or announce the same body in an event of a
stream. The client makes the same of both: a response, a failure with its reason, or nothing that can be
understood.

* `status_ofJson`: the status of a response is that of its body.
* `Announced`: the events in which a body may be announced.
* `decode_announcement`: what such an event says.
* `stream_object`: a line with an object in it is one event.
* `alike_body`, `body_either_way`: what is made of a body and of its announcement, compared.
-/

namespace Inquest

/-! ## Responses -/

theorem Status.ofWord_eq_failed_iff {word : Option String} :
    Status.ofWord word = .failed ↔ word = some "failed" ∨ word = some "cancelled" := by
  cases word with
  | none => simp [Status.ofWord]
  | some s =>
    simp only [Status.ofWord, Option.some.injEq]
    split_ifs <;> grind

namespace Response

open Json in
/-- **The status of a response is that of its body**, if the body is an object. -/
theorem status_ofJson {fields : List (String × Json)} {r : Response}
    (h : Response.ofJson (.obj fields) = .ok r) :
    r.status = .ofWord ((Json.obj fields).textAt? "status") := by
  unfold Response.ofJson at h
  split at h
  · next found hdecoded =>
    cases h
    rw [decodeValue, toDoc] at hdecoded
    simp only [decode, bind_eq_ok] at hdecoded
    obtain ⟨found, hfound, _, -, _, -, word, hword, _, -, _, -, hr⟩ := hdecoded
    cases hr
    have hlookup : found.lookup "status" = (fields.lookup "status").map toDoc := by
      simp only [fieldsOf] at hfound
      split at hfound
      · cases hfound
      · simp only [bind_eq_ok] at hfound
        obtain ⟨out, hout, _, -, hfound⟩ := hfound
        cases hfound
        rw [lookup_findNamed hout rfl, lookup_toDocFields]
        rfl
    refine congrArg Status.ofWord ?_
    rw [Found.getD, hlookup] at hword
    show word = (fields.lookup "status").bind Json.text?
    cases hstatus : fields.lookup "status" with
    | none =>
      rw [hstatus] at hword
      cases hword
      rfl
    | some j =>
      rw [hstatus] at hword
      cases j <;> cases hword <;> rfl
  · cases h

theorem ofJson_error {raw : Json} {e : ApiError} (h : Response.ofJson raw = .error e) :
    e = .unreadable .response := by
  unfold Response.ofJson at h
  split at h
  · cases h
  · cases h
    rfl

end Response

namespace Client

open Json Text

/-! ## Announcements -/

/-- What a service streams to announce a body. -/
def announcement (kind : String) (body : Json) : Json :=
  .obj [("type", .str kind), ("response", body)]

/-- The line of a stream with an announcement. -/
def announcementLine (kind : String) (body : Json) : String :=
  "data: " ++ (announcement kind body).compact ++ "\n"

/-- The kinds of event in which a body is announced. A response that failed, and says why, is announced
as failed; a body that does not say that it failed is announced as completed or as incomplete, whether
or not it is a response. -/
inductive Announced : String → Json → Prop
  | failed {raw : Json} {r : Response} {reason : String} (hread : Response.ofJson raw = .ok r)
    (hstatus : raw.textAt? "status" = some "failed" ∨ raw.textAt? "status" = some "cancelled")
    (hreason : Response.failureReason? raw = some reason) : Announced "response.failed" raw
  | finished {kind : String} {raw : Json}
    (hkind : kind = "response.completed" ∨ kind = "response.incomplete")
    (hstatus : raw.textAt? "status" ≠ some "failed" ∧ raw.textAt? "status" ≠ some "cancelled") :
    Announced kind raw

section
variable {kind : String} {body raw : Json} {d : Doc} {room : Nat}

/-- The document of an announcement. -/
def announcementDoc (kind : String) (d : Doc) : Doc :=
  .obj [("type", .str kind), ("response", d)] none

theorem readAs_announcement (kind : String) (h : ReadAs (write body) d) :
    ReadAs (write (announcement kind body)) (announcementDoc kind d) := by
  have hkind : ReadAs (quote kind) (.str kind) := .scalar rfl rfl fun rest _ => tokens_quote kind rest
  exact (FieldsReadAs.cons hkind "type" (.single h "response")).object

/-- The body is read as generic data before its kind is known. -/
theorem tagged_announcement (kind : String) (d : Doc) (room : Nat) :
    tagged "type" (room + 1) (announcementDoc kind d) =
      (d.value room).map fun _ => (kind, .obj [("response", d)] none) := by
  have hne : "response" ≠ "type" := by decide
  simp only [tagged, announcementDoc, findTag, if_neg hne, Nat.add_sub_cancel]
  cases d.value room <;> rfl

/-- Once its kind is known, the body is read again. -/
theorem decodeOnly_announcement (d : Doc) (room : Nat) :
    Event.decodeOnly "response" anything (room + 1) (.obj [("response", d)] none) = d.value room := by
  have hfields : fieldsOf [required "response" anything] (room + 1) (.obj [("response", d)] none) =
      (d.value room).map fun _ => [("response", d)] := by
    show (do
      let found ← (do
        (d.value room).map fun _ => ()
        findNamed [required "response" anything] room [("response", d)] [])
      stopped none
      return found) = _
    cases d.value room <;> rfl
  rw [Event.decodeOnly, hfields]
  cases hd : d.value room with
  | error f => rfl
  | ok raw => exact hd

/-- What an announcement says. -/
theorem decode_announcement (hkind : Announced kind raw) (h : d.value room = .ok raw) :
    Event.decode (room + 1) (announcementDoc kind d) =
      .ok (if kind = "response.failed" then .failed raw else .completed raw) := by
  rw [Event.decode, tagged_announcement, h, Except.map, ok_bind]
  cases hkind with
  | failed =>
    simp only [decodeOnly_announcement, h]
    rfl
  | finished hkind =>
    rcases hkind with rfl | rfl
    · simp only [decodeOnly_announcement, h]
      rfl
    · simp only [decodeOnly_announcement, h]
      rfl

/-- An announcement of a body that cannot be read, whatever its kind. -/
theorem decode_announcement_error (kind : String) {f : Fault} (h : d.value room = .error f) :
    Event.decode (room + 1) (announcementDoc kind d) = .error f := by
  rw [Event.decode, tagged_announcement, h]
  rfl

end

/-! ## Lines -/

theorem lineFeed_not_mem_encode {s : String} (h : Printable s.toList) :
    lineFeed ∉ Utf8.encode s := by
  intro hmem
  obtain ⟨c, hc, hline⟩ := Utf8.mem_of_mem_encode (by decide) hmem
  have hlow := h c hc
  rw [hline] at hlow
  exact absurd hlow (by decide)

section
variable {text : String} {s : List Char} (htext : text.toList = '\x7b' :: (s ++ ['\x7d']))
include htext

/-- The data of a line that holds an object. -/
theorem lineData?_object : lineData? (Utf8.encode ("data: " ++ text)) = some text.toList := by
  have hline : ("data: " ++ text).toList = ("data:".toList ++ ' ' :: '\x7b' :: s) ++ ['\x7d'] := by
    rw [String.toList_append, htext]
    rfl
  have hend : ((("data:".toList ++ ' ' :: '\x7b' :: s) ++ ['\x7d']).reverse.dropWhile
      (· == '\r')).reverse = ("data:".toList ++ ' ' :: '\x7b' :: s) ++ ['\x7d'] := by
    rw [List.reverse_append, List.reverse_singleton, List.singleton_append,
      List.dropWhile_cons_of_neg (by decide), List.reverse_cons, List.reverse_reverse]
  rw [lineData?, Utf8.decodeLossy_encode, hline]
  simp only [hend]
  rw [List.append_assoc, stripPrefix?_append, htext]
  rfl

/-- **A stream of one line with an object in it** is one event. -/
theorem stream_object {pieces : List (List UInt8)} {e : Received} (hprintable : Printable text.toList)
    (hpieces : pieces.flatten = Utf8.encode ("data: " ++ text ++ "\n"))
    (he : Event.ofData text = some e) : stream (.answered 200 pieces false) = .ok [e] := by
  have hline : lineFeed ∉ Utf8.encode ("data: " ++ text) := by
    refine lineFeed_not_mem_encode ?_
    rw [String.toList_append]
    exact .append (by decide) hprintable
  have hevent : lineEvent (Utf8.encode ("data: " ++ text)) = .event e := by
    have hdata : text.toList ≠ [] ∧ text.toList ≠ "[DONE]".toList := by
      rw [htext]
      exact ⟨List.cons_ne_nil _ _, fun h => absurd (List.cons.inj h).1 (by decide)⟩
    rw [lineEvent, lineData?_object htext]
    simp only [hdata.1, hdata.2, or_self, if_false, String.ofList_toList, he]
  have hbytes : pieces.flatten = Utf8.encode ("data: " ++ text) ++ lineFeed :: [] := by
    rw [hpieces, Utf8.encode_append, Utf8.encode_eq_flatMap "\n"]
    rfl
  have hread := readLines_line hline []
  rw [hevent] at hread
  show Except.ok ((receiveAll [] pieces).1 ++ []) = .ok [e]
  rw [receiveAll_flatten, hbytes, hread]
  rfl

end

/-! ## Either way -/

/-- What is made of a whole body, and of the event that announces it. -/
inductive Alike : Except ApiError Response → Received → Prop
  | response (r : Response) : Alike (.ok r) (.ok (.completed r))
  | failure (reason : String) : Alike (.error (.failed reason)) (.ok (.error reason))
  | noResponse : Alike (.error (.unreadable .response)) (.error (.unreadable .response))
  | noData : Alike (.error (.unreadable .body)) (.error (.unreadable .line))

section
variable {kind : String} {fields : List (String × Json)} {whole pieces : List (List UInt8)}

/-- A body is read as the same object whether it stands alone or one level deeper. -/
theorem reads_body (hdepth : (Json.obj fields).depth ≤ 126) :
    ∃ d, ∃ o : Option (List (String × Json)), ReadAs (write (.obj fields)) d ∧
      d.value 126 = orMalformed (o.map Json.obj) ∧
      parse (Json.obj fields).compact = orMalformed (o.map Json.obj) := by
  obtain ⟨ds, hread, hsettled⟩ := reads_object fields
  obtain ⟨o, ho⟩ := hsettled.value
  have hroom : fieldsDepth fields + 1 ≤ 126 := hdepth
  refine ⟨_, o, hread, ho 126 hroom, ?_⟩
  rw [parse, compact, hread.decodeText]
  exact ho 127 (Nat.le_succ_of_le hroom)

theorem create_encode {text : String} (hwhole : whole.flatten = Utf8.encode text) :
    create (.answered 200 whole false) = responseOfBody (Utf8.encode text) := by
  rw [← hwhole]
  rfl

theorem responseOfBody_error {text : String} {f : Fault} (h : parse text = .error f) :
    responseOfBody (Utf8.encode text) = .error (.unreadable .body) := by
  rw [responseOfBody, Utf8.decode?_encode, Option.map_some, String.ofList_toList, h]

theorem responseOfBody_ok {text : String} {raw : Json} (h : parse text = .ok raw) :
    responseOfBody (Utf8.encode text) = (do
      let r ← Response.ofJson raw
      if r.status = .failed then
        throw (.failed ((Response.failureReason? raw).getD "unknown failure"))
      return r) := by
  rw [responseOfBody, Utf8.decode?_encode, Option.map_some, String.ofList_toList, h]

/-- What an announced object is made of, alone and in its event. -/
theorem alike_announced {text : String} (hparse : parse text = .ok (.obj fields))
    (hkind : Announced kind (.obj fields)) :
    Alike (responseOfBody (Utf8.encode text))
      (Event.ofNotice (if kind = "response.failed" then .failed (.obj fields)
        else .completed (.obj fields))) := by
  rw [responseOfBody_ok hparse]
  cases hkind with
  | failed hread hstatus hreason =>
    rw [hread, ok_bind, if_pos ((Response.status_ofJson hread).trans
      (Status.ofWord_eq_failed_iff.2 hstatus)), hreason, if_pos rfl, Event.ofNotice, hreason]
    exact .failure _
  | finished hkind hstatus =>
    have hnotice : kind ≠ "response.failed" := by
      rcases hkind with rfl | rfl <;> decide
    rw [if_neg hnotice, Event.ofNotice]
    cases hread : Response.ofJson (.obj fields) with
    | error e =>
      rw [Response.ofJson_error hread]
      exact .noResponse
    | ok r =>
      have hnot : r.status ≠ .failed := by
        rw [Response.status_ofJson hread]
        exact fun h => (Status.ofWord_eq_failed_iff.1 h).elim hstatus.1 hstatus.2
      rw [ok_bind, if_neg hnot]
      exact .response r

/-- A body is told alike whole and announced, be it a response or not. -/
theorem alike_body (hdepth : (Json.obj fields).depth ≤ 126)
    (hkind : ∀ raw, parse (Json.obj fields).compact = .ok raw → Announced kind raw)
    (hwhole : whole.flatten = Utf8.encode (Json.obj fields).compact)
    (hpieces : pieces.flatten = Utf8.encode (announcementLine kind (.obj fields))) :
    ∃ first, stream (.answered 200 pieces false) = .ok [first] ∧
      Alike (create (.answered 200 whole false)) first := by
  obtain ⟨d, o, hread, hvalue, hparse⟩ := reads_body hdepth
  have hline := (readAs_announcement kind hread).decodeText Event.decode
  have hprintable : Printable (announcement kind (.obj fields)).compact.toList := by
    rw [compact, String.toList_ofList]
    exact printable_write _
  have hevent : ∀ first, Event.ofData (announcement kind (.obj fields)).compact = some first →
      stream (.answered 200 pieces false) = .ok [first] :=
    fun first => stream_object String.toList_ofList hprintable hpieces
  rw [create_encode hwhole]
  cases o with
  | none =>
    have hdata := hline.trans (decode_announcement_error kind hvalue)
    refine ⟨_, hevent _ (by rw [Event.ofData, compact, hdata]), ?_⟩
    rw [responseOfBody_error hparse]
    exact .noData
  | some members =>
    have hannounced := hkind _ hparse
    have hdata := hline.trans (decode_announcement hannounced hvalue)
    exact ⟨_, hevent _ (by rw [Event.ofData, compact, hdata]), alike_announced hparse hannounced⟩

/-- **A body is told alike whole and streamed.** Of any object that is nested at most 126 levels deep,
let the service send the compact text as a body, or on one line in the event that announces it, cut into
whatever chunks. The stream has one element. The body is a response just if that element is an event with
the same response, it is a failure just if that element is an error with the same reason, and the body
cannot be understood just if the line cannot. -/
theorem body_either_way (hdepth : (Json.obj fields).depth ≤ 126)
    (hkind : ∀ raw, parse (Json.obj fields).compact = .ok raw → Announced kind raw)
    (hwhole : whole.flatten = Utf8.encode (Json.obj fields).compact)
    (hpieces : pieces.flatten = Utf8.encode (announcementLine kind (.obj fields))) :
    ∃ first, stream (.answered 200 pieces false) = .ok [first] ∧
      (∀ r, create (.answered 200 whole false) = .ok r ↔ first = .ok (.completed r)) ∧
      (∀ reason, create (.answered 200 whole false) = .error (.failed reason) ↔
        first = .ok (.error reason)) ∧
      (create (.answered 200 whole false) = .error (.unreadable .response) ↔
        first = .error (.unreadable .response)) ∧
      ((∃ site, create (.answered 200 whole false) = .error (.unreadable site)) ↔
        ∃ site, first = .error (.unreadable site)) := by
  obtain ⟨first, hstream, halike⟩ := alike_body hdepth hkind hwhole hpieces
  refine ⟨first, hstream, ?_⟩
  generalize create (.answered 200 whole false) = answer at halike
  cases halike <;> simp [eq_comm]

end

/-- A body in order, whose numbers are read as they are written, is announced as what it is. -/
theorem announced_of_fits {kind : String} {body : Json} (h : Fits InRange nestingLimit body)
    (hback : ∀ x, .double x ∈ numbers body → ReadsBack x) (hkind : Announced kind body) :
    ∀ raw, parse body.compact = .ok raw → Announced kind raw := by
  intro raw hraw
  rw [parse_compact h hback] at hraw
  cases hraw
  exact hkind

/-- A response that failed, and says why. -/
def busyFields : List (String × Json) :=
  [("error", .obj [("message", .str "busy")]), ("id", .str "r1"), ("status", .str "failed")]

theorem fits_busy : Fits InRange nestingLimit (.obj busyFields) where
  normal := ⟨by decide, by decide, ⟨by decide, by decide, trivial, trivial⟩, trivial, trivial, trivial⟩
  numbers := List.forall_mem_nil _

/-- It is told as a failure with its reason, whole and streamed. -/
theorem body_either_way_busy :
    create (.answered 200 [Utf8.encode (Json.obj busyFields).compact] false) =
        .error (.failed "busy") ∧
      stream (.answered 200
          [Utf8.encode (announcementLine "response.failed" (.obj busyFields))] false) =
        .ok [.ok (.error "busy")] := by
  have hparse := parse_compact fits_busy nofun
  have hkind : Announced "response.failed" (.obj busyFields) := .failed rfl (.inl rfl) rfl
  have hcreate : create (.answered 200 [Utf8.encode (Json.obj busyFields).compact] false) =
      .error (.failed "busy") := by
    rw [create_encode List.flatten_singleton, responseOfBody_ok hparse]
    rfl
  obtain ⟨first, hstream, -, hfailed, -⟩ := body_either_way (by decide)
    (announced_of_fits fits_busy nofun hkind) (List.flatten_singleton) (List.flatten_singleton)
  rw [hstream, (hfailed "busy").1 hcreate]
  exact ⟨hcreate, rfl⟩

end Client

end Inquest
