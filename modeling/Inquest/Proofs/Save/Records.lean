import Inquest.Proofs.Json.Reading
import Inquest.Proofs.Timestamp
import Inquest.Proofs.Town.Sound
import Inquest.Save.File

/-! # A save is read as it is written

The records of a save are written one inside the other, and each is decoded with the levels of
nesting that it takes.

* `Legible`: the doubles and times of a save lose nothing in their written form.
* `Sorted`: arguments are sorted by name, each name once.
* `ofText_text`: the text of such a save is read as that save.
-/

namespace Inquest

open Json

/-! ## Arguments -/

/-- A double must be one that reads back. -/
def Scalar.Legible : Scalar → Prop
  | .number x => ReadsBack x
  | _ => True

instance : (v : Scalar) → Decidable v.Legible
  | .number x => inferInstanceAs (Decidable (ReadsBack x))
  | .null => .isTrue trivial
  | .bool _ => .isTrue trivial
  | .text _ => .isTrue trivial

theorem Scalar.readable {v : Scalar} (h : v.Legible) : Readable v.toJson := by
  cases v with
  | null => trivial
  | bool b => trivial
  | number x => exact h
  | text s => trivial

/-- No scalar is taken for one of another kind. -/
theorem Scalar.decoded (room : Nat) (v : Scalar) : Decoded Scalar.decode room v.toJson v := by
  cases v <;> rfl

namespace Parameters

theorem decodeFields_written (room : Nat) {p read : Parameters} (h : Sorted (read ++ p)) :
    decodeFields room read (toDocFields (p.map fun (n, v) => (n, v.toJson))) = .ok (read ++ p) := by
  induction p generalizing read with
  | nil => rw [List.map_nil, toDocFields, decodeFields, List.append_nil]
  | cons f p ih =>
    obtain ⟨n, v⟩ := f
    have hlast : ∀ m ∈ read.map Prod.fst, m < n := by
      rw [Sorted, List.map_append, List.pairwise_append] at h
      exact fun m hm => h.2.2 m hm n List.mem_cons_self
    have hsplit : read ++ (n, v) :: p = (read ++ [(n, v)]) ++ p := by
      rw [List.append_assoc, List.singleton_append]
    rw [List.map_cons, toDocFields, decodeFields, (Scalar.decoded room v).eq]
    show decodeFields room (insert n v read) _ = _
    rw [insert_last v hlast, hsplit]
    exact ih (hsplit ▸ h)

theorem decoded (room : Nat) {p : Parameters} (h : p.Sorted) :
    Decoded Parameters.decode (room + 1) p.toJson p := by
  have hfields : decodeFields room [] (toDocFields (p.map fun (n, v) => (n, v.toJson))) = .ok p :=
    decodeFields_written room (p := p) h
  show Parameters.decode (room + 1) (.obj (toDocFields (p.map fun (n, v) => (n, v.toJson))) none) =
    .ok p
  rw [Parameters.decode, if_neg (Nat.succ_ne_zero room), Nat.add_sub_cancel]
  show (do
    let p ← decodeFields room [] _
    stopped none
    return p) = _
  rw [hfields]
  rfl

theorem readable {p : Parameters} (h : ∀ f ∈ p, f.2.Legible) : Readable p.toJson := by
  show ReadableFields (p.map fun (n, v) => (n, v.toJson))
  induction p with
  | nil => trivial
  | cons f p ih =>
    exact ⟨Scalar.readable (h f List.mem_cons_self), ih fun g hg => h g (List.mem_cons_of_mem _ hg)⟩

end Parameters

/-! ## What was done and said -/

/-- The doubles read back and the time is one of four-digit years. -/
structure Invocation.Legible (i : Invocation) : Prop where
  parameters : ∀ f ∈ i.parameters, f.2.Legible
  timestamp : i.timestamp.Proper

instance (i : Invocation) : Decidable i.Legible :=
  decidable_of_iff ((∀ f ∈ i.parameters, f.2.Legible) ∧ i.timestamp.Proper)
    ⟨fun ⟨h1, h2⟩ => ⟨h1, h2⟩, fun ⟨h1, h2⟩ => ⟨h1, h2⟩⟩

theorem Invocation.decoded (room : Nat) {i : Invocation} (hsorted : i.parameters.Sorted)
    (h : i.Legible) : Decoded Invocation.decode (room + 2) i.toJson i := by
  have hparameters : Decoded Parameters.decode (room + 1) i.parameters.toJson i.parameters :=
    Parameters.decoded room hsorted
  have herror : Decoded (nullable text) (room + 1) (Json.optional .str i.error) i.error :=
    decoded_nullable nofun fun s _ => decoded_text _ s
  have htime : Decoded Timestamp.decode (room + 1) i.timestamp.toJson i.timestamp :=
    Timestamp.decoded h.timestamp (room + 1)
  show Invocation.decode (room + 2) (toDoc i.toJson) = .ok i
  rw [Invocation.decode, Invocation.toJson, fieldsOf_written]
  · rw [ok_bind, (decoded_text _ i.name).get rfl, ok_bind, hparameters.get rfl, ok_bind,
      (decoded_text _ i.output).get rfl, ok_bind, (decoded_truth _ i.success).get rfl, ok_bind,
      herror.getD rfl, ok_bind, htime.get rfl]
    rfl
  · exact ⟨rfl, (decoded_text ..).check .., rfl, hparameters.check .., rfl,
      (decoded_text ..).check .., rfl, (decoded_truth ..).check .., rfl, herror.check .., rfl,
      htime.check .., trivial⟩
  · simp

theorem Invocation.readable {i : Invocation} (h : i.Legible) : Readable i.toJson := by
  have herror : Readable (Json.optional .str i.error) := by
    cases i.error <;> trivial
  exact ⟨trivial, Parameters.readable h.parameters, trivial, trivial, herror, trivial, trivial⟩

/-- The times are of four-digit years, and the doubles read back. -/
structure Turn.Legible (t : Turn) : Prop where
  timestamp : t.timestamp.Proper
  activity : ∀ i ∈ t.activity, i.Legible

instance (t : Turn) : Decidable t.Legible :=
  decidable_of_iff (t.timestamp.Proper ∧ ∀ i ∈ t.activity, i.Legible)
    ⟨fun ⟨h1, h2⟩ => ⟨h1, h2⟩, fun ⟨h1, h2⟩ => ⟨h1, h2⟩⟩

theorem Turn.decoded (room : Nat) {t : Turn} (hsorted : t.Sorted) (h : t.Legible) :
    Decoded Turn.decode (room + 3) t.toJson t := by
  have htime : Decoded Timestamp.decode (room + 2) t.timestamp.toJson t.timestamp :=
    Timestamp.decoded h.timestamp (room + 2)
  have hactivity : Decoded (nullable Invocation.decode) (room + 2)
      (Json.optional Invocation.toJson t.activity) t.activity :=
    decoded_nullable nofun fun i hi => Invocation.decoded room (hsorted i hi) (h.activity i hi)
  show Turn.decode (room + 3) (toDoc t.toJson) = .ok t
  rw [Turn.decode, Turn.toJson, fieldsOf_written]
  · rw [ok_bind, htime.get rfl, ok_bind, (decoded_text _ t.sender).get rfl, ok_bind,
      (decoded_text _ t.recipient).get rfl, ok_bind, (decoded_text _ t.message).get rfl, ok_bind,
      hactivity.getD rfl]
    rfl
  · exact ⟨rfl, htime.check .., rfl, (decoded_text ..).check .., rfl,
      (decoded_text ..).check .., rfl,
      (decoded_text ..).check .., rfl, hactivity.check .., trivial⟩
  · simp

theorem Turn.readable {t : Turn} (h : t.Legible) : Readable t.toJson := by
  have hactivity : Readable (Json.optional Invocation.toJson t.activity) := by
    cases ht : t.activity with
    | none => trivial
    | some i => exact Invocation.readable (h.activity i ht)
  exact ⟨trivial, trivial, trivial, trivial, hactivity, trivial⟩

namespace Transcript

/-- All its times and doubles lose nothing. -/
def Legible (t : Transcript) : Prop := ∀ turn ∈ t, turn.Legible

instance (t : Transcript) : Decidable t.Legible :=
  inferInstanceAs (Decidable (∀ turn ∈ t, turn.Legible))

theorem decoded (room : Nat) {t : Transcript} (hsorted : t.Sorted) (h : t.Legible) :
    Decoded Transcript.decode (room + 4) t.toJson t :=
  decoded_listOf fun turn hturn => Turn.decoded room (hsorted turn hturn) (h turn hturn)

theorem readable {t : Transcript} (h : t.Legible) : Readable t.toJson :=
  readable_arr fun turn hturn => Turn.readable (h turn hturn)

end Transcript

/-! ## The town -/

theorem Profile.decoded (room : Nat) (p : Profile) :
    Decoded Profile.decode (room + 1) p.toJson p := by
  show Profile.decode (room + 1) (toDoc p.toJson) = .ok p
  rw [Profile.decode, Profile.toJson, fieldsOf_written]
  · rfl
  · exact ⟨rfl, (decoded_text ..).check .., rfl, (decoded_text ..).check .., rfl,
      (decoded_text ..).check .., rfl, (decoded_truth ..).check .., trivial⟩
  · simp

theorem SavedSuspect.decoded (room : Nat) {s : SavedSuspect} (hsorted : s.transcript.Sorted)
    (h : s.transcript.Legible) : Decoded SavedSuspect.decode (room + 5) s.toJson s := by
  have hprofile : Decoded Profile.decode (room + 4) s.profile.toJson s.profile :=
    Profile.decoded (room + 3) s.profile
  have htranscript : Decoded Transcript.decode (room + 4) s.transcript.toJson s.transcript :=
    Transcript.decoded room hsorted h
  show SavedSuspect.decode (room + 5) (toDoc s.toJson) = .ok s
  rw [SavedSuspect.decode, SavedSuspect.toJson, fieldsOf_written]
  · rw [ok_bind, hprofile.get rfl, ok_bind, (decoded_text _ s.instructions).get rfl, ok_bind,
      htranscript.get rfl]
    rfl
  · exact ⟨rfl, hprofile.check .., rfl, (decoded_text ..).check .., rfl, htranscript.check ..,
      trivial⟩
  · simp

theorem SavedSuspect.readable {s : SavedSuspect} (h : s.transcript.Legible) : Readable s.toJson :=
  ⟨⟨trivial, trivial, trivial, trivial, trivial⟩, trivial, Transcript.readable h, trivial⟩

namespace SavedTown

/-- The doubles and times of the save lose nothing in their written form. -/
structure Legible (s : SavedTown) : Prop where
  savedAt : s.savedAt.Proper
  transcripts : ∀ suspect ∈ s.suspects, suspect.transcript.Legible

instance (s : SavedTown) : Decidable s.Legible :=
  decidable_of_iff (s.savedAt.Proper ∧ ∀ suspect ∈ s.suspects, suspect.transcript.Legible)
    ⟨fun ⟨h1, h2⟩ => ⟨h1, h2⟩, fun ⟨h1, h2⟩ => ⟨h1, h2⟩⟩

/-- The arguments of all actions are sorted. -/
def Sorted (s : SavedTown) : Prop := ∀ suspect ∈ s.suspects, suspect.transcript.Sorted

theorem decoded (room : Nat) {s : SavedTown} (hversion : s.version < versionLimit)
    (hsorted : s.Sorted) (h : s.Legible) : Decoded SavedTown.decode (room + 7) s.toJson s := by
  have hnumber : Decoded (natBelow versionLimit) (room + 6) (.nat s.version) s.version :=
    decoded_natBelow (room + 6) hversion
  have htime : Decoded Timestamp.decode (room + 6) s.savedAt.toJson s.savedAt :=
    Timestamp.decoded h.savedAt (room + 6)
  have hsuspects : Decoded (listOf SavedSuspect.decode) (room + 6)
      (.arr (s.suspects.map SavedSuspect.toJson)) s.suspects :=
    decoded_listOf fun suspect hs =>
      SavedSuspect.decoded room (hsorted suspect hs) (h.transcripts suspect hs)
  show SavedTown.decode (room + 7) (toDoc s.toJson) = .ok s
  rw [SavedTown.decode, SavedTown.toJson, fieldsOf_written]
  · rw [ok_bind, hnumber.get rfl, ok_bind, htime.get rfl, ok_bind,
      (decoded_text _ s.detective).get rfl, ok_bind, (decoded_text _ s.culprit).get rfl, ok_bind,
      (decoded_text _ s.active).get rfl, ok_bind, hsuspects.get rfl]
    rfl
  · exact ⟨rfl, hnumber.check .., rfl, htime.check .., rfl, (decoded_text ..).check .., rfl,
      (decoded_text ..).check .., rfl, (decoded_text ..).check .., rfl, hsuspects.check .., trivial⟩
  · simp

theorem readable {s : SavedTown} (hversion : s.version < versionLimit) (h : s.Legible) :
    Readable s.toJson := by
  have hnumber : Readable (.nat s.version) := by
    rw [versionLimit] at hversion
    rw [Json.nat, Readable]
    omega
  have hsuspects : Readable (.arr (s.suspects.map SavedSuspect.toJson)) :=
    readable_arr fun suspect hs => SavedSuspect.readable (h.transcripts suspect hs)
  exact ⟨hnumber, trivial, trivial, trivial, trivial, hsuspects, trivial⟩

/-- **The text of a save is read as that save.** -/
theorem ofText_text {s : SavedTown} (hversion : s.version = currentVersion) (hsorted : s.Sorted)
    (h : s.Legible) : ofText s.text = .ok s := by
  have hlimit : s.version < versionLimit := by
    rw [hversion]
    decide
  have hdecoded : Decoded decode nestingLimit s.toJson s := decoded 120 hlimit hsorted h
  rw [ofText, text, decodeText_pretty decode (readable hlimit h), hdecoded.eq]
  exact if_pos hversion

end SavedTown

end Inquest
