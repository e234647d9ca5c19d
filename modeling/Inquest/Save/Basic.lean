import Inquest.Town.Basic

/-! # Saved towns

A `SavedTown` holds what a town needs to go on later: every suspect's profile, instructions and
transcript, the culprit, and whom the detective was talking to. The requests to the model are not kept.

* `capture`: a town as it stands.
* `restore`: the town of a save; the sessions are new and go on from their transcripts.
-/

namespace Inquest

/-- A suspect in a save. -/
structure SavedSuspect where
  profile : Profile
  instructions : String
  transcript : Transcript
  deriving DecidableEq

/-- A saved town. -/
structure SavedTown where
  version : Nat
  savedAt : Timestamp
  detective : String
  culprit : String
  /-- The name of the one whom the detective was talking to. -/
  active : String
  suspects : List SavedSuspect
  deriving DecidableEq

namespace SavedSuspect

/-- A suspect as data. -/
def toJson (s : SavedSuspect) : Json :=
  .obj [("profile", s.profile.toJson), ("instructions", .str s.instructions),
    ("transcript", s.transcript.toJson)]

open Json in
/-- A suspect in data. -/
def decode : Json.Decoder SavedSuspect := fun room d => do
  let found ← fieldsOf [required "profile" Profile.decode, required "instructions" text,
    required "transcript" Transcript.decode] room d
  return {
    profile := ← found.get room "profile" Profile.decode
    instructions := ← found.get room "instructions" text
    transcript := ← found.get room "transcript" Transcript.decode }

/-- The suspect of a session. -/
def ofSession (s : Session) : SavedSuspect := ⟨s.profile, s.instructions, s.transcript⟩

/-- The session of a suspect, going on from the transcript. -/
def session (settings : Settings) (s : SavedSuspect) : Session :=
  (Session.new s.profile s.instructions settings).withTranscript s.transcript

end SavedSuspect

namespace SavedTown

/-- The version of the saves that are written. -/
def currentVersion : Nat := 1

/-- Version numbers go up to here. -/
def versionLimit : Nat := 0x1_0000_0000

/-- A saved town as data. -/
def toJson (s : SavedTown) : Json :=
  .obj [("version", .nat s.version), ("saved_at", s.savedAt.toJson),
    ("detective_name", .str s.detective), ("culprit", .str s.culprit), ("active", .str s.active),
    ("npcs", .arr (s.suspects.map SavedSuspect.toJson))]

open Json in
/-- A saved town in data. -/
def decode : Json.Decoder SavedTown := fun room d => do
  let found ← fieldsOf [required "version" (natBelow versionLimit),
    required "saved_at" Timestamp.decode, required "detective_name" text, required "culprit" text,
    required "active" text, required "npcs" (listOf SavedSuspect.decode)] room d
  return {
    version := ← found.get room "version" (natBelow versionLimit)
    savedAt := ← found.get room "saved_at" Timestamp.decode
    detective := ← found.get room "detective_name" text
    culprit := ← found.get room "culprit" text
    active := ← found.get room "active" text
    suspects := ← found.get room "npcs" (listOf SavedSuspect.decode) }

/-- A town as it stands. -/
def capture (now : Timestamp) (t : Town) : SavedTown where
  version := currentVersion
  savedAt := now
  detective := t.detective
  culprit := t.culpritName
  active := t.activeSession.name
  suspects := t.sessions.map SavedSuspect.ofSession

/-- The town of a save, without an inventory. The saved culprit must be the one that is marked. -/
def restore (settings : Settings) (s : SavedTown) : Except TownError Town :=
  match Town.ofSessions (s.suspects.map (SavedSuspect.session settings)) with
  | .error e => .error e
  | .ok t =>
    let t := { t with detective := s.detective }
    if t.culpritName = s.culprit then t.switchTo s.active
    else .error (.culpritMismatch s.culprit t.culpritName)

end SavedTown

end Inquest
