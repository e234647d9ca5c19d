import Inquest.Text.Blank
import Inquest.Json.Decode

/-! # Points in time

A `Timestamp` is a civil date and time in UTC. It is written and read in the form of RFC 3339; reading
also takes the usual liberties: blanks before a part, a blank for the `T`, parts of one digit, years
with a sign. A time with an offset is moved to UTC, over at most one midnight.

* `shift`: a time and its offset from UTC, moved by whole minutes.
* `shift_zero`: a time in UTC stays as it is.
-/

namespace Inquest

open Text

/-- A date of the Gregorian calendar, extended to all years. -/
structure Date where
  year : Int
  month : Nat
  day : Nat
  deriving Repr, DecidableEq

/-- Whether February has 29 days. -/
def isLeapYear (year : Int) : Bool :=
  year % 4 == 0 && (year % 100 != 0 || year % 400 == 0)

/-- The number of days of a month. -/
def daysInMonth (year : Int) (month : Nat) : Nat :=
  match month with
  | 2 => if isLeapYear year then 29 else 28
  | 4 | 6 | 9 | 11 => 30
  | _ => 31

namespace Date

/-- Whether the calendar has the date. -/
def Valid (d : Date) : Prop :=
  1 ≤ d.month ∧ d.month ≤ 12 ∧ 1 ≤ d.day ∧ d.day ≤ daysInMonth d.year d.month

instance (d : Date) : Decidable d.Valid := inferInstanceAs (Decidable (_ ∧ _ ∧ _ ∧ _))

/-- The day after. -/
def next (d : Date) : Date :=
  if d.day < daysInMonth d.year d.month then { d with day := d.day + 1 }
  else if d.month < 12 then { d with month := d.month + 1, day := 1 }
  else ⟨d.year + 1, 1, 1⟩

/-- The day before. -/
def previous (d : Date) : Date :=
  if 1 < d.day then { d with day := d.day - 1 }
  else if 1 < d.month then ⟨d.year, d.month - 1, daysInMonth d.year (d.month - 1)⟩
  else ⟨d.year - 1, 12, 31⟩

end Date

/-- A point in time, in UTC. A second of 60 is a leap second. -/
structure Timestamp where
  date : Date
  hour : Nat
  minute : Nat
  second : Nat
  nanos : Nat
  deriving Repr, DecidableEq

instance : Inhabited Timestamp := ⟨⟨⟨1970, 1, 1⟩, 0, 0, 0, 0⟩⟩

namespace Timestamp

/-! ## Writing -/

/-- A number with at least `width` digits. -/
def padded (width n : Nat) : List Char :=
  let digits := Nat.toDigits 10 n
  List.replicate (width - digits.length) '0' ++ digits

/-- A year: four digits, or a sign and at least four. -/
def yearText (year : Int) : List Char :=
  if 0 ≤ year ∧ year ≤ 9999 then padded 4 year.toNat
  else (if year < 0 then '-' else '+') :: padded 4 year.natAbs

/-- Year, month and day. -/
def dateText (d : Date) : List Char :=
  yearText d.year ++ '-' :: padded 2 d.month ++ '-' :: padded 2 d.day

/-- Hour, minute and second. -/
def clockText (t : Timestamp) : List Char :=
  padded 2 t.hour ++ ':' :: padded 2 t.minute ++ ':' :: padded 2 t.second

/-- The fraction of the second in 0, 3, 6 or 9 digits, the fewest that lose nothing. -/
def fractionText (nanos : Nat) : List Char :=
  if nanos = 0 then []
  else if nanos % 1000000 = 0 then '.' :: padded 3 (nanos / 1000000)
  else if nanos % 1000 = 0 then '.' :: padded 6 (nanos / 1000)
  else '.' :: padded 9 nanos

/-- The form of RFC 3339. -/
def rfc3339 (t : Timestamp) : String :=
  String.ofList (dateText t.date ++ 'T' :: t.clockText ++ fractionText t.nanos ++ ['Z'])

/-- Date and time to the second, a blank between them. -/
def display (t : Timestamp) : String :=
  String.ofList (dateText t.date ++ ' ' :: t.clockText)

/-- Date and time in digits, for a file name. -/
def fileText (t : Timestamp) : String :=
  String.ofList (yearText t.date.year ++ padded 2 t.date.month ++ padded 2 t.date.day ++
    '_' :: padded 2 t.hour ++ padded 2 t.minute ++ padded 2 t.second)

/-! ## Reading -/

/-- A number of one to `width` digits, and the text after it. -/
def digitsUpTo : (width : Nat) → (value : Nat) → (some : Bool) → List Char → Option (Nat × List Char)
  | 0, value, _, s => some (value, s)
  | _ + 1, value, any, [] => if any then some (value, []) else none
  | width + 1, value, any, c :: s =>
    match Json.digitValue? c with
    | some d => digitsUpTo width (value * 10 + d) true s
    | none => if any then some (value, c :: s) else none

/-- A number of one to `width` digits after blanks. -/
def number? (width : Nat) (s : List Char) : Option (Nat × List Char) :=
  digitsUpTo width 0 false (trimStartChars s)

/-- A year, whose sign lets it have any number of digits. -/
def year? (s : List Char) : Option (Int × List Char) :=
  match trimStartChars s with
  | '-' :: rest => (digitsUpTo rest.length 0 false rest).map fun (n, r) => (-(n : Int), r)
  | '+' :: rest => (digitsUpTo rest.length 0 false rest).map fun (n, r) => ((n : Int), r)
  | s => (digitsUpTo 4 0 false s).map fun (n, r) => ((n : Int), r)

/-- The text after a mark, which blanks may precede. -/
def mark? (c : Char) (s : List Char) : Option (List Char) :=
  match trimStartChars s with
  | d :: rest => if d = c then some rest else none
  | [] => none

/-- The fraction of a second in billionths, if one stands here; digits past the ninth are dropped. -/
def fraction? (s : List Char) : Option (Nat × List Char) :=
  match s with
  | '.' :: rest => do
    let (n, after) ← digitsUpTo 9 0 false rest
    let taken := rest.length - after.length
    return (n * Nat.pow 10 (9 - taken), after.dropWhile fun c => (Json.digitValue? c).isSome)
  | _ => some (0, s)

/-- Two digits. -/
def pair? : List Char → Option (Nat × List Char)
  | a :: b :: rest => do return ((← Json.digitValue? a) * 10 + (← Json.digitValue? b), rest)
  | _ => none

/-- The offset from UTC in minutes: `Z`, `UTC`, or a sign, hours and minutes. -/
def offset? (s : List Char) : Option (Int × List Char) :=
  match s with
  | 'Z' :: rest => some (0, rest)
  | 'z' :: rest => some (0, rest)
  | u :: t :: c :: rest =>
    if [u, t, c].map Char.toUpper = ['U', 'T', 'C'] then some (0, rest)
    else do
      let negative ← if u = '+' then some false
        else if u = '-' ∨ u.toNat = 0x2212 then some true else none
      let (hours, rest) ← pair? (t :: c :: rest)
      let (minutes, rest) ← pair? (rest.dropWhile fun c => c == ':' || isBlankChar c)
      if 60 ≤ minutes then none
      let total : Int := hours * 60 + minutes
      return (if negative then -total else total, rest)
  | _ => none

/-- The years that can be written down. -/
def yearInRange (year : Int) : Bool := decide (-262143 ≤ year) && decide (year ≤ 262142)

/-- A time with an offset of less than a day, in UTC. -/
def shift (t : Timestamp) (offset : Int) : Timestamp :=
  let total : Int := t.hour * 60 + t.minute - offset
  let (date, total) :=
    if total < 0 then (t.date.previous, total + 1440)
    else if 1440 ≤ total then (t.date.next, total - 1440)
    else (t.date, total)
  { t with date := date, hour := total.toNat / 60, minute := total.toNat % 60 }

/-- A time in UTC stays as it is. -/
theorem shift_zero {t : Timestamp} (hh : t.hour < 24) (hm : t.minute < 60) : t.shift 0 = t := by
  have h1 : ¬ ((t.hour : Int) * 60 + t.minute - 0 < 0) := by omega
  have h2 : ¬ (1440 ≤ (t.hour : Int) * 60 + t.minute - 0) := by omega
  have h3 : ((t.hour : Int) * 60 + t.minute - 0).toNat / 60 = t.hour := by omega
  have h4 : ((t.hour : Int) * 60 + t.minute - 0).toNat % 60 = t.minute := by omega
  simp only [shift, h1, h2, h3, h4, if_false]

/-- Reads the form of RFC 3339. -/
def parseChars (s : List Char) : Option Timestamp := do
  let (year, s) ← year? s
  let s ← mark? '-' s
  let (month, s) ← number? 2 s
  let s ← mark? '-' s
  let (day, s) ← number? 2 s
  let s ← match s with
    | 'T' :: rest => some rest
    | 't' :: rest => some rest
    | ' ' :: rest => some rest
    | _ => none
  let (hour, s) ← number? 2 s
  let s ← mark? ':' s
  let (minute, s) ← number? 2 s
  let s ← mark? ':' s
  let (second, s) ← number? 2 s
  let (nanos, s) ← fraction? s
  let (offset, s) ← offset? (trimStartChars s)
  let date : Date := ⟨year, month, day⟩
  if trimStartChars s ≠ [] ∨ ¬ date.Valid ∨ yearInRange year = false then none
  if 24 ≤ hour ∨ 60 ≤ minute ∨ 61 ≤ second ∨ 1440 ≤ offset.natAbs then none
  let t := shift ⟨date, hour, minute, second, nanos⟩ offset
  if yearInRange t.date.year then some t else none

/-- Reads the form of RFC 3339. -/
def parse? (s : String) : Option Timestamp := parseChars s.toList

/-- A timestamp in data. -/
def decode : Json.Decoder Timestamp := fun room d => do
  match parse? (← Json.text room d) with
  | some t => return t
  | none => throw .misfit

/-- A timestamp as data. -/
def toJson (t : Timestamp) : Json := .str t.rfc3339

end Timestamp

end Inquest
