import Inquest.Decimal.Reading
import Inquest.Json.Basic

/-! # Tokens of a JSON text

`tokens` cuts a text into the tokens of RFC 8259. A token that is broken tells two things: what
reading it as a value reports, and what passing over it reports, for a value that nobody asks for is
held to less. A number out of range and a lone surrogate are broken only to a reader.
-/

namespace Inquest.Json

open Decimal

/-- Why a text is refused. -/
inductive Fault
  /-- The text ended before the value was complete. -/
  | ended
  /-- The text is not JSON. -/
  | malformed
  /-- The text is JSON of another shape than the one asked for. -/
  | misfit
  deriving Repr, DecidableEq

/-- A token of JSON. -/
inductive Token
  | openArray
  | closeArray
  | openObject
  | closeObject
  | comma
  | colon
  | null
  | bool (b : Bool)
  | num (n : Number)
  | text (s : String)
  /-- A text in quotes that cannot be read; `skip` is `none` if it can be passed over. -/
  | brokenText (read : Fault) (skip : Option Fault)
  /-- Anything else that cannot be read. -/
  | broken (read : Fault) (skip : Option Fault)

/-! ## Texts in quotes -/

/-- A character of a quoted text, or a code unit given by its number. -/
inductive Piece
  | char (c : Char)
  | unit (n : Nat)
  deriving Repr, DecidableEq

/-- The value of a hexadecimal digit. -/
def hexValue? (c : Char) : Option Nat :=
  if '0' ≤ c ∧ c ≤ '9' then some (c.toNat - 48)
  else if 'a' ≤ c ∧ c ≤ 'f' then some (c.toNat - 87)
  else if 'A' ≤ c ∧ c ≤ 'F' then some (c.toNat - 55)
  else none

/-- The number written by four hexadecimal digits. -/
def hexUnit? (a b c d : Char) : Option Nat := do
  return (((← hexValue? a) * 16 + (← hexValue? b)) * 16 + (← hexValue? c)) * 16 + (← hexValue? d)

/-- The bytes that the characters take up. -/
def byteLength (s : List Char) : Nat := s.foldl (fun n c => n + c.utf8Size) 0

/-- The pieces up to the closing quote and the text after it, or the pieces before a fault. -/
def scanText : List Char → List Piece × Except Fault (List Char)
  | [] => ([], .error .ended)
  | '"' :: rest => ([], .ok rest)
  | '\\' :: '"' :: rest => let (ps, r) := scanText rest; (.char '"' :: ps, r)
  | '\\' :: '\\' :: rest => let (ps, r) := scanText rest; (.char '\\' :: ps, r)
  | '\\' :: '/' :: rest => let (ps, r) := scanText rest; (.char '/' :: ps, r)
  | '\\' :: 'b' :: rest => let (ps, r) := scanText rest; (.char '\x08' :: ps, r)
  | '\\' :: 'f' :: rest => let (ps, r) := scanText rest; (.char '\x0c' :: ps, r)
  | '\\' :: 'n' :: rest => let (ps, r) := scanText rest; (.char '\n' :: ps, r)
  | '\\' :: 'r' :: rest => let (ps, r) := scanText rest; (.char '\r' :: ps, r)
  | '\\' :: 't' :: rest => let (ps, r) := scanText rest; (.char '\t' :: ps, r)
  | '\\' :: 'u' :: a :: b :: c :: d :: rest =>
    match hexUnit? a b c d with
    | some n => let (ps, r) := scanText rest; (.unit n :: ps, r)
    | none => ([], .error .malformed)
  | '\\' :: 'u' :: rest => ([], .error (if byteLength rest < 4 then .ended else .malformed))
  | ['\\'] => ([], .error .ended)
  | '\\' :: _ :: _ => ([], .error .malformed)
  | c :: rest =>
    if c.toNat < 0x20 then ([], .error .malformed)
    else let (ps, r) := scanText rest; (.char c :: ps, r)

/-- Whether a code unit is the first or the second half of a surrogate pair. -/
def isHighSurrogate (n : Nat) : Bool := decide (0xD800 ≤ n) && decide (n < 0xDC00)

@[inherit_doc isHighSurrogate]
def isLowSurrogate (n : Nat) : Bool := decide (0xDC00 ≤ n) && decide (n < 0xE000)

/-- The characters of the pieces. A surrogate without its other half is malformed; the first half of
a pair at the very end, whose other half may have been cut off, gives `unfinished`. -/
def joinPieces (unfinished : Fault) : List Piece → Except Fault (List Char)
  | [] => .ok []
  | .char c :: ps => (joinPieces unfinished ps).map (c :: ·)
  | .unit n :: ps =>
    if isLowSurrogate n then .error .malformed
    else if isHighSurrogate n then
      match ps with
      | .unit m :: ps =>
        if isLowSurrogate m then
          (joinPieces unfinished ps).map
            (Char.ofNat (0x10000 + (n - 0xD800) * 0x400 + (m - 0xDC00)) :: ·)
        else .error .malformed
      | [] => .error unfinished
      | .char _ :: _ => .error .malformed
    else (joinPieces unfinished ps).map (Char.ofNat n :: ·)

/-- The token of a quoted text, from after its opening quote. -/
def textToken (s : List Char) : Token × List Char :=
  match scanText s with
  | (ps, .ok rest) =>
    match joinPieces .malformed ps with
    | .ok cs => (.text (String.ofList cs), rest)
    | .error f => (.brokenText f none, rest)
  | (ps, .error f) =>
    match joinPieces f ps with
    | .ok _ => (.brokenText f (some f), [])
    | .error g => (.brokenText g (some f), [])

/-! ## Numbers -/

/-- The largest significand that is kept exactly. -/
def significandLimit : Nat := 0x1_0000_0000_0000_0000

/-- The value of a decimal digit. -/
def digitValue? (c : Char) : Option Nat :=
  if '0' ≤ c ∧ c ≤ '9' then some (c.toNat - 48) else none

/-- A significand grown by the digits that follow while it fits, with the number of digits taken. -/
def growSignificand : (significand taken : Nat) → List Char → Nat × Nat × List Char
  | significand, taken, [] => (significand, taken, [])
  | significand, taken, c :: rest =>
    match digitValue? c with
    | none => (significand, taken, c :: rest)
    | some d =>
      if significand * 10 + d < significandLimit then
        growSignificand (significand * 10 + d) (taken + 1) rest
      else (significand, taken, c :: rest)

/-- The digits at the front are dropped and counted. -/
def countDigits : (count : Nat) → List Char → Nat × List Char
  | count, [] => (count, [])
  | count, c :: rest =>
    if (digitValue? c).isSome then countDigits (count + 1) rest else (count, c :: rest)

/-- The digits at the front as a number. -/
def takeNumber : (value : Nat) → List Char → Nat × List Char
  | value, [] => (value, [])
  | value, c :: rest =>
    match digitValue? c with
    | none => (value, c :: rest)
    | some d => takeNumber (value * 10 + d) rest

/-- A scanned number: its value, `none` if out of range, or the fault where a digit is missing. -/
abbrev Scanned := Except Fault (Option Number) × List Char

/-- Where a digit is due and none stands. -/
def missingDigit (rest : List Char) : Scanned :=
  (.error (if rest.isEmpty then .ended else .malformed), rest)

/-- The double of a scanned significand and power. -/
def scaledNumber (negative : Bool) (significand : Nat) (power : Int) (rest : List Char) : Scanned :=
  (.ok ((ofScaled negative significand power).map .double), rest)

/-- The sign of an exponent, and the text after it. -/
def exponentSign : List Char → Bool × List Char
  | '+' :: rest => (false, rest)
  | '-' :: rest => (true, rest)
  | s => (false, s)

/-- The exponent, from after its sign. -/
def exponentDigits (negative : Bool) (significand : Nat) (power : Int) (down : Bool) :
    List Char → Scanned
  | [] => missingDigit []
  | c :: s =>
    if (digitValue? c).isNone then missingDigit (c :: s)
    else
      let (e, rest) := takeNumber 0 (c :: s)
      scaledNumber negative significand (if down then power - e else power + e) rest

/-- The exponent, from after its letter. -/
def scanExponent (negative : Bool) (significand : Nat) (power : Int) (s : List Char) : Scanned :=
  let (down, digits) := exponentSign s
  exponentDigits negative significand power down digits

/-- The exponent, if one follows. -/
def scanExponentPart (negative : Bool) (significand : Nat) (power : Int) (s : List Char) : Scanned :=
  match s with
  | 'e' :: rest => scanExponent negative significand power rest
  | 'E' :: rest => scanExponent negative significand power rest
  | _ => scaledNumber negative significand power s

/-- The fraction, from after its point. Digits beyond the significand's 64 bits are dropped. -/
def scanFraction (negative : Bool) (significand : Nat) (power : Int) (s : List Char) : Scanned :=
  let (grown, taken, rest) := growSignificand significand 0 s
  match rest with
  | c :: _ =>
    if (digitValue? c).isSome then
      scanExponentPart negative grown (power - taken) (countDigits 0 rest).2
    else if taken = 0 then missingDigit rest
    else scanExponentPart negative grown (power - taken) rest
  | [] => if taken = 0 then missingDigit rest else scanExponentPart negative grown (power - taken) rest

/-- An integer that is neither followed by a fraction nor by an exponent. -/
def integerNumber (negative : Bool) (n : Nat) : Option Number :=
  if negative then
    if 0 < n ∧ n ≤ 0x8000_0000_0000_0000 then some (.int (-n))
    else (Binary64.ofNat? n).map fun x => .double x.neg
  else some (.int n)

/-- What follows the integer part. -/
def scanTail (negative : Bool) (significand : Nat) (s : List Char) : Scanned :=
  match s with
  | '.' :: rest => scanFraction negative significand 0 rest
  | 'e' :: rest => scanExponent negative significand 0 rest
  | 'E' :: rest => scanExponent negative significand 0 rest
  | _ => (.ok (integerNumber negative significand), s)

/-- What follows an integer part of which `extra` digits went beyond 64 bits. -/
def scanLongTail (negative : Bool) (significand extra : Nat) (s : List Char) : Scanned :=
  match s with
  | '.' :: rest => scanFraction negative significand extra rest
  | _ => scanExponentPart negative significand extra s

/-- A number, from after its sign. -/
def scanNumber (negative : Bool) (s : List Char) : Scanned :=
  match s with
  | [] => missingDigit []
  | '0' :: rest =>
    match rest with
    | c :: _ => if (digitValue? c).isSome then (.error .malformed, rest) else scanTail negative 0 rest
    | [] => scanTail negative 0 []
  | c :: _ =>
    if (digitValue? c).isNone then (.error .malformed, s)
    else
      let (significand, _, rest) := growSignificand 0 0 s
      match countDigits 0 rest with
      | (0, _) => scanTail negative significand rest
      | (extra, rest) => scanLongTail negative significand extra rest

/-- The token of a number, from after its sign. -/
def numberToken (negative : Bool) (s : List Char) : Token × List Char :=
  match scanNumber negative s with
  | (.ok (some n), rest) => (.num n, rest)
  | (.ok none, rest) => (.broken .malformed none, rest)
  | (.error f, _) => (.broken f (some .malformed), [])

/-! ## The text as tokens -/

/-- The token of a word, from after its first letter. -/
def wordToken (word : List Char) (token : Token) : List Char → Token × List Char
  | s =>
    match word, s with
    | [], s => (token, s)
    | _ :: _, [] => (.broken .ended (some .ended), [])
    | w :: word, c :: s =>
      if w = c then wordToken word token s else (.broken .malformed (some .malformed), [])

/-- The blanks between tokens. -/
def isSpace (c : Char) : Bool := c == ' ' || c == '\n' || c == '\t' || c == '\r'

/-- The first token of a text that starts with `c`. -/
def firstToken (c : Char) (rest : List Char) : Token × List Char :=
  match c with
  | '[' => (.openArray, rest)
  | ']' => (.closeArray, rest)
  | '\x7b' => (.openObject, rest)
  | '\x7d' => (.closeObject, rest)
  | ',' => (.comma, rest)
  | ':' => (.colon, rest)
  | '"' => textToken rest
  | '-' => numberToken true rest
  | 'n' => wordToken ['u', 'l', 'l'] .null rest
  | 't' => wordToken ['r', 'u', 'e'] (.bool true) rest
  | 'f' => wordToken ['a', 'l', 's', 'e'] (.bool false) rest
  | _ =>
    if (digitValue? c).isSome then numberToken false (c :: rest)
    else (.broken .malformed (some .malformed), [])

/-- The tokens of a text; `fuel` bounds their number. -/
def tokensFor : (fuel : Nat) → List Char → List Token
  | 0, _ => []
  | _ + 1, [] => []
  | fuel + 1, c :: rest =>
    if isSpace c then tokensFor fuel rest
    else
      let (token, rest) := firstToken c rest
      token :: tokensFor fuel rest

/-- The tokens of a text. -/
def tokens (s : List Char) : List Token := tokensFor s.length s

end Inquest.Json
