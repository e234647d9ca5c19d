/-! # Text from bytes

UTF-8 decoding with a machine that takes one byte at a time. `decode?` refuses a byte sequence that
is not UTF-8; `decodeLossy` puts U+FFFD in place of every longest piece that starts a character but
does not finish one, and of every other byte that starts none.

* `run`: what both make of bytes, told what to do about an undecodable piece.
-/

namespace Inquest.Text.Utf8

/-- A character in the middle of its bytes: the bytes still due, the bounds on the next one, and
the bits read so far. -/
structure Partial where
  due : Nat
  low : Nat
  high : Nat
  bits : Nat
  deriving Repr, DecidableEq

/-- What a byte does at the start of a character. -/
inductive Start
  | whole (c : Char)
  | opens (p : Partial)
  | refused

/-- The first byte of a character. -/
def start (b : UInt8) : Start :=
  let n := b.toNat
  if n < 0x80 then .whole (Char.ofNat n)
  else if n < 0xC2 then .refused
  else if n < 0xE0 then .opens ⟨1, 0x80, 0xBF, n % 0x20⟩
  else if n = 0xE0 then .opens ⟨2, 0xA0, 0xBF, 0⟩
  else if n = 0xED then .opens ⟨2, 0x80, 0x9F, 0xD⟩
  else if n < 0xF0 then .opens ⟨2, 0x80, 0xBF, n % 0x10⟩
  else if n = 0xF0 then .opens ⟨3, 0x90, 0xBF, 0⟩
  else if n < 0xF4 then .opens ⟨3, 0x80, 0xBF, n % 0x8⟩
  else if n = 0xF4 then .opens ⟨3, 0x80, 0x8F, 4⟩
  else .refused

/-- The character that stands for undecodable bytes. -/
def replacement : Char := Char.ofNat 0xFFFD

/-- The decoded characters, with `bad` called for each undecodable piece. -/
def run (bad : List Char → Option (List Char)) : Option Partial → List UInt8 → Option (List Char)
  | none, [] => some []
  | some _, [] => bad []
  | none, b :: bs =>
    match start b with
    | .whole c => (run bad none bs).map (c :: ·)
    | .opens p => run bad (some p) bs
    | .refused => (run bad none bs).bind bad
  | some p, b :: bs =>
    if p.low ≤ b.toNat ∧ b.toNat ≤ p.high then
      let bits := p.bits * 0x40 + b.toNat % 0x40
      match p.due with
      | 0 | 1 => (run bad none bs).map (Char.ofNat bits :: ·)
      | due + 2 => run bad (some ⟨due + 1, 0x80, 0xBF, bits⟩) bs
    else
      match start b with
      | .whole c => ((run bad none bs).map (c :: ·)).bind bad
      | .opens q => (run bad (some q) bs).bind bad
      | .refused => ((run bad none bs).bind bad).bind bad

/-- The text of a byte sequence, if it is UTF-8. -/
def decode? (bytes : List UInt8) : Option (List Char) := run (fun _ => none) none bytes

/-- The text of a byte sequence, undecodable pieces replaced. -/
def decodeLossy (bytes : List UInt8) : List Char :=
  (run (fun s => some (replacement :: s)) none bytes).getD []

/-- The bytes of a text. -/
def encode (s : String) : List UInt8 := s.toUTF8.toList

end Inquest.Text.Utf8
