import Inquest.Text.CaseTable
import Inquest.Text.LetterTable

/-! # Small letters

`lowercase` is the full lowercase mapping of Unicode: every capital letter becomes its small letter,
`İ` becomes `i` and a combining dot, and `Σ` becomes `ς` at the end of a word and `σ` elsewhere.
`lowercaseAscii` touches the 26 ASCII capitals only.
-/

namespace Inquest.Text

/-- The small form of one character, a `Σ` counting as inside a word. -/
def smallForm (c : Char) : List Char :=
  if c.toNat < 0x80 then [c.toLower]
  else if c.toNat = 0x130 then ['i', Char.ofNat 0x307]
  else [Char.ofNat (smallCode c.toNat)]

/-- Whether the first character that is not passed over is a cased letter. -/
def startsCased (s : List Char) : Bool :=
  match s.dropWhile isCaseIgnorable with
  | [] => false
  | c :: _ => isCased c

/-- Small letters throughout; `before` holds the characters already passed, last first. -/
def lowercaseFrom (before : List Char) : List Char → List Char
  | [] => []
  | c :: rest =>
    let small :=
      if c.toNat = 0x3A3 then
        if startsCased before && !startsCased rest then [Char.ofNat 0x3C2] else [Char.ofNat 0x3C3]
      else smallForm c
    small ++ lowercaseFrom (c :: before) rest

/-- A text in small letters. -/
def lowercaseChars (s : List Char) : List Char := lowercaseFrom [] s

/-- A text in small letters. -/
def lowercase (s : String) : String := String.ofList (lowercaseChars s.toList)

/-- A text with its ASCII capitals made small. -/
def lowercaseAscii (s : String) : String := String.ofList (s.toList.map Char.toLower)

end Inquest.Text
