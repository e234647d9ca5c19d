import Inquest.Decimal.Notation
import Inquest.Json.Basic

/-! # Written JSON

`Json.compact` writes a value without blanks, `Json.pretty` with one field or item a line, indented
by two blanks a level. Fields are written in the order in which the value holds them.
-/

namespace Inquest

open Decimal

/-- An integer in decimal digits. -/
def intDigits (n : Int) : List Char :=
  if n < 0 then '-' :: natDigits n.natAbs else natDigits n.natAbs

/-- A number as it is written. -/
def Number.write : Number → List Char
  | .int n => intDigits n
  | .double x => dataLayout.write x

namespace Json

/-- A digit of base 16, small letters. -/
def hexDigit (n : Nat) : Char := if n < 10 then Char.ofNat (48 + n) else Char.ofNat (87 + n)

/-- A character inside quotes. -/
def escapeChar (c : Char) : List Char :=
  if c = '"' then ['\\', '"']
  else if c = '\\' then ['\\', '\\']
  else if c.toNat < 0x20 then
    if c = '\n' then ['\\', 'n']
    else if c = '\t' then ['\\', 't']
    else if c = '\r' then ['\\', 'r']
    else if c.toNat = 0x8 then ['\\', 'b']
    else if c.toNat = 0xC then ['\\', 'f']
    else ['\\', 'u', '0', '0', hexDigit (c.toNat / 16), hexDigit (c.toNat % 16)]
  else [c]

/-- A text in quotes. -/
def quote (s : String) : List Char := '"' :: (s.toList.flatMap escapeChar ++ ['"'])

/-- A truth value. -/
def boolWord (b : Bool) : List Char :=
  if b then ['t', 'r', 'u', 'e'] else ['f', 'a', 'l', 's', 'e']

/-- The word for the absent value. -/
def nullWord : List Char := ['n', 'u', 'l', 'l']

mutual

/-- A value without blanks. -/
def write : Json → List Char
  | .null => nullWord
  | .bool b => boolWord b
  | .num n => n.write
  | .str s => quote s
  | .arr items => '[' :: (writeItems items ++ [']'])
  | .obj fields => '\x7b' :: (writeFields fields ++ ['\x7d'])

/-- Items with commas between them. -/
def writeItems : List Json → List Char
  | [] => []
  | [j] => write j
  | j :: rest => write j ++ ',' :: writeItems rest

/-- Fields with commas between them. -/
def writeFields : List (String × Json) → List Char
  | [] => []
  | [(k, v)] => quote k ++ ':' :: write v
  | (k, v) :: rest => quote k ++ ':' :: write v ++ ',' :: writeFields rest

end

/-- A line break and the indentation of a level. -/
def newLine (level : Nat) : List Char := '\n' :: List.replicate (2 * level) ' '

mutual

/-- A value with one field or item a line. -/
def writePretty (level : Nat) : Json → List Char
  | .null => nullWord
  | .bool b => boolWord b
  | .num n => n.write
  | .str s => quote s
  | .arr [] => ['[', ']']
  | .arr items => '[' :: (writePrettyItems (level + 1) items ++ newLine level ++ [']'])
  | .obj [] => ['\x7b', '\x7d']
  | .obj fields => '\x7b' :: (writePrettyFields (level + 1) fields ++ newLine level ++ ['\x7d'])

/-- Items on lines of their own. -/
def writePrettyItems (level : Nat) : List Json → List Char
  | [] => []
  | [j] => newLine level ++ writePretty level j
  | j :: rest => newLine level ++ writePretty level j ++ ',' :: writePrettyItems level rest

/-- Fields on lines of their own. -/
def writePrettyFields (level : Nat) : List (String × Json) → List Char
  | [] => []
  | [(k, v)] => newLine level ++ quote k ++ ':' :: ' ' :: writePretty level v
  | (k, v) :: rest =>
    newLine level ++ quote k ++ ':' :: ' ' :: writePretty level v ++ ',' ::
      writePrettyFields level rest

end

/-- The compact text of a value. -/
def compact (j : Json) : String := String.ofList j.write

/-- The indented text of a value. -/
def pretty (j : Json) : String := String.ofList (writePretty 0 j)

end Json

end Inquest
