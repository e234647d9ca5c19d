/-! # Blank characters

A blank is a character with the White_Space property of Unicode. `trim` drops the blanks at both
ends of a text; a text that holds nothing else is blank (`isBlank`).

* `trimStartChars_of_not_blank_head`, `trimEndChars_of_not_blank_last`: trimming changes nothing at an
  end that is not blank.
-/

namespace Inquest.Text

/-- The White_Space property. -/
def isBlankChar (c : Char) : Bool :=
  let n := c.toNat
  (decide (0x9 ≤ n) && decide (n ≤ 0xD)) || n == 0x20 || n == 0x85 || n == 0xA0 || n == 0x1680 ||
    (decide (0x2000 ≤ n) && decide (n ≤ 0x200A)) || n == 0x2028 || n == 0x2029 || n == 0x202F ||
    n == 0x205F || n == 0x3000

/-- A text without the blanks it starts with. -/
def trimStartChars (s : List Char) : List Char := s.dropWhile isBlankChar

/-- A text without the blanks it ends with. -/
def trimEndChars (s : List Char) : List Char := (s.reverse.dropWhile isBlankChar).reverse

/-- A text without the blanks at its ends. -/
def trimChars (s : List Char) : List Char := trimEndChars (trimStartChars s)

/-- A text without the blanks at its ends. -/
def trim (s : String) : String := String.ofList (trimChars s.toList)

/-- Whether a text holds nothing but blanks. -/
def isBlank (s : String) : Bool := s.toList.all isBlankChar

theorem isBlank_empty : isBlank "" = true := by rfl

theorem trimStartChars_of_not_blank_head {c : Char} {s : List Char} (h : isBlankChar c = false) :
    trimStartChars (c :: s) = c :: s := by
  simp [trimStartChars, h]

theorem trimEndChars_of_not_blank_last {c : Char} {s : List Char} (h : isBlankChar c = false) :
    trimEndChars (s ++ [c]) = s ++ [c] := by
  simp [trimEndChars, h]

/-- A text is blank exactly when trimming leaves nothing of it. -/
theorem trimStartChars_eq_nil_iff {s : List Char} :
    trimStartChars s = [] ↔ s.all isBlankChar = true := by
  induction s with
  | nil => simp [trimStartChars]
  | cons c s ih => cases h : isBlankChar c <;> simp_all [trimStartChars]

end Inquest.Text
