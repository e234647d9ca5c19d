import Inquest.Text.Blank

/-! # The type of a declared field, as it is written

A type is a path, such as `Vec<String>` or `std::option::Option<u8>`, or something else: a reference,
a tuple, a type in parentheses, a function. Of a path only its last name counts, with its first
argument if that is a type.

* `TypeExpr.parse`: reads a type from its text.
-/

namespace Inquest

/-- A written type. -/
inductive TypeExpr
  /-- A path whose last name has no type for an argument. -/
  | plain (name : String)
  /-- A path whose last name has a type for its first argument. -/
  | generic (name : String) (argument : TypeExpr)
  /-- A type that is no path. -/
  | other
  deriving DecidableEq

namespace TypeExpr

/-- A token of a written type. -/
inductive Token
  | name (s : String)
  | lifetime
  | pathSeparator
  | arrow
  | mark (c : Char)
  deriving DecidableEq

/-- Whether a character may stand in a name. -/
def isNameChar (c : Char) : Bool := c.isAlphanum || c == '_' || c == '#' || 0x80 ≤ c.toNat

/-- The tokens of a type, `word` holding the letters of an unfinished name, last first. -/
def tokensFrom (word : List Char) : List Char → List Token
  | [] => flush word []
  | ':' :: ':' :: rest => flush word (.pathSeparator :: tokensFrom [] rest)
  | '-' :: '>' :: rest => flush word (.arrow :: tokensFrom [] rest)
  | '\'' :: rest => flush word (.lifetime :: tokensFrom [] rest)
  | c :: rest =>
    if isNameChar c then tokensFrom (c :: word) rest
    else if Text.isBlankChar c then flush word (tokensFrom [] rest)
    else flush word (.mark c :: tokensFrom [] rest)
where
  /-- The unfinished name, if there is one, before the tokens that follow it. -/
  flush (word : List Char) (rest : List Token) : List Token :=
    if word.isEmpty then rest else .name (String.ofList word.reverse) :: rest

/-- The tokens after the bracket that closes the arguments; `depth` counts open brackets. -/
def skipArguments : (depth : Nat) → List Token → List Token
  | _, [] => []
  | depth, t :: rest =>
    if t = .mark '<' then skipArguments (depth + 1) rest
    else if t = .mark '>' then
      match depth with
      | 0 => rest
      | depth + 1 => skipArguments depth rest
    else skipArguments depth rest

/-- Names that begin a type other than a path. -/
def startsOther (name : String) : Bool :=
  ["fn", "dyn", "impl", "unsafe", "extern", "for", "_"].contains name

/-- Whether a path ends here: at the end, a comma, or a closing bracket. -/
def endsPath : List Token → Bool
  | [] => true
  | t :: _ => t == .mark ',' || t == .mark '>'

/-- A type at the front of the tokens; `fuel` bounds the nesting and the length of the path. -/
def ofTokens : (fuel : Nat) → List Token → TypeExpr
  | 0, _ => .other
  | fuel + 1, ts =>
    match ts with
    | .pathSeparator :: rest => ofTokens fuel rest
    | .mark '<' :: rest =>
      match skipArguments 0 rest with
      | .pathSeparator :: rest => ofTokens fuel rest
      | _ => .other
    | .name n :: rest =>
      if startsOther n then .other
      else
        let arguments :=
          match rest with
          | .pathSeparator :: .mark '<' :: inside => some inside
          | .mark '<' :: inside => some inside
          | _ => none
        match arguments with
        | none =>
          match rest with
          | .pathSeparator :: rest => ofTokens fuel rest
          | .mark '(' :: _ => .plain n
          | _ => if endsPath rest then .plain n else .other
        | some inside =>
          match skipArguments 0 inside with
          | .pathSeparator :: rest => ofTokens fuel rest
          | rest =>
            if !endsPath rest then .other
            else
              match inside with
              | .lifetime :: _ => .plain n
              | .mark '>' :: _ => .plain n
              | _ => .generic n (ofTokens fuel inside)
    | _ => .other

/-- Reads a type from its text. -/
def parse (s : String) : TypeExpr :=
  let ts := tokensFrom [] s.toList
  ofTokens (ts.length + 1) ts

end TypeExpr

end Inquest
