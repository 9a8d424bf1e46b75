import Guardrail.Json.Basic
import Guardrail.Number.Shortest

/-!
# JSON text

The two written forms of a value. The compact form has no blanks; the pretty form puts each item and
member on a line of its own, indented by two blanks a level, with `[]` and `{}` for empty
containers. Members come in key order.

Strings escape the quote, the backslash and the controls below U+0020, and nothing else.
-/

namespace Guardrail.Json

/-- A hexadecimal digit in lower case. -/
def hexDigit (n : Nat) : Char := if n < 10 then Char.ofNat (48 + n) else Char.ofNat (87 + n)

/-- The written form of a character inside a string. -/
def escapeChar (c : Char) : List Char :=
  if c = '"' then ['\\', '"']
  else if c = '\\' then ['\\', '\\']
  else if c = '\x08' then ['\\', 'b']
  else if c = '\x0c' then ['\\', 'f']
  else if c = '\n' then ['\\', 'n']
  else if c = '\x0d' then ['\\', 'r']
  else if c = '\t' then ['\\', 't']
  else if c.toNat < 32 then
    ['\\', 'u', '0', '0', hexDigit (c.toNat / 16), hexDigit (c.toNat % 16)]
  else [c]

/-- The written form of a string, with its quotes. -/
def quote (s : String) : String :=
  String.ofList ('"' :: (s.toList.flatMap escapeChar ++ ['"']))

/-- The written form of a number. -/
def numeral : Number → String
  | .int n => toString n
  | .float x => NumeralLayout.json.render x

mutual

/-- The compact form. -/
def compact : Json → String
  | .null => "null"
  | .bool true => "true"
  | .bool false => "false"
  | .num n => numeral n
  | .str s => quote s
  | .arr items => "[" ++ compactItems items ++ "]"
  | .obj members => "\x7b" ++ compactMembers members ++ "\x7d"

/-- Items of an array, separated by commas. -/
def compactItems : List Json → String
  | [] => ""
  | [x] => compact x
  | x :: y :: rest => compact x ++ "," ++ compactItems (y :: rest)

/-- Members of an object, separated by commas. -/
def compactMembers : List (String × Json) → String
  | [] => ""
  | [(k, x)] => quote k ++ ":" ++ compact x
  | (k, x) :: y :: rest => quote k ++ ":" ++ compact x ++ "," ++ compactMembers (y :: rest)

end

/-- A line break and the blanks of an indentation. -/
def lineBreak (level : Nat) : String := String.ofList ('\n' :: List.replicate (2 * level) ' ')

mutual

/-- The pretty form, its first line standing at a level of indentation. -/
def prettyAt (level : Nat) : Json → String
  | .arr [] => "[]"
  | .arr (x :: rest) =>
    "[" ++ lineBreak (level + 1) ++ prettyAt (level + 1) x ++ prettyItems level rest
  | .obj [] => "\x7b\x7d"
  | .obj ((k, x) :: rest) =>
    "\x7b" ++ lineBreak (level + 1) ++ quote k ++ ": " ++ prettyAt (level + 1) x ++
      prettyMembers level rest
  | .null => "null"
  | .bool true => "true"
  | .bool false => "false"
  | .num n => numeral n
  | .str s => quote s

/-- The items after the first, and the end of the array. -/
def prettyItems (level : Nat) : List Json → String
  | [] => lineBreak level ++ "]"
  | x :: rest => "," ++ lineBreak (level + 1) ++ prettyAt (level + 1) x ++ prettyItems level rest

/-- The members after the first, and the end of the object. -/
def prettyMembers (level : Nat) : List (String × Json) → String
  | [] => lineBreak level ++ "\x7d"
  | (k, x) :: rest =>
    "," ++ lineBreak (level + 1) ++ quote k ++ ": " ++ prettyAt (level + 1) x ++
      prettyMembers level rest

end

/-- The pretty form. -/
def pretty (j : Json) : String := prettyAt 0 j

/-- A string as it is, any other value in compact form (`display_value`). -/
def plain : Json → String
  | .str s => s
  | j => j.compact

end Guardrail.Json
