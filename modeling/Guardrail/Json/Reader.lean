import Guardrail.Json.Numeral

/-!
# Reading JSON text

A strict reader of JSON text: no comments, no trailing commas, no blanks but the four of the
grammar, no unpaired surrogate escapes, and at most 127 containers inside one another. Of members
with the same key the last counts.
-/

namespace Guardrail.Json

/-- Reads a value off the front of a text. -/
abbrev Reader (α : Type) := List Char → Option (α × List Char)

/-- The blanks that may stand between the parts of JSON text. -/
def isSpace (c : Char) : Bool := c == ' ' || c == '\n' || c == '\t' || c == '\x0d'

/-- A text less the blanks at its front. -/
def skipSpace (cs : List Char) : List Char := cs.dropWhile isSpace

/-! ## Strings -/

/-- Where the reader of a string stands. -/
inductive StringState
  /-- Between characters. -/
  | plain
  /-- After a high surrogate: only the escape of a low one may follow. -/
  | paired (high : Nat)
  /-- After a backslash, with the high surrogate before it. -/
  | escape (high : Option Nat)
  /-- Inside a hexadecimal escape: digits still to come and the value so far. -/
  | hex (high : Option Nat) (left : Nat) (value : Nat)

/-- The value of a hexadecimal digit. -/
def hexValue? (c : Char) : Option Nat :=
  let n := c.toNat
  if 48 ≤ n ∧ n ≤ 57 then some (n - 48)
  else if 65 ≤ n ∧ n ≤ 70 then some (n - 55)
  else if 97 ≤ n ∧ n ≤ 102 then some (n - 87)
  else none

/-- The character of an escape of one letter. -/
def letterEscape? : Char → Option Char
  | '"' => some '"'
  | '\\' => some '\\'
  | '/' => some '/'
  | 'b' => some '\x08'
  | 'f' => some '\x0c'
  | 'n' => some '\n'
  | 'r' => some '\x0d'
  | 't' => some '\t'
  | _ => none

/-- What a complete hexadecimal escape means: a character, or a high surrogate that waits for its
partner. -/
def unitMeaning? (high : Option Nat) (unit : Nat) : Option (Char ⊕ Nat) :=
  match high with
  | none =>
    if 0xD800 ≤ unit ∧ unit ≤ 0xDBFF then some (.inr unit)
    else if 0xDC00 ≤ unit ∧ unit ≤ 0xDFFF then none
    else some (.inl (Char.ofNat unit))
  | some h =>
    if 0xDC00 ≤ unit ∧ unit ≤ 0xDFFF then
      some (.inl (Char.ofNat (0x10000 + (h - 0xD800) * 0x400 + (unit - 0xDC00))))
    else none

/-- The characters of a string up to its closing quote. -/
def readChars : StringState → Reader (List Char)
  | _, [] => none
  | .plain, c :: rest =>
    if c = '"' then some ([], rest)
    else if c = '\\' then readChars (.escape none) rest
    else if c.toNat < 32 then none
    else (readChars .plain rest).map fun (s, r) => (c :: s, r)
  | .paired high, c :: rest => if c = '\\' then readChars (.escape (some high)) rest else none
  | .escape high, c :: rest =>
    if c = 'u' then readChars (.hex high 3 0) rest
    else if high.isSome then none
    else
      match letterEscape? c with
      | none => none
      | some e => (readChars .plain rest).map fun (s, r) => (e :: s, r)
  | .hex high left value, c :: rest =>
    match hexValue? c with
    | none => none
    | some d =>
      match left with
      | left + 1 => readChars (.hex high left (value * 16 + d)) rest
      | 0 =>
        match unitMeaning? high (value * 16 + d) with
        | none => none
        | some (.inr h) => readChars (.paired h) rest
        | some (.inl e) => (readChars .plain rest).map fun (s, r) => (e :: s, r)

/-- A string without its opening quote. -/
def readString : Reader String := fun cs =>
  (readChars .plain cs).map fun (s, rest) => (String.ofList s, rest)

/-! ## Containers -/

/-- One or more items separated by commas, up to the closing character; `fuel` bounds their
number. -/
def readItems (item : Reader α) (close : Char) : Nat → Reader (List α)
  | 0, _ => none
  | fuel + 1, cs =>
    match item cs with
    | none => none
    | some (x, rest) =>
      match skipSpace rest with
      | [] => none
      | c :: rest =>
        if c = ',' then (readItems item close fuel rest).map fun (xs, r) => (x :: xs, r)
        else if c = close then some ([x], rest)
        else none

/-- The items of a container after its opening character. No container holds more items than the
text has characters. -/
def readSequence (item : Reader α) (close : Char) : Reader (List α) := fun cs =>
  match skipSpace cs with
  | [] => none
  | c :: rest => if c = close then some ([], rest) else readItems item close cs.length cs

/-- A member of an object, its value read by `value`. -/
def readMember (value : Reader Json) : Reader (String × Json) := fun cs =>
  match skipSpace cs with
  | '"' :: rest =>
    match readString rest with
    | none => none
    | some (key, rest) =>
      match skipSpace rest with
      | ':' :: rest => (value rest).map fun (v, r) => ((key, v), r)
      | _ => none
  | _ => none

/-- A value that is no container. -/
def readScalar : Reader Json := fun cs =>
  match cs with
  | 'n' :: 'u' :: 'l' :: 'l' :: rest => some (.null, rest)
  | 't' :: 'r' :: 'u' :: 'e' :: rest => some (.bool true, rest)
  | 'f' :: 'a' :: 'l' :: 's' :: 'e' :: rest => some (.bool false, rest)
  | '"' :: rest => (readString rest).map fun (s, r) => (.str s, r)
  | cs =>
    match readNumeral cs with
    | none => none
    | some (n, rest) => n.value?.map fun v => (.num v, rest)

/-- A value after any blanks, with at most `depth` containers inside one another. -/
def readValue : Nat → Reader Json
  | 0 => fun cs => readScalar (skipSpace cs)
  | depth + 1 => fun cs =>
    match skipSpace cs with
    | '[' :: rest =>
      (readSequence (readValue depth) ']' rest).map fun (items, r) => (.arr items, r)
    | '\x7b' :: rest =>
      (readSequence (readMember (readValue depth)) '\x7d' rest).map fun (members, r) =>
        (.ofMembers members, r)
    | cs => readScalar cs

/-- The greatest number of containers inside one another. -/
def maxDepth : Nat := 127

/-- The value of a text that is JSON from end to end, blanks around it apart. -/
def ofChars? (cs : List Char) : Option Json :=
  match readValue maxDepth cs with
  | some (v, rest) => if (skipSpace rest).isEmpty then some v else none
  | none => none

/-- The value of a text that is JSON from end to end, blanks around it apart. -/
def parse? (s : String) : Option Json := ofChars? s.toList

end Guardrail.Json
