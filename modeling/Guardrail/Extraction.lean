import Guardrail.Json.Reader
import Guardrail.Schema
import Guardrail.Text.Blank

/-!
# Extraction of values from text

Finding the value that a generator was asked for in the text that it gave. A text asked for is the
text itself. An object or array is looked for, in this order, in the first block fenced by three
backticks, in the leftmost balanced pair of brackets that holds JSON, and in the whole text. Section
B6.8 of the specification says what becomes of a text without such a value.
-/

namespace Guardrail.Extraction

/-- The part of a text before the first occurrence of another, and the part after it. -/
def splitAt? (mark : List Char) : List Char → Option (List Char × List Char)
  | [] => if mark.isEmpty then some ([], []) else none
  | c :: rest =>
    if mark.isPrefixOf (c :: rest) then some ([], (c :: rest).drop mark.length)
    else (splitAt? mark rest).map fun (before, after) => (c :: before, after)

/-- The mark at both ends of a fenced block. -/
def fence : List Char := ['\x60', '\x60', '\x60']

/-- The value in the first fenced block (`from_fenced_block`). The rest of the line of the opening
fence is no part of the block. -/
def fenced? (cs : List Char) : Option Json := do
  let (_, rest) ← splitAt? fence cs
  let body := match splitAt? ['\n'] rest with
    | some (_, body) => body
    | none => rest
  let (inside, _) ← splitAt? fence body
  Json.ofChars? (Text.trimChars inside)

/-- Where the search for a closing bracket stands. -/
structure Scan where
  /-- The number of brackets that are open. -/
  depth : Nat
  /-- Whether the place is inside a string. -/
  inString : Bool
  /-- Whether the next character is escaped. -/
  escaped : Bool

/-- The text up to the bracket that closes the first one. Brackets in strings do not count. -/
def balanced? (opening closing : Char) : Scan → List Char → Option (List Char)
  | _, [] => none
  | scan, c :: rest =>
    let next (scan : Scan) := (balanced? opening closing scan rest).map (c :: ·)
    if scan.escaped then next { scan with escaped := false }
    else if scan.inString && c == '\\' then next { scan with escaped := true }
    else if c = '"' then next { scan with inString := !scan.inString }
    else if scan.inString then next scan
    else if c = opening then next { scan with depth := scan.depth + 1 }
    else if c = closing then
      if scan.depth ≤ 1 then some [c] else next { scan with depth := scan.depth - 1 }
    else next scan

/-- The value of the leftmost balanced pair of brackets that holds JSON (`find_balanced`). -/
def leftmost? (opening closing : Char) : List Char → Option Json
  | [] => none
  | c :: rest =>
    if c = opening then
      ((balanced? opening closing ⟨0, false, false⟩ (c :: rest)).bind Json.ofChars?).or
        (leftmost? opening closing rest)
    else leftmost? opening closing rest

/-- The value of a shape between brackets (`extract_json`). -/
def value? (shape : Shape) (opening closing : Char) (cs : List Char) : Option Json :=
  let cs := Text.trimChars cs
  ((fenced? cs).filter shape.admits).or
    (((leftmost? opening closing cs).filter shape.admits).or
      ((Json.ofChars? cs).filter shape.admits))

/-- The value of a shape in a text (`parse_output`). -/
def extract? (shape : Shape) (text : String) : Option Json :=
  match shape with
  | .string => some (.str text)
  | .object => value? .object '\x7b' '\x7d' text.toList
  | .list => value? .list '[' ']' text.toList

/-- The complaint about a text without a value of the shape asked for (`UNPARSEABLE_MESSAGE`). -/
def notFoundMessage : String := "Output is not parseable as JSON"

end Guardrail.Extraction
