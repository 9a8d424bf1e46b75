import Guardrail.Text.Lowercase
import Guardrail.Validator.Basic

/-!
# Lower case and single lines

A text must be in lower case, or on one line. Proposed are the text in lower case, and its first
line.
-/

namespace Guardrail.Validator

/-- The complaint about a value that is no text. -/
def notText (value : Json) : Verdict := .reject ("Value " ++ value.plain ++ " is not a string.")

/-- The validator of lower case (`LowerCase`). -/
def lowerCase : Validator where
  name := "lower-case"
  args := []
  requiredKeys := []
  checkId := none
  check value _ :=
    match value with
    | .str text =>
      let lowered := Text.toLowercase text
      if lowered == text then .pass
      else .propose ("Value " ++ text ++ " is not lower case.") (.str lowered)
    | _ => notText value

/-- The first line of a text, without its end: a line feed, or a carriage return before one. -/
def firstLine (cs : List Char) : List Char :=
  let line := cs.takeWhile (· != '\n')
  if line.length < cs.length ∧ line.getLast? = some '\x0d' then line.dropLast else line

/-- The validator of single lines (`OneLine`). -/
def oneLine : Validator where
  name := "one-line"
  args := []
  requiredKeys := []
  checkId := none
  check value _ :=
    match value with
    | .str text =>
      if text.toList.contains '\n' then
        .propose ("Value " ++ text ++ " is not a single line.")
          (.str (String.ofList (firstLine text.toList)))
      else .pass
    | _ => notText value

end Guardrail.Validator
