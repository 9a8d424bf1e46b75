import Guardrail.Regex.Limit
import Guardrail.Validator.Arguments
import Guardrail.Validator.Basic

/-!
# Patterns

A text must match a regular expression, in some part or as a whole.
-/

namespace Guardrail.Validator

/-- How much of a text must match (`MatchType`). -/
inductive MatchMode
  /-- Some part of it. -/
  | search
  /-- All of it. -/
  | whole
deriving DecidableEq

/-- The name of a mode. -/
def MatchMode.name : MatchMode → String
  | .search => "search"
  | .whole => "fullmatch"

/-- A pattern and the expression it stands for (`RegexMatch`). -/
structure Pattern where
  source : String
  mode : MatchMode
  regex : Regex

namespace Pattern

/-- The id under which the validator is known. -/
def id : String := "regex-match"

/-- The pattern that is searched for: to match as a whole, a pattern is set between the assertions
for the ends of the text. -/
def anchored (source : String) : MatchMode → String
  | .search => source
  | .whole => "^(?:" ++ source ++ ")$"

/-- The pattern of a source (`new`). -/
def compile (source : String) (mode : MatchMode) : Except ConfigError Pattern :=
  match Regex.compile (anchored source mode) with
  | .ok regex => .ok ⟨source, mode, regex⟩
  | .error fault => .error (.invalidArguments id fault.message)

/-- The pattern given by arguments (`from_args`). -/
def ofArgs (args : Dict Json) : Except ConfigError Pattern := do
  match ← textArgument? id args "regex" with
  | none => throw (.invalidArguments id "'regex' is required")
  | some source =>
    match ← textArgument? id args "match_type" with
    | none | some "search" => compile source .search
    | some "fullmatch" => compile source .whole
    | some other => throw (.invalidArguments id ("unknown match_type '" ++ other ++ "'"))

/-- Checks a value (`validate`). -/
def check (p : Pattern) : Json → Verdict
  | .str text =>
    if p.regex.isMatch text then .pass else .reject ("Result must match " ++ p.source)
  | value => .reject ("Value " ++ value.plain ++ " must be a string to match " ++ p.source)

end Pattern

/-- The validator of a pattern. -/
def pattern (p : Pattern) : Validator where
  name := Pattern.id
  args := .ofList [("regex", .str p.source), ("match_type", .str p.mode.name)]
  requiredKeys := []
  checkId := none
  check value _ := p.check value

end Guardrail.Validator
