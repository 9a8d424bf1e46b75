import Guardrail.Json.Record

/-!
# Failure policies

What is done when a validator fails.
-/

namespace Guardrail

/-- What is done when a validator fails (`OnFail`). -/
inductive Policy
  /-- The failure is logged and nothing else. -/
  | noop
  /-- The pass is aborted. -/
  | exception
  /-- The proposed fix, if there is one, takes the value's place. -/
  | fix
  /-- The value is removed. -/
  | filter
  /-- The value becomes null. -/
  | refrain
  /-- The generator is asked again. -/
  | reask
deriving DecidableEq, Inhabited

namespace Policy

/-- Whether a failure keeps the value from being used as it is, and the round from passing
(`is_blocking`). -/
def isBlocking : Policy → Bool
  | .reask | .filter | .refrain => true
  | .noop | .exception | .fix => false

/-- The name of a policy (`as_str`). -/
def name : Policy → String
  | .noop => "noop"
  | .exception => "exception"
  | .fix => "fix"
  | .filter => "filter"
  | .refrain => "refrain"
  | .reask => "reask"

/-- The policy of a name; two have a second name. -/
def ofName? : String → Option Policy
  | "noop" | "ignore" => some .noop
  | "exception" | "raise" => some .exception
  | "fix" => some .fix
  | "filter" => some .filter
  | "refrain" => some .refrain
  | "reask" => some .reask
  | _ => none

/-- A text with its ASCII letters in lower case. -/
def foldAscii (text : String) : String := text.map Char.toLower

/-- The policy of a name in letters of any case, or a complaint that shows the name in lower case
(`from_str`). -/
def parse (text : String) : Except String Policy :=
  match ofName? (foldAscii text) with
  | some p => .ok p
  | none => .error ("unknown on-fail policy: " ++ foldAscii text)

/-- A policy is written as its name. -/
def toJson (p : Policy) : Json := .str p.name

/-- Reads a policy, whose name must be in lower case. -/
def ofJson? (j : Json) : Option Policy := j.caseName?.bind ofName?

end Policy
end Guardrail
