import Guardrail.Record.Outputs
import Guardrail.ValidatorMap

/-!
# Validation passes

A pass runs all validators of a map over a value. Deeper paths come before shallower ones; a path
with wildcards stands for one unit after another, in document order. On a unit the validators run in
order of attachment, each on the value that the fixes before it left; the first failure with a
blocking policy decides what becomes of the unit, and a failure with the policy to abort ends the
pass.

Two documents are kept up to date: the validated one, where blocked units are replaced by a fix,
removed or set to null, and the annotated one, where they are replaced by a marker and nothing is
ever removed. A pass is the step *Validate* of section 4.2 of the specification, with the
interpretations of B7.
-/

namespace Guardrail

/-- What stands in the annotated document for a value that has to be corrected (`reask_marker`). -/
def Correction.marker (c : Correction) : Json :=
  .ofMembers [("incorrect_value", c.incorrect), ("error_messages", .arr (c.messages.map .str))]

/-- The result of a pass (`PassResult`). -/
structure Pass where
  /-- What is left of the value, if anything is. -/
  validated : Option Json
  /-- The value with markers in place of blocked units. -/
  annotated : Json
  /-- The units that are to be asked for again. -/
  reasks : List Correction
  /-- All blocked units. -/
  corrections : List Correction
  /-- All runs of validators. -/
  logs : List LogEntry

namespace Pass

/-- Why a pass was aborted, and the runs of validators up to there. -/
structure Abort where
  error : ValidationError
  logs : List LogEntry

/-! ## One unit -/

/-- The validators of an entry on their way through one unit. -/
structure UnitRun where
  /-- The value as the fixes left it. -/
  value : Json
  /-- The policy of the first blocking failure. -/
  blocking : Option Policy
  /-- The failures from the blocking one on. -/
  failures : List Failure
  /-- The runs of validators. -/
  logs : List LogEntry

/-- One more validator runs. -/
def UnitRun.step (unit : String) (metadata : Metadata) (run : UnitRun) (v : BoundValidator) :
    Except Abort UnitRun :=
  let verdict := v.validator.check run.value metadata
  let logs := run.logs ++ [⟨v.name, unit, v.policy, run.value, verdict⟩]
  match verdict with
  | .pass => .ok { run with logs }
  | .fail failure =>
    match v.policy, run.blocking with
    | .exception, _ => .error ⟨⟨v.name, unit, failure.message⟩, logs⟩
    | .fix, none => .ok { run with value := failure.fix.getD run.value, logs }
    | .noop, none => .ok { run with logs }
    | policy, none => .ok { run with blocking := some policy, failures := [failure], logs }
    | _, some _ => .ok { run with failures := run.failures ++ [failure], logs }

/-- All validators of an entry run on a unit. -/
def UnitRun.ofUnit (unit : String) (metadata : Metadata) (vs : List BoundValidator)
    (value : Json) : Except Abort UnitRun :=
  vs.foldlM (UnitRun.step unit metadata) ⟨value, none, [], []⟩

/-- What becomes of a unit. -/
inductive Disposition
  /-- It gets a value. -/
  | keep (value : Json)
  /-- It has to be corrected; `policy` says how. -/
  | block (policy : Policy) (correction : Correction)

/-- What becomes of a unit with the given value after a run. -/
def UnitRun.disposition (unit : String) (found : Json) (run : UnitRun) : Disposition :=
  match run.blocking with
  | none => .keep run.value
  | some policy => .block policy ⟨found, unit, run.failures⟩

/-! ## The documents -/

/-- The state of a pass. -/
structure State where
  validated : Json
  annotated : Json
  reasks : List Correction
  corrections : List Correction
  logs : List LogEntry
  /-- The units of the current entry that are to be removed. -/
  removals : List Path

/-- The state at the start. -/
def State.initial (value : Json) : State := ⟨value, value, [], [], [], []⟩

/-- A blocked unit is recorded and gets its marker. -/
def State.mark (s : State) (unit : Path) (c : Correction) : State :=
  { s with annotated := unit.set c.marker s.annotated, corrections := s.corrections ++ [c] }

/-- A unit is to be removed. -/
def State.drop (s : State) (unit : Path) : State := { s with removals := s.removals ++ [unit] }

/-- A unit of the validated document gets a value. -/
def State.put (s : State) (unit : Path) (value : Json) : State :=
  { s with validated := unit.set value s.validated }

/-- What becomes of a unit is carried out. -/
def State.apply (s : State) (unit : Path) (found : Json) : Disposition → State
  | .keep value =>
    if value == found then s
    else { s.put unit value with annotated := unit.set value s.annotated }
  | .block .filter c => (s.drop unit).mark unit c
  | .block .refrain c => (s.put unit .null).mark unit c
  | .block _ c =>
    let s := match c.fix? with
      | some fix => s.put unit fix
      | none => s.drop unit
    { s.mark unit c with reasks := s.reasks ++ [c] }

/-- The units that are to be removed are removed, the last one first. -/
def State.flush (s : State) : State :=
  { s with validated := s.removals.foldr Path.remove s.validated, removals := [] }

/-- The validators of an entry run on one unit. -/
def visitUnit (metadata : Metadata) (vs : List BoundValidator) (s : State) (unit : Path) :
    Except Abort State :=
  match unit.get? s.validated with
  | none => .ok s
  | some found =>
    match UnitRun.ofUnit unit.render metadata vs found with
    | .error abort => .error { abort with logs := s.logs ++ abort.logs }
    | .ok run =>
      .ok ({ s with logs := s.logs ++ run.logs }.apply unit found
        (run.disposition unit.render found))

/-- The validators of an entry run on all units that its path stands for. -/
def visitEntry (metadata : Metadata) (s : State) (entry : Entry) : Except Abort State := do
  let s ← (entry.1.resolve s.validated).foldlM (visitUnit metadata entry.2) s
  return s.flush

/-- All validators of a map run over a value (`validate_output`). -/
def run (value : Json) (map : ValidatorMap) (metadata : Metadata) : Except Abort Pass := do
  let s ← map.processingOrder.foldlM (visitEntry metadata) (State.initial value)
  return {
    validated := if s.validated.isNull then none else some s.validated
    annotated := s.annotated
    reasks := s.reasks
    corrections := s.corrections
    logs := s.logs }

/-- Whether a unit was blocked (`failed`). -/
def failed (p : Pass) : Bool := !p.corrections.isEmpty

end Pass
end Guardrail
