import Guardrail.Error
import Guardrail.Record.Inputs
import Guardrail.Record.Outputs

/-!
# Calls

A call is the record of one use of a guard: what it was given, its rounds, and the error that ended
it, if one did. A call takes one round more than it may ask again, and its rounds are numbered from
0 without gaps. Sections 3 and 4.3 of the specification describe calls, and rounds under the name of
iterations.
-/

namespace Guardrail

/-- One round (`Iteration`): what it was given and what it produced. -/
structure Round where
  index : Nat
  inputs : Inputs
  outputs : Outputs
deriving Inhabited

namespace Round

/-- How the round ended. -/
def status (r : Round) : Status := r.outputs.status

/-- Whether the target has to correct something (`has_reasks`). -/
def hasReasks (r : Round) : Bool := !r.outputs.reasks.isEmpty

end Round

/-- The record of one use of a guard. -/
structure Call where
  id : String
  inputs : CallInputs
  rounds : List Round
  /-- The error that ended the call. -/
  exception : Option String
deriving Inhabited

namespace Call

/-- A call before its first round. -/
def start (id : String) (inputs : CallInputs) : Call := ⟨id, inputs, [], none⟩

/-- The number of times that the target may be asked again. -/
def retries (c : Call) : Nat := c.inputs.inputs.retries

/-- The greatest number of rounds (`max_iterations`). -/
def maxRounds (c : Call) : Nat := c.retries + 1

/-- The last round (`last_iteration`). -/
def last? (c : Call) : Option Round := c.rounds.getLast?

/-- The call with one more round, which must be the next one and within the budget
(`push_iteration`). -/
def push (c : Call) (r : Round) : Except Error Call :=
  if c.maxRounds ≤ c.rounds.length then
    .error (.invariant ("call " ++ c.id ++ " already holds " ++ toString c.rounds.length ++
      " iterations (num_reasks = " ++ toString c.retries ++ ")"))
  else if r.index ≠ c.rounds.length then
    .error (.invariant ("iteration index " ++ toString r.index ++ " pushed at position " ++
      toString c.rounds.length))
  else .ok { c with rounds := c.rounds ++ [r] }

/-- The call with the error that ended it (`set_exception`). -/
def fail (c : Call) (message : String) : Call := { c with exception := some message }

/-- How the call ended, or how its last round did. -/
def status (c : Call) : Status :=
  if c.exception.isSome then .error else (c.last?.map Round.status).getD .notRun

/-- The validated value of the last round (`validated_output`). -/
def validated (c : Call) : Option Json := c.last?.bind (·.outputs.validated)

/-- The text of the last round (`raw_output`). -/
def raw (c : Call) : Option String := c.last?.bind (·.outputs.raw)

/-- What the target has to correct after the last round (`reasks`). -/
def reasks (c : Call) : List Correction := (c.last?.map (·.outputs.reasks)).getD []

end Call
end Guardrail
