import Guardrail.Error
import Guardrail.Record.Outputs
import Guardrail.Target.Request
import Guardrail.Text.Quoted

/-!
# Generation targets

A target answers requests. Whatever an answer depends on besides the request, and whatever it
changes, is the target's state, which is passed through. A target may also answer in chunks; they
are all determined when the answer begins, and any of them may be a failure. Targets are the
generation clients of section 6 of the specification.
-/

namespace Guardrail

/-- Whether work is done at once or has to be awaited (`SyncLlm` and `AsyncLlm`). -/
inductive Mode
  | blocking
  | async
deriving DecidableEq, Inhabited

/-- A piece of an answer, or a failure in place of one. -/
abbrev Chunk := Except GenerationError String

/-- A generation target with states in `σ` (`LlmApi`). -/
structure Target (σ : Type) where
  name : String
  /-- Whether an answer has to be awaited. -/
  mode : Mode
  /-- The provider that a remote service may use in place of the target. -/
  provider : Option String
  /-- Answers a request. -/
  generate : Target.Request → σ → Except GenerationError Response × σ
  /-- Answers a request in chunks, if the target can do that. -/
  chunks? : Option (Target.Request → σ → Except Error (List Chunk) × σ)

namespace Target

variable {σ τ : Type}

/-- Whether an answer has to be awaited. -/
def isAsync (t : Target σ) : Bool := t.mode == .async

/-- How a target is described. -/
def describe (t : Target σ) : String :=
  (if t.isAsync then "Async" else "Sync") ++ "(" ++ Text.quoted t.name ++ ")"

/-- Answers a request in chunks, or says that the target cannot (`stream`). -/
def chunks (t : Target σ) (r : Request) (s : σ) : Except Error (List Chunk) × σ :=
  match t.chunks? with
  | some answer => answer r s
  | none => (.error (.config (.streamingUnsupported t.name)), s)

/-- The target with a record of the requests that it was asked to answer. -/
def recorded (t : Target σ) : Target (σ × List Request) where
  name := t.name
  mode := t.mode
  provider := t.provider
  generate r := fun (s, log) =>
    let (answer, s) := t.generate r s
    (answer, s, log ++ [r])
  chunks? := t.chunks?.map fun answer r (s, log) =>
    let (chunks, s) := answer r s
    (chunks, s, log ++ [r])

/-- The target with its state as part of a larger one. -/
def within (t : Target σ) (get : τ → σ) (set : σ → τ → τ) : Target τ where
  name := t.name
  mode := t.mode
  provider := t.provider
  generate r s :=
    let (answer, part) := t.generate r (get s)
    (answer, set part s)
  chunks? := t.chunks?.map fun answer r s =>
    let (chunks, part) := answer r (get s)
    (chunks, set part s)

end Target
end Guardrail
