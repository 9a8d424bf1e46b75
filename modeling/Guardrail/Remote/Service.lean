import Guardrail.Error
import Guardrail.Remote.Answer
import Guardrail.Remote.Descriptor
import Guardrail.Remote.Payload

/-!
# Remote services

A remote service carries out calls of guards that it knows, with providers that it supports. As with
targets, whatever an answer depends on and changes is a state that is passed through.
-/

namespace Guardrail.Remote

/-- A remote service with states in `σ` (`RemoteService`). -/
structure Service (σ : Type) where
  /-- Whether the service can generate with a provider. -/
  supports : String → Bool
  /-- Carries out a call of the guard with the given name; the last argument is the key for the
  provider. There may be no answer. -/
  validate : String → Payload → Option String → σ → Except RemoteError (Option Answer) × σ
  /-- Creates a guard or replaces it. -/
  upsert : Descriptor → σ → Except RemoteError Unit × σ

namespace Service

variable {σ τ : Type}

/-- The service with its state as part of a larger one. -/
def within (v : Service σ) (get : τ → σ) (set : σ → τ → τ) : Service τ where
  supports := v.supports
  validate name payload key s :=
    let (answer, part) := v.validate name payload key (get s)
    (answer, set part s)
  upsert d s :=
    let (answer, part) := v.upsert d (get s)
    (answer, set part s)

/-- A use of a service. -/
inductive Use
  | validate (guardName : String) (payload : Payload) (key : Option String)
  | upsert (descriptor : Descriptor)

/-- What is told about a use of a service. -/
def Use.report : Use → Json
  | .validate guardName payload key =>
    .ofFields [.present "guard" (.str guardName), .present "payload" payload.toJson,
      .nullable "key" .str key]
  | .upsert descriptor => .ofFields [.present "upsert" descriptor.toJson]

/-- The service with a record of its uses. -/
def recorded (v : Service σ) : Service (σ × List Use) where
  supports := v.supports
  validate name payload key := fun (s, log) =>
    let (answer, s) := v.validate name payload key s
    (answer, s, log ++ [.validate name payload key])
  upsert d := fun (s, log) =>
    let (answer, s) := v.upsert d s
    (answer, s, log ++ [.upsert d])

/-- What is left of the script of a scripted service. -/
structure Script where
  answers : List (Except RemoteError (Option Answer))
  upserts : List (Except RemoteError Unit)

/-- A service that answers from a script, whatever it is asked. At the end of the script there is no
answer, and guards are accepted. -/
def scripted (providers : List String) : Service Script where
  supports := providers.contains
  validate _ _ _ s :=
    match s.answers with
    | [] => (.ok none, s)
    | answer :: rest => (answer, { s with answers := rest })
  upsert _ s :=
    match s.upserts with
    | [] => (.ok (), s)
    | answer :: rest => (answer, { s with upserts := rest })

end Service
end Guardrail.Remote
