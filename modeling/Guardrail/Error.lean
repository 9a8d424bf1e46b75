/-!
# Errors

What can go wrong in a guarded call, and how it is worded. Configuration errors arise before
anything is generated; a validation error only from a validator whose policy is to abort; a
generation error comes from the target. A violated invariant is fatal: it is never recorded as the
failure of a call. The kinds of errors are those of sections 7 and B2 of the specification;
`ConfigError`, `ValidationError` and `RemoteError` have their names from there.
-/

namespace Guardrail

/-- A call or a guard that cannot be carried out as asked. -/
inductive ConfigError
  | missingTarget
  | missingPrompt
  | missingMetadata (keys : List String)
  | unsupportedOperation (what : String)
  | streamingUnsupported (target : String)
  | unknownValidator (id : String)
  | invalidArguments (id message : String)
  | invalidPath (path message : String)
deriving DecidableEq

/-- The wording of a configuration error. -/
def ConfigError.message : ConfigError → String
  | .missingTarget => "'llm_api' or 'llm_output' must be provided!"
  | .missingPrompt => "'prompt' or 'msg_history' must be provided in order to call an LLM!"
  | .missingMetadata keys => "Missing required metadata keys: " ++ String.intercalate ", " keys
  | .unsupportedOperation what => "Unsupported operation: " ++ what
  | .streamingUnsupported target =>
    "Streaming is not supported by generation target '" ++ target ++ "'"
  | .unknownValidator id => "Unknown validator: " ++ id
  | .invalidArguments id message => "Invalid arguments for validator '" ++ id ++ "': " ++ message
  | .invalidPath path message => "Invalid path '" ++ path ++ "': " ++ message

/-- The failure of a validator whose policy is to abort. -/
structure ValidationError where
  validator : String
  path : String
  message : String
deriving DecidableEq

/-- The wording of a validation error. -/
def ValidationError.text (e : ValidationError) : String :=
  "Validation failed for field with errors: " ++ e.message

/-- A failure of the generation target (`LlmError`). -/
structure GenerationError where
  message : String
  retryable : Bool
deriving DecidableEq

/-- The wording of a generation error. -/
def GenerationError.text (e : GenerationError) : String := "Generation failed: " ++ e.message

/-- Anything that can go wrong in a guarded call (`GuardError`). -/
inductive Error
  | config (cause : ConfigError)
  | validation (cause : ValidationError)
  | generation (cause : GenerationError)
  /-- The remote service could not be used. -/
  | remote (message : String)
  /-- The library contradicts itself. -/
  | invariant (message : String)
  /-- A value does not have the type asked for. -/
  | serialization (message : String)
  | runtime (message : String)
  | other (message : String)
deriving DecidableEq

namespace Error

/-- The wording of an error. -/
def message : Error → String
  | .config cause => cause.message
  | .validation cause => cause.text
  | .generation cause => cause.text
  | .remote message => "Remote service error: " ++ message
  | .invariant message => "Invariant violated: " ++ message
  | .serialization message => "Serialization error: " ++ message
  | .runtime message => "Runtime error: " ++ message
  | .other message => message

/-- Whether the error is a violated invariant (`is_fatal`). -/
def isFatal : Error → Bool
  | .invariant _ => true
  | _ => false

/-- Whether the error is one of configuration (`is_config`). -/
def isConfig : Error → Bool
  | .config _ => true
  | _ => false

end Error

/-- What can go wrong in talking to the remote service. -/
inductive RemoteError
  | http (status : Nat) (body : String)
  | request (message : String)
  | decode (message : String)
  | missingConfig (message : String)
deriving DecidableEq

namespace RemoteError

/-- The wording of an error of the remote service. -/
def message : RemoteError → String
  | .http status body => "HTTP error: " ++ toString status ++ " - " ++ body
  | .request message => "Request failed: " ++ message
  | .decode message => "Invalid response: " ++ message
  | .missingConfig message => "Missing configuration: " ++ message

/-- The error of the call that failed over it. -/
def toError (e : RemoteError) : Error := .remote e.message

end RemoteError

/-! ## Steps that may fail -/

theorem bind_eq_ok {ε α β : Type} {x : Except ε α} {f : α → Except ε β} {b : β}
    (h : x >>= f = .ok b) : ∃ a, x = .ok a ∧ f a = .ok b := by
  cases x with
  | error e => cases h
  | ok a => exact ⟨a, rfl, h⟩

theorem bind_eq_error {ε α β : Type} {x : Except ε α} {f : α → Except ε β} {e : ε}
    (h : x >>= f = .error e) : x = .error e ∨ ∃ a, x = .ok a ∧ f a = .error e := by
  cases x with
  | error cause =>
    cases h
    exact .inl rfl
  | ok a => exact .inr ⟨a, rfl, h⟩

theorem map_eq_ok {ε α β : Type} {f : α → β} {x : Except ε α} {b : β} (h : x.map f = .ok b) :
    ∃ a, x = .ok a ∧ f a = b := by
  cases x with
  | error e => cases h
  | ok a => exact ⟨a, rfl, Except.ok.inj h⟩

end Guardrail
