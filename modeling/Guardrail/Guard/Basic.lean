import Guardrail.Defaults
import Guardrail.Guard.Route

/-!
# Guards

A guard holds a schema, the validators for its outputs and what calls fall back on. It is built from
a blueprint, whose references to validators a registry resolves; a guard for text may get more
validators later. Beside its validators a guard keeps the references that describe them. Sections
B6.1 and B6.2 of the specification describe how guards are built and extended.
-/

namespace Guardrail

/-- A guard. -/
structure Guard (σ : Type) where
  id : String
  name : String
  description : Option String
  schema : Schema
  references : List Reference
  validators : ValidatorMap
  defaults : Defaults
  /-- How often the target may be asked again, if a call does not say so. -/
  retries : Option Nat
  /-- Whether outputs belong to a type of the caller. -/
  ofModel : Bool
  service : Option (Remote.Service σ)

/-- What a guard is built from (`GuardBuilder`). -/
structure Blueprint (σ : Type) where
  /-- The id, if it is not to be a fresh one. -/
  id : Option String
  /-- The name, if it is not to be made from the id. -/
  name : Option String
  description : Option String
  schema : Schema
  references : List Reference
  registry : Registry
  defaults : Defaults
  retries : Option Nat
  ofModel : Bool
  service : Option (Remote.Service σ)

variable {σ : Type}

namespace Blueprint

/-- The blueprint of a guard for texts. -/
def string : Blueprint σ where
  id := none
  name := none
  description := none
  schema := .string
  references := []
  registry := .builtins
  defaults := .none
  retries := none
  ofModel := false
  service := none

/-- The guard of a blueprint (`build`). -/
def build (b : Blueprint σ) (freshId : String) : Except ConfigError (Guard σ) := do
  let references ← b.references.mapM Reference.normalize
  let validators ← ValidatorMap.ofReferences b.registry references
  let id := b.id.getD freshId
  return {
    id
    name := b.name.getD ("gr-" ++ id)
    description := b.description
    schema := b.schema
    references
    validators
    defaults := b.defaults
    retries := b.retries
    ofModel := b.ofModel
    service := b.service }

end Blueprint

namespace Guard

/-- The reference that describes a validator attached to a path. -/
def referenceOf (path : Path) (v : BoundValidator) : Reference :=
  ⟨v.name, path.render, v.policy, v.validator.args⟩

/-- The guard with one more validator (`attach`), unless an interchangeable one is attached to the
path. Only guards for text take validators in this way. -/
def attach (g : Guard σ) (target : String) (v : BoundValidator) : Except ConfigError (Guard σ) :=
  if g.schema.shape ≠ .string then
    .error (.unsupportedOperation "use_validator is only supported for string output types")
  else do
    let path ← Path.parse target
    let (validators, added) := g.validators.insert path v
    return { g with
      validators
      references := if added then g.references ++ [referenceOf path v] else g.references }

/-- The guard with more validators on one path (`use_many`), one after the other. The first that
cannot be attached ends it, and those before it stay. -/
def attachAll (g : Guard σ) (target : String) :
    List BoundValidator → Except ConfigError Unit × Guard σ
  | [] => (.ok (), g)
  | v :: rest =>
    match g.attach target v with
    | .ok g => attachAll g target rest
    | .error e => (.error e, g)

/-- What the remote service is told about the guard (`descriptor`). -/
def descriptor (g : Guard σ) : Remote.Descriptor where
  id := g.id
  name := g.name
  description := g.description
  references := g.references
  schema := g.schema

/-- How a guard is shown. -/
def render (g : Guard σ) : String :=
  let validators := g.validators.entries.flatMap fun (path, vs) =>
    vs.map fun v => path.render ++ ": " ++ v.render
  "Guard(name=" ++ g.name ++ ", output_type=" ++ g.schema.shape.name ++ ", validators=[" ++
    String.intercalate ", " validators ++ "])"

end Guard
end Guardrail
