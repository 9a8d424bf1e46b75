import Guardrail.Registry

/-!
# Validators by path

The validators of a guard, grouped by the path they are attached to, in the order of attachment. Of
interchangeable validators on one path only the first is kept. Section 3 of the specification
describes the `ValidatorMap`, section B6.3 how it is made from references.
-/

namespace Guardrail

/-- A path and the validators attached to it. -/
abbrev Entry := Path × List BoundValidator

/-- Validators by path. -/
structure ValidatorMap where
  entries : List Entry

namespace ValidatorMap

/-- No validators. -/
def empty : ValidatorMap := ⟨[]⟩

/-- The validators attached to a path. -/
def get? (m : ValidatorMap) (path : Path) : Option (List BoundValidator) := m.entries.lookup path

/-- Entries with one more validator. -/
def insertIn (path : Path) (v : BoundValidator) : List Entry → List Entry
  | [] => [(path, [v])]
  | (p, vs) :: rest =>
    if p = path then (p, vs ++ [v]) :: rest else (p, vs) :: insertIn path v rest

/-- The map with one more validator (`insert`), and whether it was added: an interchangeable one may
already be attached to the path. -/
def insert (m : ValidatorMap) (path : Path) (v : BoundValidator) : ValidatorMap × Bool :=
  if ((m.get? path).getD []).any (·.sameAs v) then (m, false)
  else (⟨insertIn path v m.entries⟩, true)

/-- The map of references, resolved by a registry (`from_references`). -/
def ofReferences (registry : Registry) (refs : List Reference) :
    Except ConfigError ValidatorMap :=
  refs.zipIdx.foldlM (fun m (ref, serial) => do
    let (path, v) ← registry.resolve serial ref
    return (m.insert path v).1) empty

/-- The number of validators. -/
def count (m : ValidatorMap) : Nat := (m.entries.flatMap (·.2)).length

/-- The entries in the order in which they are validated (`processing_order`): deeper paths first,
and of equally deep paths the one that was attached to first. -/
def processingOrder (m : ValidatorMap) : List Entry :=
  m.entries.mergeSort fun a b => b.1.depth ≤ a.1.depth

/-- The metadata keys that the validators need, each once, in the order in which they come up
(`required_metadata_keys`). -/
def requiredKeys (m : ValidatorMap) : List String :=
  (m.entries.flatMap fun e => e.2.flatMap (·.validator.requiredKeys)).eraseDups

/-- The needed metadata keys that are missing. -/
def missingKeys (m : ValidatorMap) (metadata : Metadata) : List String :=
  m.requiredKeys.filter fun key => !metadata.contains key

/-- Whether the metadata has the keys that the validators need (`verify_metadata_requirements`). -/
def checkMetadata (m : ValidatorMap) (metadata : Metadata) : Except ConfigError Unit :=
  match m.missingKeys metadata with
  | [] => .ok ()
  | keys => .error (.missingMetadata keys)

end ValidatorMap
end Guardrail
