import Guardrail.Json.Basic

/-!
# Records in JSON

A record is read from an object, its fields by name, or from an array, its fields by position in the
order of declaration. An object may have more members than the record has fields; an array may not
have more items. A field left out of an object is absent; in an array the absent fields are the last
ones.

Each field is required, optional (absent or null where it has no value) or has a default. A required
or defaulted field does not take null for its absence.
-/

namespace Guardrail.Json

/-- The fields found in a JSON value. -/
structure Record where
  /-- The value given for a field. -/
  field? : String → Option Json
  /-- Whether the fields are given by name. -/
  byName : Bool

/-- The fields of a value as a record with fields of these names. -/
def record? (names : List String) : Json → Option Record
  | .obj members => some ⟨Dict.find? members, true⟩
  | .arr items =>
    if items.length ≤ names.length then
      some ⟨fun name => ((names.zip items).find? (·.1 == name)).map (·.2), false⟩
    else none
  | _ => none

namespace Record

/-- A field that must be given. -/
def required (r : Record) (name : String) (decode : Json → Option α) : Option α :=
  (r.field? name).bind decode

/-- A field that may be null, and that an object may leave out. -/
def optional (r : Record) (name : String) (decode : Json → Option α) : Option (Option α) :=
  match r.field? name with
  | none => if r.byName then some none else none
  | some .null => some none
  | some j => (decode j).map some

/-- A field that may be null or left out. -/
def omittable (r : Record) (name : String) (decode : Json → Option α) : Option (Option α) :=
  match r.field? name with
  | none | some .null => some none
  | some j => (decode j).map some

/-- A field with a default for its absence. -/
def defaulted (r : Record) (name : String) (decode : Json → Option α) (default : α) : Option α :=
  match r.field? name with
  | none => some default
  | some j => decode j

end Record

/-! ## Parts of records -/

/-- Any value. -/
def any? (j : Json) : Option Json := some j

/-- A truth value. -/
def bool? : Json → Option Bool
  | .bool b => some b
  | _ => none

/-- A list whose items are read by `decode`. -/
def list? (decode : Json → Option α) (j : Json) : Option (List α) :=
  j.items?.bind fun items => items.mapM decode

/-- The name of a case without content: a text, or an object with that one key bound to null. -/
def caseName? : Json → Option String
  | .str s => some s
  | .obj [(name, .null)] => some name
  | _ => none

/-- The name of a case without content, where an object without members is no content either. -/
def looseCaseName? : Json → Option String
  | .obj [(name, .obj [])] => some name
  | j => j.caseName?

/-! ## Writing records -/

/-- A field of a record, left out if it has no value. -/
structure Field where
  name : String
  value : Option Json

namespace Field

/-- A field that is always written. -/
def present (name : String) (value : Json) : Field := ⟨name, some value⟩

/-- A field that is null if it has no value. -/
def nullable (name : String) (encode : α → Json) (value : Option α) : Field :=
  ⟨name, some (value.elim .null encode)⟩

/-- A field that is left out if it has no value. -/
def omitted (name : String) (encode : α → Json) (value : Option α) : Field :=
  ⟨name, value.map encode⟩

end Field

/-- The object of a record's fields. -/
def ofFields (fields : List Field) : Json :=
  ofMembers (fields.filterMap fun f => f.value.map (f.name, ·))

end Guardrail.Json
