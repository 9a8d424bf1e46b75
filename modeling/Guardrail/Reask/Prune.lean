import Guardrail.Path.Basic

/-!
# Pruning

The part of a value, or of a JSON schema, that some paths lead to. Pruning a value keeps what stands
at the end of a path whole and drops the branches that no path enters. Pruning a schema follows keys
through `properties` and indexes through `items`; it drops properties that no path enters and
strikes them from `required`. Section B6.9 of the specification asks for both.
-/

namespace Guardrail.Reask

/-- What remains of the paths whose first step is accepted (`descend`). -/
def descend (accepts : Segment → Bool) (paths : List Path) : List Path :=
  paths.filterMap fun
    | [] => none
    | s :: p => if accepts s then some p else none

/-- Whether a step leads to a member. -/
def entersKey (key : String) : Segment → Bool
  | .key k => k == key
  | .wildcard => true
  | .index _ => false

/-- Whether a step leads to an item. -/
def entersIndex (i : Nat) : Segment → Bool
  | .index j => i == j
  | .wildcard => true
  | .key _ => false

/-- Whether a step leads to some item. -/
def entersItems : Segment → Bool
  | .index _ | .wildcard => true
  | .key _ => false

/-- Whether a path ends here. -/
def endsHere (paths : List Path) : Bool := paths.any (·.isEmpty)

mutual

/-- The branches of a value that paths lead to, if there are any (`prune_value`). -/
def pruneValue (paths : List Path) : Json → Option Json
  | .obj members =>
    if endsHere paths then some (.obj members)
    else
      let kept := pruneMembers paths members
      if kept.isEmpty then none else some (.obj kept)
  | .arr items =>
    if endsHere paths then some (.arr items)
    else
      let kept := pruneItems paths 0 items
      if kept.isEmpty then none else some (.arr kept)
  | j => if endsHere paths then some j else none

/-- The members that paths enter, pruned. -/
def pruneMembers (paths : List Path) : List (String × Json) → List (String × Json)
  | [] => []
  | (key, child) :: rest =>
    match pruneValue (descend (entersKey key) paths) child with
    | some kept => (key, kept) :: pruneMembers paths rest
    | none => pruneMembers paths rest

/-- The items from an index on that paths enter, pruned. -/
def pruneItems (paths : List Path) (i : Nat) : List Json → List Json
  | [] => []
  | child :: rest =>
    match pruneValue (descend (entersIndex i) paths) child with
    | some kept => kept :: pruneItems paths (i + 1) rest
    | none => pruneItems paths (i + 1) rest

end

/-- The keys of the properties that paths enter. -/
def keptKeys (paths : List Path) (properties : Dict Json) : List String :=
  properties.keys.filter fun key => !(descend (entersKey key) paths).isEmpty

/-- The names of a list of required properties that are kept. -/
def pruneRequired (kept : List String) (names : List Json) : List Json :=
  names.filter fun name => name.str?.any kept.contains

mutual

/-- The part of a JSON schema that describes what paths lead to (`prune_schema`). -/
def pruneSchema (paths : List Path) : Json → Json
  | .obj keywords =>
    if endsHere paths then .obj keywords
    else
      let kept := ((Dict.find? keywords "properties").bind Json.members?).map (keptKeys paths)
      .obj (pruneKeywords paths kept keywords)
  | j => j

/-- The keywords of a schema, pruned; `kept` are the keys of the properties that are kept, if there
are properties. -/
def pruneKeywords (paths : List Path) (kept : Option (List String)) :
    List (String × Json) → List (String × Json)
  | [] => []
  | (keyword, content) :: rest =>
    let content' :=
      if keyword = "properties" then
        match content with
        | .obj properties => .obj (pruneProperties paths properties)
        | other => other
      else if keyword = "required" then
        match kept, content with
        | some kept, .arr names => .arr (pruneRequired kept names)
        | _, other => other
      else if keyword = "items" then
        let inner := descend entersItems paths
        if inner.isEmpty then content else pruneSchema inner content
      else content
    (keyword, content') :: pruneKeywords paths kept rest

/-- The properties that paths enter, pruned. -/
def pruneProperties (paths : List Path) : List (String × Json) → List (String × Json)
  | [] => []
  | (key, sub) :: rest =>
    let inner := descend (entersKey key) paths
    if inner.isEmpty then pruneProperties paths rest
    else (key, pruneSchema inner sub) :: pruneProperties paths rest

end

end Guardrail.Reask
