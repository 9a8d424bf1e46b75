import Guardrail.Proofs.Dict.Lookup
import Guardrail.Proofs.Pass.Annotated
import Guardrail.Proofs.Path.Text
import Guardrail.Proofs.Reask.Branches
import Guardrail.Reask.Inputs

/-!
# What the schema of a prompt describes

A prompt that asks field by field for corrections shows the schema pruned along their paths, so that
what has to be corrected is described and little else. Corrections have the text of their paths
only. Where the text cannot be read back the path is passed over, and unless the other paths keep
it, the description of the unit is missing from the prompt that asks for it.

Results:
* `describes`: whether paths keep the description of a unit.
* `get?_pruneSchema`: what pruning does one step down.
* `keeps_iff_describes`: the description of a unit stays in every schema exactly if the paths keep
  it.
* `keeps_blocked_iff`: what the prompt describes of the units that a pass blocked.
-/

namespace Guardrail

/-- Whether a step leads to a member. -/
def Segment.isKey : Segment → Bool
  | .key _ => true
  | .index _ | .wildcard => false

/-- Where a schema describes what a step leads to. All items have one description. -/
def Segment.inSchema : Segment → Path
  | .key k => [.key "properties", .key k]
  | .index _ | .wildcard => [.key "items"]

/-- Where a schema describes what stands at a path. -/
def Path.inSchema (p : Path) : Path := p.flatMap Segment.inSchema

namespace Reask

open Guardrail.Path (get? get?_append)

/-- What remains of the paths that enter the description of what a step leads to. -/
def following (paths : List Path) : Segment → List Path
  | .key k => descend (entersKey k) paths
  | .index _ | .wildcard => descend entersItems paths

/-- Whether a schema that is pruned along some paths keeps its description of a unit. A path that
ends on the way keeps it. Where no path goes on, a property is dropped, while the description of
items stays as it is. -/
def describes (paths : List Path) : Path → Bool
  | [] => endsHere paths
  | s :: u => endsHere paths ||
      if (following paths s).isEmpty then !s.isKey else describes (following paths s) u

variable {paths : List Path} {schema sub : Json} {u p : Path} {s : Segment}

/-! ## One step down -/

theorem pruneSchema_of_endsHere (h : endsHere paths = true) :
    pruneSchema paths schema = schema := by
  cases schema with
  | obj keywords => rw [pruneSchema, if_pos h]
  | null | bool | num | str | arr => rfl

/-- The properties that paths enter are kept, in order, and pruned. -/
theorem pruneProperties_eq (paths : List Path) (properties : List (String × Json)) :
    pruneProperties paths properties =
      (properties.filter fun e => !(following paths (.key e.1)).isEmpty).map fun e =>
        (e.1, pruneSchema (following paths (.key e.1)) e.2) := by
  induction properties with
  | nil => rw [pruneProperties, List.filter_nil, List.map_nil]
  | cons e rest ih =>
    obtain ⟨key, sub⟩ := e
    have hstep : pruneProperties paths ((key, sub) :: rest) =
        if (following paths (.key key)).isEmpty then pruneProperties paths rest
        else (key, pruneSchema (following paths (.key key)) sub) :: pruneProperties paths rest := by
      rw [pruneProperties]
      rfl
    rw [hstep, ih]
    cases hinner : (following paths (.key key)).isEmpty <;> simp [hinner]

/-- A property is described as before, pruned, if a path enters it. -/
theorem find?_pruneProperties (paths : List Path) (properties : List (String × Json)) (k : String) :
    Dict.find? (pruneProperties paths properties) k =
      if (following paths (.key k)).isEmpty then none
      else (Dict.find? properties k).map (pruneSchema (following paths (.key k))) := by
  rw [pruneProperties_eq, Dict.find?_map _ fun key => pruneSchema (following paths (.key key)),
    Dict.find?_filter properties fun key => !(following paths (.key key)).isEmpty]
  cases (following paths (.key k)).isEmpty <;> rfl

/-- The content of `properties` in a pruned schema. -/
def prunedProperties (paths : List Path) : Json → Json
  | .obj properties => .obj (pruneProperties paths properties)
  | other => other

/-- The content of `required` in a pruned schema, in which some properties are kept. -/
def prunedRequired (kept : Option (List String)) (content : Json) : Json :=
  match kept, content with
  | some kept, .arr names => .arr (pruneRequired kept names)
  | _, other => other

/-- The content of `items` in a pruned schema. -/
def prunedItems (paths : List Path) (content : Json) : Json :=
  if (descend entersItems paths).isEmpty then content
  else pruneSchema (descend entersItems paths) content

/-- The content of a keyword in a pruned schema. -/
def prunedContent (paths : List Path) (kept : Option (List String)) (keyword : String)
    (content : Json) : Json :=
  if keyword = "properties" then prunedProperties paths content
  else if keyword = "required" then prunedRequired kept content
  else if keyword = "items" then prunedItems paths content
  else content

/-- Keywords keep their order, and three of them are pruned, each in its way. -/
theorem pruneKeywords_eq_map (paths : List Path) (kept : Option (List String))
    (keywords : List (String × Json)) :
    pruneKeywords paths kept keywords =
      keywords.map fun e => (e.1, prunedContent paths kept e.1 e.2) := by
  induction keywords with
  | nil => rw [pruneKeywords, List.map_nil]
  | cons e rest ih =>
    obtain ⟨keyword, content⟩ := e
    rw [pruneKeywords.eq_def paths kept (_ :: _), List.map_cons, ← ih]
    rfl

theorem find?_pruneKeywords (paths : List Path) (kept : Option (List String))
    (keywords : List (String × Json)) (keyword : String) :
    Dict.find? (pruneKeywords paths kept keywords) keyword =
      (Dict.find? keywords keyword).map (prunedContent paths kept keyword) := by
  rw [pruneKeywords_eq_map, Dict.find?_map keywords (prunedContent paths kept)]

/-- The content of a keyword of a schema. -/
theorem get?_keyword (keyword : String) (u : Path) (keywords : List (String × Json)) :
    get? (.key keyword :: u) (.obj keywords) = (Dict.find? keywords keyword).bind (get? u) := rfl

theorem get?_key (k : String) (members : List (String × Json)) :
    get? [.key k] (.obj members) = Dict.find? members k := by
  simp [get?, Segment.child?]

/-- A pruned schema drops the description of a key that no path enters. -/
theorem get?_pruneSchema_key (h : endsHere paths = false) (schema : Json) (k : String) :
    get? (Segment.key k).inSchema (pruneSchema paths schema) =
      if (following paths (.key k)).isEmpty then none
      else (get? (Segment.key k).inSchema schema).map
        (pruneSchema (following paths (.key k))) := by
  have hproperty : ∀ content, get? [.key k] (prunedProperties paths content) =
      if (following paths (.key k)).isEmpty then none
      else (get? [.key k] content).map (pruneSchema (following paths (.key k))) := by
    intro content
    cases content with
    | obj properties => rw [prunedProperties, get?_key, get?_key, find?_pruneProperties]
    | null | bool | num | str | arr => split <;> rfl
  cases schema with
  | obj keywords =>
    rw [pruneSchema, h, if_neg Bool.false_ne_true]
    unfold Segment.inSchema
    rw [get?_keyword, get?_keyword, find?_pruneKeywords]
    cases Dict.find? keywords "properties" with
    | none => split <;> rfl
    | some content => exact hproperty content
  | null | bool | num | str | arr => split <;> rfl

/-- A pruned schema leaves the description of items as it is that no path enters. -/
theorem get?_pruneSchema_items (h : endsHere paths = false) (schema : Json) :
    get? [.key "items"] (pruneSchema paths schema) =
      (get? [.key "items"] schema).map (prunedItems paths) := by
  cases schema with
  | obj keywords =>
    rw [pruneSchema, h, if_neg Bool.false_ne_true, get?_key, get?_key, find?_pruneKeywords]
    rfl
  | null | bool | num | str | arr => rfl

/-- What a pruned schema says of what a step leads to. -/
theorem get?_pruneSchema (h : endsHere paths = false) (s : Segment) (schema : Json) :
    get? s.inSchema (pruneSchema paths schema) =
      if (following paths s).isEmpty then if s.isKey then none else get? s.inSchema schema
      else (get? s.inSchema schema).map (pruneSchema (following paths s)) := by
  have hitems : get? [.key "items"] (pruneSchema paths schema) =
      if (descend entersItems paths).isEmpty then get? [.key "items"] schema
      else (get? [.key "items"] schema).map (pruneSchema (descend entersItems paths)) := by
    rw [get?_pruneSchema_items h]
    unfold prunedItems
    cases get? [.key "items"] schema <;> split <;> rfl
  cases s with
  | key k => exact get?_pruneSchema_key h schema k
  | index i => exact hitems
  | wildcard => exact hitems

/-! ## All the way -/

theorem get?_inSchema_cons (s : Segment) (u : Path) (schema : Json) :
    get? (Path.inSchema (s :: u)) schema = (get? s.inSchema schema).bind (get? u.inSchema) :=
  get?_append

/-- Paths keep the description of a unit in every schema. -/
theorem keeps_of_describes (h : describes paths u = true)
    (hsub : get? u.inSchema schema = some sub) :
    get? u.inSchema (pruneSchema paths schema) = some sub := by
  induction u generalizing paths schema with
  | nil => rwa [pruneSchema_of_endsHere h]
  | cons s u ih =>
    cases hends : endsHere paths with
    | true => rwa [pruneSchema_of_endsHere hends]
    | false =>
      rw [describes, hends, Bool.false_or] at h
      rw [get?_inSchema_cons] at hsub ⊢
      rw [get?_pruneSchema hends]
      split at h
      · next hinner =>
        rw [if_pos hinner, if_neg (by simpa using h)]
        exact hsub
      · next hinner =>
        obtain ⟨content, hcontent, hrest⟩ := Option.bind_eq_some_iff.1 hsub
        rw [if_neg hinner, hcontent]
        exact ih h hrest

/-- A schema for a unit in which nothing is left as it is that is pruned. -/
def brittle : Path → Json
  | [] => .obj [("properties", .obj []), ("required", .arr [.str ""])]
  | .key k :: u => .obj [("properties", .obj [(k, brittle u)])]
  | .index _ :: u | .wildcard :: u => .obj [("items", brittle u)]

theorem get?_brittle_cons (s : Segment) (u : Path) :
    get? s.inSchema (brittle (s :: u)) = some (brittle u) := by
  cases s <;> simp [brittle, Segment.inSchema, get?, Segment.child?, Dict.find?]

theorem get?_brittle (u : Path) : get? u.inSchema (brittle u) = some (brittle []) := by
  induction u with
  | nil => rfl
  | cons s u ih =>
    rw [get?_inSchema_cons, get?_brittle_cons]
    exact ih

/-- If paths do not keep the description of a unit, some schema loses it. -/
theorem lost_of_not_describes (h : describes paths u = false) :
    get? u.inSchema (pruneSchema paths (brittle u)) ≠ some (brittle []) := by
  induction u generalizing paths with
  | nil =>
    intro hkept
    have hends : ¬ endsHere paths = true := by simpa [describes] using h
    have hpruned := Option.some.inj hkept
    rw [brittle, pruneSchema, if_neg hends] at hpruned
    simp [pruneKeywords, pruneProperties, Dict.find?, Json.members?, keptKeys, Dict.keys,
      pruneRequired, Json.str?] at hpruned
  | cons s u ih =>
    obtain ⟨hends, hstep⟩ := Bool.or_eq_false_iff.1 h
    rw [get?_inSchema_cons, get?_pruneSchema hends, get?_brittle_cons]
    split at hstep
    · next hinner =>
      rw [if_pos hinner, if_pos (by simpa using hstep)]
      exact Option.some_ne_none _ ∘ Eq.symm
    · next hinner =>
      rw [if_neg hinner]
      exact ih hstep

/-- The description of a unit stays in every schema exactly if the paths keep it. -/
theorem keeps_iff_describes :
    (∀ schema sub, get? u.inSchema schema = some sub →
        get? u.inSchema (pruneSchema paths schema) = some sub) ↔ describes paths u = true := by
  constructor
  · intro hkeeps
    cases h : describes paths u with
    | true => rfl
    | false => exact absurd (hkeeps _ _ (get?_brittle u)) (lost_of_not_describes h)
  · exact fun h schema sub hsub => keeps_of_describes h hsub

/-! ## Units among the paths -/

theorem mem_following (h : s :: p ∈ paths) : p ∈ following paths s := by
  cases s with
  | key k => exact mem_descend.2 ⟨_, by simp [entersKey], h⟩
  | index i => exact mem_descend.2 ⟨_, rfl, h⟩
  | wildcard => exact mem_descend.2 ⟨_, rfl, h⟩

/-- A path keeps the description of its own end and of all below. -/
theorem describes_of_mem (h : p ∈ paths) (hp : p <+: u) : describes paths u = true := by
  induction u generalizing paths p with
  | nil =>
    obtain rfl := List.prefix_nil.1 hp
    exact endsHere_iff.2 h
  | cons s u ih =>
    rw [describes, Bool.or_eq_true]
    cases p with
    | nil => exact .inl (endsHere_iff.2 h)
    | cons t p =>
      obtain ⟨rfl, hrest⟩ := List.cons_prefix_cons.1 hp
      have hmem := mem_following h
      rw [if_neg (by simpa using List.ne_nil_of_mem hmem)]
      exact .inr (ih hmem hrest)

/-! ## The prompt after a pass -/

section Prompt

variable {metadata : Metadata} {value : Json} {map : ValidatorMap} {pass : Pass}

theorem find?_outputSchema_params (q : Request) (base : Params) :
    Dict.find? (q.params base) "output_schema" = some (.str q.outputSchema) := by
  unfold Request.params
  rw [Dict.find?_insert_of_ne _ _ (by decide), Dict.find?_insert_self]

theorem outputSchema_of_isStructured {schema : Schema} (h : schema.shape.isStructured = true)
    (corrections : List Correction) (annotated : Json) :
    let q : Request := ⟨schema, corrections, annotated, false⟩
    q.outputSchema = { schema with document := pruneSchema q.paths schema.document }.render := by
  unfold Request.outputSchema
  exact if_pos (by simpa using h)

/-- The paths that are read back from the corrections of a pass. -/
def reread (metadata : Metadata) (value : Json) (map : ValidatorMap) : List Path :=
  (Pass.blockedUnits metadata value map).filterMap fun u => (Path.parse u.render).toOption

theorem paths_of_run (hv : value.WellFormed) (h : Pass.run value map metadata = .ok pass)
    (schema : Schema) (annotated : Json) (fullSchema : Bool) :
    (Request.mk schema pass.corrections annotated fullSchema).paths =
      reread metadata value map := by
  have hpaths := congrArg (List.filterMap fun text => (Path.parse text).toOption)
    (Pass.map_path_corrections hv h)
  rwa [List.filterMap_map, List.filterMap_map] at hpaths

theorem mem_reread {u : Path} (hu : u ∈ Pass.blockedUnits metadata value map)
    (hread : u.Readable) : u ∈ reread metadata value map :=
  List.mem_filterMap.2 ⟨u, hu, by rw [Path.parse_render hread]; rfl⟩

/-- After a pass, the prompt that asks field by field for corrections shows the schema pruned along
the paths that are read back from the corrections. For every unit that the pass blocked, the
description of the unit is there unchanged, whatever the schema, exactly if these paths keep it; a
unit whose keys contain no closing bracket keeps its own. -/
theorem keeps_blocked_iff (hv : value.WellFormed) (h : Pass.run value map metadata = .ok pass) :
    pass.corrections.map (·.path) = (Pass.blockedUnits metadata value map).map Path.render ∧
      (∀ (previous : Inputs) (templates : Templates) (schema : Schema),
        schema.shape.isStructured →
        let q : Request := ⟨schema, pass.corrections, pass.annotated, false⟩
        (inputs previous q templates).prompt =
            some (settled (templates.prompt.getD jsonPrompt) (q.params previous.params)) ∧
          Dict.find? (q.params previous.params) "output_schema" = some (.str
            { schema with
              document := pruneSchema (reread metadata value map) schema.document }.render)) ∧
      ∀ u ∈ Pass.blockedUnits metadata value map,
        ((∀ schema sub, get? u.inSchema schema = some sub →
            get? u.inSchema (pruneSchema (reread metadata value map) schema) = some sub) ↔
          describes (reread metadata value map) u = true) ∧
        (u.Readable → describes (reread metadata value map) u = true) := by
  refine ⟨Pass.map_path_corrections hv h, fun previous templates schema hschema => ?_,
    fun u hu => ⟨keeps_iff_describes, fun hread => ?_⟩⟩
  · constructor
    · show some (settled (templates.prompt.getD (if schema.shape.isStructured then jsonPrompt
        else textPrompt)) _) = _
      rw [if_pos hschema]
    · rw [find?_outputSchema_params, outputSchema_of_isStructured hschema, paths_of_run hv h]
  · exact describes_of_mem (mem_reread hu hread) (List.prefix_refl u)

/-- A property with a blank in its name stays where another one goes. -/
theorem keeps_blocked_iff_of_blank :
    let value := Json.obj [("a b", .str "x"), ("c", .str "ok")]
    let map : ValidatorMap := ⟨[([.wildcard], [⟨.choices [.str "ok"], .reask⟩])]⟩
    let schema := Json.obj [("properties", .obj [("a b", .bool true), ("c", .bool true)])]
    value.WellFormed ∧ ∃ pass, Pass.run value map [] = .ok pass ∧
      pass.corrections.map (·.path) = ["$['a b']"] ∧
      get? (Path.inSchema [.key "a b"]) (pruneSchema (reread [] value map) schema) =
        some (.bool true) := by
  intro value map schema
  have hsort : map.processingOrder = map.entries := List.mergeSort_of_pairwise (by decide)
  have hv : value.WellFormed := ⟨by decide, trivial, trivial, trivial⟩
  have hrun : ∃ pass, Pass.run value map [] = .ok pass := by
    unfold Pass.run
    rw [hsort]
    exact ⟨_, rfl⟩
  obtain ⟨pass, hpass⟩ := hrun
  have hunits : Pass.blockedUnits [] value map = [[.key "a b"]] := by
    unfold Pass.blockedUnits
    rw [hsort]
    rfl
  have hmem : [.key "a b"] ∈ Pass.blockedUnits [] value map := by
    rw [hunits]
    exact List.mem_singleton_self _
  obtain ⟨hpaths, -, hall⟩ := keeps_blocked_iff hv hpass
  obtain ⟨hiff, hread⟩ := hall _ hmem
  refine ⟨hv, pass, hpass, ?_, hiff.2 (hread (by decide)) schema _ rfl⟩
  rw [hpaths, hunits]
  rfl

/-- A property with a closing bracket in its name goes, though it has to be corrected. -/
theorem lost_of_closing_bracket :
    let value := Json.obj [("a]b", .str "x")]
    let map : ValidatorMap := ⟨[([.key "a]b"], [⟨.choices [.str "ok"], .reask⟩])]⟩
    let schema : Schema :=
      ⟨.object, .obj [("properties", .obj [("a]b", .obj [("type", .str "string")])])], none⟩
    value.WellFormed ∧ ∃ pass, Pass.run value map [] = .ok pass ∧
      pass.corrections.map (·.path) = [Path.render [.key "a]b"]] ∧
      let q : Request := ⟨schema, pass.corrections, pass.annotated, false⟩
      get? (Path.inSchema [.key "a]b"]) schema.document = some (.obj [("type", .str "string")]) ∧
      get? (Path.inSchema [.key "a]b"]) (pruneSchema q.paths schema.document) = none ∧
      q.outputSchema = { schema with document := .obj [("properties", .obj [])] }.render := by
  intro value map schema
  have hsort : map.processingOrder = map.entries := List.mergeSort_of_pairwise (by decide)
  have hv : value.WellFormed := ⟨by decide, trivial, trivial⟩
  have hrun : ∃ pass, Pass.run value map [] = .ok pass := by
    unfold Pass.run
    rw [hsort]
    exact ⟨_, rfl⟩
  obtain ⟨pass, hpass⟩ := hrun
  have hunits : Pass.blockedUnits [] value map = [[.key "a]b"]] := by
    unfold Pass.blockedUnits
    rw [hsort]
    rfl
  -- the text of the only unit is not the text of a path
  have hsteps : Path.segments? ['[', '\'', 'a', ']', 'b', '\'', ']'] = .error .bracketContent := by
    unfold Path.segments?
    rfl
  have hparse : (Path.parse (Path.render [.key "a]b"])).toOption = none := by
    have htext : (Path.render [.key "a]b"]).toList =
        '$' :: ['[', '\'', 'a', ']', 'b', '\'', ']'] := rfl
    rw [Path.parse, htext, Path.ofChars?_cons rfl rfl, hsteps]
    rfl
  have hreread : reread [] value map = [] := by
    rw [reread, hunits, List.filterMap_cons, hparse, List.filterMap_nil]
  refine ⟨hv, pass, hpass, ?_, rfl, ?_, ?_⟩
  · rw [Pass.map_path_corrections hv hpass, hunits, List.map_singleton]
  · rw [paths_of_run hv hpass, hreread]
    rfl
  · rw [outputSchema_of_isStructured rfl, paths_of_run hv hpass, hreread]
    rfl

end Prompt

end Reask
end Guardrail
