import Guardrail.Proofs.Reask.Described

/-!
# What a pruned schema is made of

A schema that is pruned along concrete paths still describes the ends of all these paths as before.
On the way there it is narrowed: at each place that a path leads through, before any path has ended,
the properties that no path continues through are dropped, with their names in `required`, and the
rest of the place is as it was. All items of a list have one description, so indexes play no part in
where a path leads.

Results:
* `get?_pruneSchema_beyond`: at a place on the way stands its description, pruned along what remains
  of the paths.
* `narrowed_pruneSchema`: how an object of a schema is narrowed.
* `pruneSchema_law`: the ends of the paths, and all the places on the way.
-/

namespace Guardrail

/-- A step with its index left out. -/
def Segment.unindexed : Segment → Segment
  | .key k => .key k
  | .index _ | .wildcard => .wildcard

/-- A path with its indexes left out. -/
def Path.unindexed (p : Path) : Path := p.map Segment.unindexed

namespace Reask

open Guardrail.Path (get?)

/-! ## Paths beyond a place -/

/-- What remains of a path that leads through a place, or ends there. -/
def after? (u p : Path) : Option Path :=
  if u.unindexed.isPrefixOf p.unindexed then some (p.drop u.length) else none

/-- What remains of the paths that lead through a place, or end there. -/
def beyond (paths : List Path) (u : Path) : List Path := paths.filterMap (after? u)

/-- Whether a path leads through a place, or ends there. -/
def continues (paths : List Path) (u : Path) : Bool :=
  paths.any fun p => u.unindexed.isPrefixOf p.unindexed

variable {paths : List Path} {schema : Json} {s t : Segment} {u w p r : Path} {node : Dict Json}

theorem after?_nil (p : Path) : after? [] p = some p := by
  simp [after?, Path.unindexed]

theorem after?_cons_nil : after? (s :: u) [] = none := by
  simp [after?, Path.unindexed]

theorem after?_cons_cons :
    after? (s :: u) (t :: p) = if s.unindexed = t.unindexed then after? u p else none := by
  by_cases hst : s.unindexed = t.unindexed
  · simp [after?, Path.unindexed, hst]
  · simp [after?, Path.unindexed, List.isPrefixOf, hst]

theorem after?_append : after? (u ++ w) p = (after? u p).bind (after? w) := by
  induction u generalizing p with
  | nil => simp [after?_nil]
  | cons s u ih =>
    cases p with
    | nil => simp [after?_cons_nil]
    | cons t p =>
      rw [List.cons_append, after?_cons_cons, after?_cons_cons, ih]
      split
      · rfl
      · rfl

theorem unindexed_append (u w : Path) :
    Path.unindexed (u ++ w) = u.unindexed ++ w.unindexed := List.map_append

theorem length_unindexed (p : Path) : p.unindexed.length = p.length := List.length_map _

theorem after?_eq_some_iff :
    after? u p = some r ↔ ∃ v, p = v ++ r ∧ v.unindexed = u.unindexed := by
  constructor
  · intro h
    unfold after? at h
    split at h
    · next hstart =>
      obtain rfl := Option.some.inj h
      refine ⟨p.take u.length, (List.take_append_drop _ _).symm, ?_⟩
      have htake := List.prefix_iff_eq_take.1 (List.isPrefixOf_iff_prefix.1 hstart)
      rw [length_unindexed] at htake
      rw [htake]
      exact List.map_take
    · cases h
  · rintro ⟨v, rfl, heq⟩
    have hlength : v.length = u.length := by
      rw [← length_unindexed v, heq, length_unindexed]
    have hstart : u.unindexed.isPrefixOf (Path.unindexed (v ++ r)) = true := by
      rw [unindexed_append, heq]
      simp
    rw [after?, if_pos hstart, ← hlength, List.drop_left]

@[simp] theorem beyond_nil (paths : List Path) : beyond paths [] = paths := by
  have hself : after? [] = some := funext after?_nil
  rw [beyond, hself, List.filterMap_some]

theorem beyond_append (paths : List Path) (u w : Path) :
    beyond paths (u ++ w) = beyond (beyond paths u) w := by
  unfold beyond
  rw [List.filterMap_filterMap]
  apply List.filterMap_congr
  intro p _
  exact after?_append

theorem isEmpty_beyond (paths : List Path) (u : Path) :
    (beyond paths u).isEmpty = !continues paths u := by
  unfold beyond continues
  induction paths with
  | nil => rfl
  | cons p paths ih =>
    rw [List.filterMap_cons, List.any_cons, after?]
    split
    · next hnone =>
      split at hnone
      · cases hnone
      · next hstart => simp [ih, hstart]
    · next r hsome =>
      split at hsome
      · next hstart => simp [hstart]
      · cases hsome

theorem isConcrete_of_mem_beyond (hpaths : ∀ p ∈ paths, p.isConcrete = true)
    (h : r ∈ beyond paths u) : r.isConcrete = true := by
  obtain ⟨p, hp, hafter⟩ := List.mem_filterMap.1 h
  obtain ⟨v, rfl, -⟩ := after?_eq_some_iff.1 hafter
  have hconcrete := hpaths _ hp
  simp only [Path.isConcrete, Bool.not_eq_true', List.contains_eq_mem, List.mem_append,
    decide_eq_false_iff_not, not_or] at hconcrete ⊢
  exact hconcrete.2

/-- Where no path ends on the way to a place, none ends on the way from one to the other. -/
theorem not_prefix_of_mem_beyond (h : ∀ p ∈ paths, ¬ p.unindexed <+: Path.unindexed (u ++ w))
    (hr : r ∈ beyond paths u) : ¬ r.unindexed <+: w.unindexed := by
  obtain ⟨p, hp, hafter⟩ := List.mem_filterMap.1 hr
  obtain ⟨v, rfl, heq⟩ := after?_eq_some_iff.1 hafter
  intro hstart
  apply h _ hp
  rw [unindexed_append, unindexed_append, heq]
  exact List.prefix_append_right_inj _ |>.2 hstart

/-- Of concrete paths exactly those that lead through a step enter its description. -/
theorem following_eq_beyond (hpaths : ∀ p ∈ paths, p.isConcrete = true) (s : Segment) :
    following paths s = beyond paths [s] := by
  have hdescend : ∀ accepts : Segment → Bool,
      (∀ t : Segment, t ≠ .wildcard → (accepts t = true ↔ s.unindexed = t.unindexed)) →
        descend accepts paths = beyond paths [s] := by
    intro accepts haccepts
    apply List.filterMap_congr
    intro p hp
    cases p with
    | nil => rw [after?_cons_nil]
    | cons t p =>
      have ht : t ≠ .wildcard := by
        rintro rfl
        have hconcrete := hpaths _ hp
        simp [Path.isConcrete] at hconcrete
      rw [after?_cons_cons, after?_nil]
      simp only [haccepts t ht]
  have hitems : s.unindexed = .wildcard → descend entersItems paths = beyond paths [s] := by
    intro hs
    apply hdescend
    intro t ht
    rw [hs]
    cases t with
    | key l => simp [entersItems, Segment.unindexed]
    | index i => simp [entersItems, Segment.unindexed]
    | wildcard => exact absurd rfl ht
  cases s with
  | key k =>
    apply hdescend
    intro t ht
    cases t with
    | key l => simp [entersKey, Segment.unindexed, @eq_comm _ l]
    | index i => simp [entersKey, Segment.unindexed]
    | wildcard => exact absurd rfl ht
  | index i => exact hitems rfl
  | wildcard => exact hitems rfl

/-! ## Places on the way -/

theorem endsHere_eq_false (h : ∀ p ∈ paths, ¬ p.unindexed <+: u.unindexed) :
    endsHere paths = false := by
  rw [Bool.eq_false_iff]
  intro hends
  exact h [] (endsHere_iff.1 hends) List.nil_prefix

/-- At a place on the way stands its description, pruned along what remains of the paths. -/
theorem get?_pruneSchema_beyond (hpaths : ∀ p ∈ paths, p.isConcrete = true)
    (hway : continues paths u = true) (hends : ∀ p ∈ paths, ¬ p.unindexed <+: u.unindexed)
    (schema : Json) :
    get? u.inSchema (pruneSchema paths schema) =
      (get? u.inSchema schema).map (pruneSchema (beyond paths u)) := by
  induction u generalizing paths schema with
  | nil => simp [Path.inSchema, get?]
  | cons s u ih =>
    have hstep : beyond paths (s :: u) = beyond (beyond paths [s]) u := beyond_append paths [s] u
    have hway' : continues (beyond paths [s]) u = true := by
      rw [← Bool.not_eq_false', ← isEmpty_beyond, ← hstep, isEmpty_beyond, hway, Bool.not_true]
    have hnonempty : ¬ (beyond paths [s]).isEmpty = true := by
      intro hempty
      rw [List.isEmpty_iff.1 hempty] at hway'
      cases hway'
    have hends' : ∀ r ∈ beyond paths [s], ¬ Path.unindexed r <+: Path.unindexed u := by
      intro r hr
      exact not_prefix_of_mem_beyond hends hr
    have hconcrete : ∀ r ∈ beyond paths [s], r.isConcrete = true := by
      intro r hr
      exact isConcrete_of_mem_beyond hpaths hr
    rw [get?_inSchema_cons, get?_inSchema_cons, get?_pruneSchema (endsHere_eq_false hends),
      following_eq_beyond hpaths, if_neg hnonempty, hstep]
    cases get? s.inSchema schema with
    | none => rfl
    | some sub => exact ih hconcrete hway' hends' sub

/-! ## One object of a schema -/

section Node

variable {rs : List Path} {kept : Option (List String)}

/-- The keys of the properties that are kept in an object of a schema, if it has properties. -/
def keptIn (rs : List Path) (node : Dict Json) : Option (List String) :=
  ((node.find? "properties").bind Json.members?).map (keptKeys rs)

theorem pruneSchema_obj (h : endsHere rs = false) (node : Dict Json) :
    pruneSchema rs (.obj node) = .obj (pruneKeywords rs (keptIn rs node) node) := by
  rw [pruneSchema, h, if_neg Bool.false_ne_true]
  rfl

theorem keptIn_of_obj {properties : Dict Json}
    (h : node.find? "properties" = some (.obj properties)) :
    keptIn rs node = some (keptKeys rs properties) := by
  simp [keptIn, h, Json.members?]

theorem keptIn_eq_none
    (h : ∀ properties : Dict Json, node.find? "properties" ≠ some (.obj properties)) :
    keptIn rs node = none := by
  rw [keptIn, Option.map_eq_none_iff, Option.bind_eq_none_iff]
  intro content hcontent
  cases content with
  | obj properties => exact absurd hcontent (h properties)
  | null | bool | num | str | arr => rfl

theorem contains_keptKeys (rs : List Path) (properties : Dict Json) (k : String) :
    (keptKeys rs properties).contains k =
      (properties.contains k && !(following rs (.key k)).isEmpty) := by
  rw [Bool.eq_iff_iff, List.contains_iff_mem, keptKeys, List.mem_filter, Bool.and_eq_true,
    Dict.mem_keys_iff]
  rfl

theorem find?_properties_of_obj {properties : Dict Json}
    (h : node.find? "properties" = some (.obj properties)) :
    Dict.find? (pruneKeywords rs kept node) "properties" =
      some (.obj (pruneProperties rs properties)) := by
  rw [find?_pruneKeywords, h]
  rfl

theorem find?_properties_eq_self
    (h : ∀ properties : Dict Json, node.find? "properties" ≠ some (.obj properties)) :
    Dict.find? (pruneKeywords rs kept node) "properties" = node.find? "properties" := by
  rw [find?_pruneKeywords]
  cases hcontent : node.find? "properties" with
  | none => rfl
  | some content =>
    cases content with
    | obj properties => exact absurd hcontent (h properties)
    | null | bool | num | str | arr => rfl

/-- Of the required names those stay that are names of properties which paths enter. -/
theorem find?_required_of_arr {properties : Dict Json} {names : List Json}
    (hproperties : node.find? "properties" = some (.obj properties))
    (hnames : node.find? "required" = some (.arr names)) :
    Dict.find? (pruneKeywords rs (keptIn rs node) node) "required" =
      some (.arr (names.filter fun name => name.str?.any fun k =>
        properties.contains k && !(following rs (.key k)).isEmpty)) := by
  have hcontent : prunedContent rs (some (keptKeys rs properties)) "required" (.arr names) =
      .arr (pruneRequired (keptKeys rs properties) names) := rfl
  rw [find?_pruneKeywords, hnames, keptIn_of_obj hproperties, Option.map_some, hcontent,
    pruneRequired, funext (contains_keptKeys rs properties)]

theorem find?_required_eq_self
    (h : (∀ properties : Dict Json, node.find? "properties" ≠ some (.obj properties)) ∨
      ∀ names : List Json, node.find? "required" ≠ some (.arr names)) :
    Dict.find? (pruneKeywords rs (keptIn rs node) node) "required" = node.find? "required" := by
  rw [find?_pruneKeywords]
  cases hcontent : node.find? "required" with
  | none => rfl
  | some content =>
    cases content with
    | arr names =>
      have hproperties := h.resolve_right fun hlist => hlist names hcontent
      rw [keptIn_eq_none hproperties]
      rfl
    | null | bool | num | str | obj => cases keptIn rs node <;> rfl

theorem find?_items (rs : List Path) (kept : Option (List String)) (node : Dict Json) (i : Nat) :
    Dict.find? (pruneKeywords rs kept node) "items" =
      if (following rs (.index i)).isEmpty then node.find? "items"
      else (node.find? "items").map (pruneSchema (following rs (.index i))) := by
  have hcontent : prunedContent rs kept "items" = prunedItems rs := rfl
  rw [find?_pruneKeywords, hcontent]
  unfold prunedItems following
  cases node.find? "items" <;> split <;> rfl

theorem find?_keyword_eq_self {keyword : String} (hproperties : keyword ≠ "properties")
    (hrequired : keyword ≠ "required") (hitems : keyword ≠ "items") :
    Dict.find? (pruneKeywords rs kept node) keyword = node.find? keyword := by
  have hself : prunedContent rs kept keyword = id := by
    funext content
    simp [prunedContent, hproperties, hrequired, hitems]
  rw [find?_pruneKeywords, hself, Option.map_id_fun, id]

end Node

/-! ## All objects on the way -/

/-- How an object of a schema is narrowed, `u` being its place: which properties are kept, which of
them are still required, and what becomes of the items. -/
structure Narrowed (paths : List Path) (u : Path) (node node' : Dict Json) : Prop where
  /-- Every keyword stays. -/
  keys_eq : node'.keys = node.keys
  /-- The properties that a path continues through are kept, in order, and narrowed. -/
  properties_eq : ∀ properties : Dict Json, node.find? "properties" = some (.obj properties) →
    node'.find? "properties" = some (.obj
      ((properties.filter fun e => continues paths (u ++ [.key e.1])).map fun e =>
        (e.1, pruneSchema (beyond paths (u ++ [.key e.1])) e.2)))
  /-- Of the required names those stay, in order, that are names of properties which are kept. -/
  required_eq : ∀ (properties : Dict Json) (names : List Json),
    node.find? "properties" = some (.obj properties) →
      node.find? "required" = some (.arr names) →
        node'.find? "required" = some (.arr (names.filter fun name => name.str?.any fun k =>
          properties.contains k && continues paths (u ++ [.key k])))
  /-- What is not an object of properties stays. -/
  properties_eq_self : (∀ properties : Dict Json,
      node.find? "properties" ≠ some (.obj properties)) →
    node'.find? "properties" = node.find? "properties"
  /-- Without an object of properties, or if it is not a list, `required` stays. -/
  required_eq_self : ((∀ properties : Dict Json,
        node.find? "properties" ≠ some (.obj properties)) ∨
      ∀ names : List Json, node.find? "required" ≠ some (.arr names)) →
    node'.find? "required" = node.find? "required"
  /-- The items are narrowed if a path continues through one of them. -/
  items_eq : ∀ i, node'.find? "items" =
    if continues paths (u ++ [.index i]) then
      (node.find? "items").map (pruneSchema (beyond paths (u ++ [.index i])))
    else node.find? "items"
  /-- Every other keyword has the content that it had. -/
  others_eq : ∀ keyword, keyword ≠ "properties" → keyword ≠ "required" → keyword ≠ "items" →
    node'.find? keyword = node.find? keyword

/-- At a place where no path has ended yet, an object of a schema is narrowed. -/
theorem narrowed_pruneSchema (hpaths : ∀ p ∈ paths, p.isConcrete = true)
    (hends : ∀ p ∈ paths, ¬ p.unindexed <+: u.unindexed) (node : Dict Json) :
    ∃ node', pruneSchema (beyond paths u) (.obj node) = .obj node' ∧
      Narrowed paths u node node' := by
  have hconcrete : ∀ r ∈ beyond paths u, r.isConcrete = true := by
    intro r hr
    exact isConcrete_of_mem_beyond hpaths hr
  have hstep : ∀ s, following (beyond paths u) s = beyond paths (u ++ [s]) := by
    intro s
    rw [following_eq_beyond hconcrete, beyond_append]
  have hends' : endsHere (beyond paths u) = false := by
    apply endsHere_eq_false (u := [])
    intro r hr
    apply not_prefix_of_mem_beyond (w := []) _ hr
    rwa [List.append_nil]
  refine ⟨_, pruneSchema_obj hends' node, ?_⟩
  constructor
  case keys_eq =>
    rw [pruneKeywords_eq_map]
    exact Dict.keys_map node (prunedContent _ _)
  case properties_eq =>
    intro properties hproperties
    rw [find?_properties_of_obj hproperties, pruneProperties_eq]
    simp only [hstep, isEmpty_beyond, Bool.not_not]
  case required_eq =>
    intro properties names hproperties hnames
    rw [find?_required_of_arr hproperties hnames]
    simp only [hstep, isEmpty_beyond, Bool.not_not]
  case properties_eq_self => exact find?_properties_eq_self
  case required_eq_self => exact find?_required_eq_self
  case items_eq =>
    intro i
    rw [find?_items _ _ _ i, hstep, isEmpty_beyond]
    cases continues paths (u ++ [.index i]) <;> rfl
  case others_eq =>
    intro keyword hproperties hrequired hitems
    exact find?_keyword_eq_self hproperties hrequired hitems

/-- A schema that is pruned along concrete paths describes the end of each path as before. On the
way to these ends each object of the schema that stands before the end of every path is narrowed to
what the paths continue through. -/
theorem pruneSchema_law (hpaths : ∀ p ∈ paths, p.isConcrete = true) (schema : Json) :
    (∀ p ∈ paths, ∀ sub, get? p.inSchema schema = some sub →
        get? p.inSchema (pruneSchema paths schema) = some sub) ∧
      ∀ (u : Path) (node : Dict Json), get? u.inSchema schema = some (.obj node) →
        continues paths u = true → (∀ p ∈ paths, ¬ p.unindexed <+: u.unindexed) →
          ∃ node', get? u.inSchema (pruneSchema paths schema) = some (.obj node') ∧
            Narrowed paths u node node' := by
  constructor
  · intro p hp sub hsub
    exact keeps_of_describes (describes_of_mem hp (List.prefix_refl p)) hsub
  · intro u node hnode hway hends
    obtain ⟨node', hpruned, hnarrowed⟩ := narrowed_pruneSchema hpaths hends node
    refine ⟨node', ?_, hnarrowed⟩
    rw [get?_pruneSchema_beyond hpaths hway hends, hnode, Option.map_some, hpruned]

/-- Two pets, of which the legs of one have to be corrected, are described by their legs. -/
theorem pruneSchema_law_of_items :
    let legs := Json.obj [("type", .str "integer")]
    let pet : Dict Json := [("properties", .obj [("kind", .bool true), ("legs", legs)]),
      ("required", .arr [.str "kind", .str "legs"]), ("type", .str "object")]
    let schema := Json.obj [("properties", .obj [("age", .bool true), ("name", .bool true),
      ("pets", .obj [("items", .obj pet)])])]
    let paths : List Path := [[.key "age"], [.key "pets", .index 2, .key "legs"]]
    get? (Path.inSchema [.key "pets", .index 2, .key "legs"]) (pruneSchema paths schema) =
        some legs ∧
      ∃ pet' : Dict Json, get? (Path.inSchema [.key "pets", .index 0]) (pruneSchema paths schema) =
          some (.obj pet') ∧
        pet'.find? "required" = some (.arr [.str "legs"]) ∧
        pet'.find? "type" = some (.str "object") := by
  intro legs pet schema paths
  have hpaths : ∀ p ∈ paths, p.isConcrete = true := by decide
  obtain ⟨hends, hway⟩ := pruneSchema_law hpaths schema
  obtain ⟨pet', hpet', hnarrowed⟩ :=
    hway [.key "pets", .index 0] pet rfl (by decide) (by decide)
  refine ⟨hends _ (by decide) legs rfl, pet', hpet', ?_, ?_⟩
  · exact hnarrowed.required_eq _ _ rfl rfl
  · exact hnarrowed.others_eq "type" (by decide) (by decide) (by decide)

end Reask
end Guardrail
