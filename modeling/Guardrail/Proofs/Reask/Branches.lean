import Guardrail.Proofs.Path.Restricted
import Guardrail.Reask.Prune

/-!
# Branches that a pruned value keeps

The units of some paths in a value are the places that the paths stand for there. Pruning the value
along the paths goes down from the root with what remains of each path. What it keeps is the part of
the value that is made of all that leads to a unit or through one, and nothing is kept if there are
no units.

Results:
* `mem_units_cons`: the units below a child are those of what remains of the paths.
* `pruneValue_eq`: a pruned value is the part of the value on the branches of the units.
* `pruneValue_law`: where its places come from, and that the units stay whole.
-/

namespace Guardrail.Reask

open Guardrail.Path (get? resolve)

variable {paths : List Path} {v c : Json} {us : List Path} {p q u : Path} {t : Segment}

/-! ## Remaining paths -/

theorem mem_descend {accepts : Segment → Bool} :
    p ∈ descend accepts paths ↔ ∃ s, accepts s = true ∧ s :: p ∈ paths := by
  rw [descend, List.mem_filterMap]
  constructor
  · rintro ⟨path, hpath, h⟩
    cases path with
    | nil => cases h
    | cons s path =>
      obtain ⟨hs, rfl⟩ := Option.ite_some_none_eq_some.1 h
      exact ⟨s, hs, hpath⟩
  · rintro ⟨s, hs, hpath⟩
    exact ⟨s :: p, hpath, by simp [hs]⟩

theorem endsHere_iff : endsHere paths = true ↔ [] ∈ paths := by
  simp [endsHere, List.any_eq_true]

theorem entersKey_eq_reaches (k : String) :
    entersKey k = fun s => s.reaches (.key k) := by
  funext s
  cases s <;> rfl

theorem entersIndex_eq_reaches (i : Nat) :
    entersIndex i = fun s => s.reaches (.index i) := by
  funext s
  cases s with
  | index m => exact Bool.beq_comm
  | key k => rfl
  | wildcard => rfl

/-- What remains of the paths that enter the child at a step. -/
def entering (paths : List Path) (t : Segment) : List Path :=
  descend (fun s => s.reaches t) paths

/-! ## Units -/

/-- The places that paths stand for in a value. -/
def units (paths : List Path) (v : Json) : List Path := paths.flatMap (resolve · v)

theorem nil_mem_units : [] ∈ units paths v ↔ [] ∈ paths := by
  rw [units, List.mem_flatMap]
  constructor
  · rintro ⟨p, hp, hnil⟩
    obtain rfl := List.eq_nil_of_length_eq_zero (Path.length_of_mem_resolve hnil).symm
    exact hp
  · exact fun h => ⟨[], h, by simp [resolve]⟩

/-- The units below a child are those of what remains of the paths. -/
theorem mem_units_cons (hv : v.WellFormed) :
    t :: u ∈ units paths v ↔ ∃ c, t.child? v = some c ∧ u ∈ units (entering paths t) c := by
  simp only [units, List.mem_flatMap, entering, mem_descend]
  constructor
  · rintro ⟨p, hp, hu⟩
    cases p with
    | nil => simp [resolve] at hu
    | cons s p =>
      obtain ⟨t', c, u', hc, hu, heq⟩ := Path.mem_resolve_cons.1 hu
      obtain ⟨rfl, rfl⟩ := List.cons.inj heq
      obtain ⟨hst, hchild⟩ :=
        (Segment.mem_children_iff (Json.orderedTo_of_wellFormed hv 1)).1 hc
      exact ⟨c, hchild, p, ⟨s, hst, hp⟩, hu⟩
  · rintro ⟨c, hchild, p, ⟨s, hst, hp⟩, hu⟩
    have hc := (Segment.mem_children_iff (Json.orderedTo_of_wellFormed hv 1)).2 ⟨hst, hchild⟩
    exact ⟨s :: p, hp, Path.mem_resolve_cons.2 ⟨t, c, u, hc, hu, rfl⟩⟩

/-! ## Branches -/

/-- Whether a path leads to a unit or through one. -/
def onBranch (us : List Path) (p : Path) : Bool :=
  us.any fun u => u.isPrefixOf p || p.isPrefixOf u

theorem onBranch_iff : onBranch us p = true ↔ ∃ u ∈ us, u <+: p ∨ p <+: u := by
  simp [onBranch, List.any_eq_true]

theorem onBranch_root : onBranch us [] = true ↔ us ≠ [] := by
  rw [onBranch_iff]
  constructor
  · rintro ⟨u, hu, -⟩ rfl
    cases hu
  · intro h
    obtain ⟨u, hu⟩ := List.exists_mem_of_ne_nil us h
    exact ⟨u, hu, .inr List.nil_prefix⟩

/-- What leads to a branch is on the branch. -/
theorem closed_onBranch (us : List Path) : Path.Closed (onBranch us) := by
  intro p q hpq h
  obtain ⟨u, hu, huq | hqu⟩ := onBranch_iff.1 h
  · exact onBranch_iff.2 ⟨u, hu, List.prefix_or_prefix_of_prefix huq hpq⟩
  · exact onBranch_iff.2 ⟨u, hu, .inr (hpq.trans hqu)⟩

/-- All that is below a unit is on its branch. -/
theorem onBranch_append (h : u ∈ us) (q : Path) : onBranch us (u ++ q) = true :=
  onBranch_iff.2 ⟨u, h, .inl (List.prefix_append u q)⟩

/-- Below a child a branch is one of the units below the child. -/
theorem onBranch_cons {below : List Path} (hroot : [] ∉ us)
    (hbelow : ∀ u, t :: u ∈ us ↔ u ∈ below) (p : Path) :
    onBranch us (t :: p) = onBranch below p := by
  rw [Bool.eq_iff_iff, onBranch_iff, onBranch_iff]
  constructor
  · rintro ⟨u, hu, hlead⟩
    cases u with
    | nil => exact absurd hu hroot
    | cons s u =>
      simp only [List.cons_prefix_cons] at hlead
      have hs : s = t := hlead.elim (fun h => h.1) (fun h => h.1.symm)
      subst hs
      exact ⟨u, (hbelow u).1 hu, hlead.imp And.right And.right⟩
  · rintro ⟨u, hu, hlead⟩
    have hcons : ∀ {p q : Path}, p <+: q → t :: p <+: t :: q :=
      fun h => List.cons_prefix_cons.2 ⟨rfl, h⟩
    exact ⟨t :: u, (hbelow u).2 hu, hlead.imp hcons hcons⟩

/-- What a choice of branches leaves of a child is the part of it on the branches below. -/
theorem restrictChild_onBranch (hv : v.WellFormed) (hroot : [] ∉ paths)
    (hc : t.child? v = some c) :
    Json.restrictChild (onBranch (units paths v)) t c =
      if units (entering paths t) c = [] then none
      else some (c.restrict (onBranch (units (entering paths t) c))) := by
  have hbelow : ∀ u, t :: u ∈ units paths v ↔ u ∈ units (entering paths t) c := by
    intro u
    simp only [mem_units_cons hv, hc, Option.some.injEq, exists_eq_left']
  have hbranch : ∀ p, onBranch (units paths v) (t :: p) =
      onBranch (units (entering paths t) c) p :=
    onBranch_cons (mt nil_mem_units.1 hroot) hbelow
  simp only [Json.restrictChild, hbranch, onBranch_root, ite_not]

/-- There are no units exactly if no child leads to one. -/
theorem units_eq_nil_iff (hv : v.WellFormed) (hroot : [] ∉ paths) :
    units paths v = [] ↔ ∀ e ∈ Segment.wildcard.children v,
      Json.restrictChild (onBranch (units paths v)) e.1 e.2 = none := by
  constructor
  · intro hnone e _
    simp [Json.restrictChild, hnone, onBranch]
  · intro hchildren
    by_contra hsome
    obtain ⟨u, hu⟩ := List.exists_mem_of_ne_nil _ hsome
    cases u with
    | nil => exact hroot (nil_mem_units.1 hu)
    | cons t u =>
      obtain ⟨c, hc, -⟩ := (mem_units_cons hv).1 hu
      have hmem := (Segment.mem_children_wildcard (Json.orderedTo_of_wellFormed hv 1)).2 hc
      have hlead : onBranch (units paths v) [t] = true :=
        onBranch_iff.2 ⟨_, hu, .inr (by simp)⟩
      simpa [Json.restrictChild, hlead] using hchildren _ hmem

/-! ## Pruning -/

theorem pruneValue_of_endsHere (h : endsHere paths = true) : pruneValue paths v = some v := by
  cases v <;> rw [pruneValue, if_pos h] <;> simp

theorem pruneItems_eq (paths : List Path) (n : Nat) (items : List Json) :
    pruneItems paths n items =
      (items.zipIdx n).filterMap fun e => pruneValue (entering paths (.index e.2)) e.1 := by
  induction items generalizing n with
  | nil => rw [pruneItems, List.zipIdx_nil, List.filterMap_nil]
  | cons x rest ih =>
    rw [pruneItems, List.zipIdx_cons, List.filterMap_cons, ih, entersIndex_eq_reaches]
    unfold entering
    cases pruneValue (descend (fun s => s.reaches (.index n)) paths) x <;> rfl

theorem pruneMembers_eq (paths : List Path) (members : List (String × Json)) :
    pruneMembers paths members =
      members.filterMap fun e => (pruneValue (entering paths (.key e.1)) e.2).map (e.1, ·) := by
  induction members with
  | nil => rw [pruneMembers, List.filterMap_nil]
  | cons e rest ih =>
    obtain ⟨k, x⟩ := e
    rw [pruneMembers, List.filterMap_cons, ih, entersKey_eq_reaches]
    unfold entering
    cases pruneValue (descend (fun s => s.reaches (.key k)) paths) x <;> rfl

/-- Where a path ends the value is kept whole. -/
theorem pruneValue_eq_of_root (h : [] ∈ paths) :
    pruneValue paths v =
      if units paths v = [] then none else some (v.restrict (onBranch (units paths v))) := by
  have hroot : [] ∈ units paths v := nil_mem_units.2 h
  have hprune : pruneValue paths v = some v := pruneValue_of_endsHere (endsHere_iff.2 h)
  have hall : ∀ p, onBranch (units paths v) p = true := onBranch_append hroot
  rw [hprune, if_neg (List.ne_nil_of_mem hroot), Json.restrict_eq_self hall]

/-- A pruned value is the part of the value on the branches of the units, if there are units. -/
theorem pruneValue_eq (hv : v.WellFormed) (paths : List Path) :
    pruneValue paths v =
      if units paths v = [] then none else some (v.restrict (onBranch (units paths v))) := by
  induction v using Json.induct generalizing paths with
  | null | bool | num | str =>
    by_cases hroot : [] ∈ paths
    · exact pruneValue_eq_of_root hroot
    have hnone := (units_eq_nil_iff hv hroot).2 fun e he => absurd he List.not_mem_nil
    rw [hnone, if_pos rfl]
    exact if_neg (mt endsHere_iff.1 hroot)
  | arr items ih =>
    by_cases hroot : [] ∈ paths
    · exact pruneValue_eq_of_root hroot
    have hchild : ∀ e ∈ items.zipIdx, pruneValue (entering paths (.index e.2)) e.1 =
        Json.restrictChild (onBranch (units paths (.arr items))) (.index e.2) e.1 := by
      intro e he
      have hx := List.fst_mem_of_mem_zipIdx he
      have hc : Segment.child? (.index e.2) (.arr items) = some e.1 :=
        List.mem_zipIdx_iff_getElem?.1 he
      rw [ih e.1 hx (Json.wellFormed_of_mem_items hv hx), restrictChild_onBranch hv hroot hc]
    have hnone := units_eq_nil_iff hv hroot
    rw [Segment.children_wildcard_arr, List.forall_mem_map] at hnone
    rw [pruneValue, if_neg (mt endsHere_iff.1 hroot), pruneItems_eq, Json.restrict_arr,
      List.filterMap_congr hchild]
    simp only [List.isEmpty_iff, List.filterMap_eq_nil_iff, hnone]
  | obj members ih =>
    by_cases hroot : [] ∈ paths
    · exact pruneValue_eq_of_root hroot
    have hchild : ∀ e ∈ members, (pruneValue (entering paths (.key e.1)) e.2).map (e.1, ·) =
        (Json.restrictChild (onBranch (units paths (.obj members))) (.key e.1) e.2).map
          (e.1, ·) := by
      intro e he
      have hc : Segment.child? (.key e.1) (.obj members) = some e.2 :=
        Dict.Sorted.find?_of_mem hv.1 he
      rw [ih e he (Json.wellFormed_of_mem_members hv.2 he), restrictChild_onBranch hv hroot hc]
    have hnone := units_eq_nil_iff hv hroot
    rw [Segment.children_wildcard_obj, List.forall_mem_map] at hnone
    rw [pruneValue, if_neg (mt endsHere_iff.1 hroot), pruneMembers_eq, Json.restrict_obj,
      List.filterMap_congr hchild]
    simp only [List.isEmpty_iff, List.filterMap_eq_nil_iff, Option.map_eq_none_iff, hnone]

/-- Pruning gives nothing exactly if the paths stand for nothing in the value. Otherwise it gives the
part of the value on the branches of their units. There every unit is whole, every place on a branch
has landed and nothing else is, and what was in order is in order. -/
theorem pruneValue_law (hv : v.WellFormed) (paths : List Path) :
    let us := paths.flatMap (resolve · v)
    let keep := onBranch us
    (pruneValue paths v = none ↔ us = []) ∧
    ∀ kept, pruneValue paths v = some kept →
      kept = v.restrict keep ∧
      (∀ u ∈ us, get? (Path.landing keep u) kept = get? u v) ∧
      (∀ p, keep p = true → (get? (Path.landing keep p) kept).isSome = (get? p v).isSome) ∧
      (∀ r, (get? r kept).isSome →
        ∃ p, keep p = true ∧ Path.landing keep p = r ∧ (get? p v).isSome) ∧
      ∀ p q, keep p = true → Path.Before p q →
        Path.Before (Path.landing keep p) (Path.landing keep q) := by
  intro us keep
  have hprune : pruneValue paths v = if us = [] then none else some (v.restrict keep) :=
    pruneValue_eq hv paths
  have hclosed : Path.Closed keep := closed_onBranch us
  have hland : ∀ p, keep p = true → get? (Path.landing keep p) (v.restrict keep) =
      (get? p v).map (Json.restrict fun q => keep (p ++ q)) := fun p => Path.get?_landing hclosed
  constructor
  · rw [hprune]
    split
    · next hnone => exact iff_of_true rfl hnone
    · next hsome => exact iff_of_false (Option.some_ne_none _) hsome
  · intro kept hkept
    have hsome : us ≠ [] := by
      rintro hnone
      rw [hprune, if_pos hnone] at hkept
      cases hkept
    rw [hprune, if_neg hsome] at hkept
    obtain rfl := Option.some.inj hkept
    refine ⟨rfl, fun u hu => ?_, fun p hp => ?_, fun r hr => ?_, fun p q hp hpq => ?_⟩
    · have hwhole : ∀ q, keep (u ++ q) = true := onBranch_append hu
      have hu' : keep u = true := by simpa using hwhole []
      have hself : (Json.restrict fun q => keep (u ++ q)) = id :=
        funext fun j => Json.restrict_eq_self hwhole
      rw [hland u hu', hself, Option.map_id_fun, id]
    · rw [hland p hp, Option.isSome_map]
    · obtain ⟨c, hc⟩ := Option.isSome_iff_exists.1 hr
      exact Path.exists_of_get?_restrict (onBranch_root.2 hsome) hc
    · exact Path.before_landing hclosed hp hpq

/-- Of an array whose first item is empty two items are kept, one of them cut down; the third one has
moved up. -/
theorem pruneValue_law_of_overlap :
    let value := Json.obj [("a", .obj [("b", .ofNat 1), ("c", .ofNat 2)]),
      ("d", .arr [.obj [], .obj [("x", .ofNat 5), ("y", .ofNat 6)],
        .obj [("x", .ofNat 7), ("y", .ofNat 8)]])]
    let paths : List Path := [[.key "a", .key "c"], [.key "d", .wildcard, .key "x"],
      [.key "d", .index 1], [.key "e"]]
    let kept := Json.obj [("a", .obj [("c", .ofNat 2)]),
      ("d", .arr [.obj [("x", .ofNat 5), ("y", .ofNat 6)], .obj [("x", .ofNat 7)]])]
    value.WellFormed ∧ pruneValue paths value = some kept ∧
      [.key "d", .index 2, .key "x"] ∈ paths.flatMap (resolve · value) ∧
      get? [.key "d", .index 1, .key "x"] kept = get? [.key "d", .index 2, .key "x"] value := by
  intro value paths kept
  have hvalue : value.WellFormed := by decide +revert
  have hkept : pruneValue paths value = some kept := rfl
  have hunit : [.key "d", .index 2, .key "x"] ∈ paths.flatMap (resolve · value) := by decide
  obtain ⟨-, hlaw⟩ := pruneValue_law hvalue paths
  obtain ⟨-, hwhole, -, -, -⟩ := hlaw kept hkept
  exact ⟨hvalue, hkept, hunit, hwhole _ hunit⟩

end Guardrail.Reask
