import Mathlib.Data.List.Forall2
import Guardrail.Proofs.Path.Ordered

/-!
# The units that a path stands for

A step of a path reaches concrete steps, and what it leads to in a value are the children that it
reaches, in document order. So the units of a path in a value come in document order, none of them
leads through another, and something stands at each.

Results:
* `Segment.children_eq_filter`: a step leads to the children that it reaches.
* `resolve_pairwise`: the units of a path come in document order.
* `mem_resolve_iff`: they are the places that the steps of the path reach.
* `resolve_law`: they are the concrete paths to something in the value that agree with the path
  outside of its wildcards.
-/

namespace Guardrail

/-! ## Children -/

namespace Segment

variable {s t : Segment} {j c : Json} {n : Nat}

/-- Whether a step of a path stands for a concrete step. -/
def reaches : Segment → Segment → Bool
  | .wildcard, _ => true
  | .key k, .key l => k == l
  | .index i, .index j => i == j
  | _, _ => false

/-- A step stands for itself only, unless it is a wildcard. -/
theorem reaches_iff : s.reaches t = true ↔ (s ≠ .wildcard → t = s) := by
  cases s with
  | wildcard => simp [reaches]
  | key k => cases t <;> simp [reaches, @eq_comm _ k]
  | index i => cases t <;> simp [reaches, @eq_comm _ i]

theorem children_wildcard_arr (items : List Json) :
    wildcard.children (.arr items) = items.zipIdx.map fun e => (index e.2, e.1) := rfl

theorem children_wildcard_obj (members : List (String × Json)) :
    wildcard.children (.obj members) = members.map fun e => (key e.1, e.2) := rfl

theorem filter_zipIdx_eq {α : Type} (xs : List α) (i n : Nat) :
    (xs.zipIdx n).filter (fun e => n + i == e.2) = ((xs[i]?).map (·, n + i)).toList := by
  induction xs generalizing i n with
  | nil => simp
  | cons x xs ih =>
    cases i with
    | zero =>
      have hrest : (xs.zipIdx (n + 1)).filter (fun e => n + 0 == e.2) = [] := by
        rw [List.filter_eq_nil_iff]
        intro e he
        have := List.le_snd_of_mem_zipIdx he
        simp only [beq_iff_eq]
        omega
      rw [List.zipIdx_cons, List.filter_cons_of_pos (by simp), hrest]
      rfl
    | succ i =>
      rw [List.zipIdx_cons, List.filter_cons_of_neg (by simp),
        show n + (i + 1) = n + 1 + i by omega, ih]
      rfl

theorem filter_members_eq {d : Dict Json} (hd : d.Sorted) (k : String) :
    d.filter (fun e => k == e.1) = ((d.find? k).map (k, ·)).toList := by
  induction d with
  | nil => rfl
  | cons entry rest ih =>
    obtain ⟨l, x⟩ := entry
    obtain ⟨hlt, hrest⟩ := Dict.sorted_cons.1 hd
    by_cases hl : l = k
    · subst hl
      have hnone : rest.filter (fun e => l == e.1) = [] := by
        rw [List.filter_eq_nil_iff]
        intro e he h
        have := hlt e he
        rw [← beq_iff_eq.1 h] at this
        exact String.lt_irrefl _ this
      rw [List.filter_cons_of_pos (by simp), hnone]
      simp [Dict.find?]
    · rw [List.filter_cons_of_neg (by simpa using Ne.symm hl), ih hrest]
      simp [Dict.find?, hl]

/-- A step leads to the children that it reaches. -/
theorem children_eq_filter (hj : j.OrderedTo (n + 1)) :
    s.children j = (wildcard.children j).filter fun e => s.reaches e.1 := by
  cases s with
  | wildcard => exact (List.filter_eq_self.2 fun _ _ => rfl).symm
  | key k =>
    cases j with
    | obj members =>
      rw [children_wildcard_obj, List.filter_map]
      simp only [Function.comp_def, reaches, filter_members_eq hj.1, children]
      cases Dict.find? members k <;> rfl
    | arr items =>
      rw [children_wildcard_arr, List.filter_map]
      simp [Function.comp_def, reaches, children]
    | null | bool | num | str => rfl
  | index i =>
    cases j with
    | arr items =>
      have hfilter := filter_zipIdx_eq items i 0
      simp only [Nat.zero_add] at hfilter
      rw [children_wildcard_arr, List.filter_map]
      simp only [Function.comp_def, reaches, hfilter, children]
      cases items[i]? <;> rfl
    | obj members =>
      rw [children_wildcard_obj, List.filter_map]
      simp [Function.comp_def, reaches, children]
    | null | bool | num | str => rfl

/-- The children of a value are what stands at its concrete steps. -/
theorem mem_children_wildcard (hj : j.OrderedTo (n + 1)) :
    (t, c) ∈ wildcard.children j ↔ t.child? j = some c := by
  cases j with
  | arr items =>
    rw [children_wildcard_arr, List.mem_map]
    constructor
    · rintro ⟨e, he, heq⟩
      obtain ⟨rfl, rfl⟩ := Prod.mk.inj heq
      exact List.mem_zipIdx_iff_getElem?.1 he
    · intro h
      cases t with
      | index i => exact ⟨(c, i), List.mem_zipIdx_iff_getElem?.2 h, rfl⟩
      | key k => cases h
      | wildcard => cases h
  | obj members =>
    rw [children_wildcard_obj, List.mem_map]
    constructor
    · rintro ⟨e, he, heq⟩
      obtain ⟨rfl, rfl⟩ := Prod.mk.inj heq
      exact Dict.Sorted.find?_of_mem hj.1 he
    · intro h
      cases t with
      | key k => exact ⟨(k, c), Dict.mem_of_find? h, rfl⟩
      | index i => cases h
      | wildcard => cases h
  | null | bool | num | str => cases t <;> simp [children, child?]

/-- All that a step leads to stands at concrete steps that it reaches. -/
theorem reaches_of_mem_children (h : (t, c) ∈ s.children j) :
    s.reaches t = true ∧ t ≠ .wildcard := by
  cases s with
  | wildcard =>
    refine ⟨rfl, ?_⟩
    rintro rfl
    cases j <;> simp [children] at h
  | key k =>
    cases j <;> simp [children] at h
    obtain ⟨-, rfl⟩ := h
    simp [reaches]
  | index i =>
    cases j <;> simp [children] at h
    obtain ⟨-, rfl⟩ := h
    simp [reaches]

theorem mem_children_iff (hj : j.OrderedTo (n + 1)) :
    (t, c) ∈ s.children j ↔ s.reaches t = true ∧ t.child? j = some c := by
  rw [children_eq_filter hj, List.mem_filter, mem_children_wildcard hj, and_comm]

theorem children_pairwise (hj : j.OrderedTo (n + 1)) :
    (s.children j).Pairwise fun a b => a.1.Before b.1 := by
  rw [children_eq_filter hj]
  apply List.Pairwise.filter
  cases j with
  | arr items =>
    have hidx : ((items.zipIdx).map (·.2)).Pairwise (· < ·) := by
      rw [List.zipIdx_map_snd]
      exact List.pairwise_lt_range'
    rw [children_wildcard_arr]
    exact List.pairwise_map.2 ((List.pairwise_map (R := (· < ·))).1 hidx)
  | obj members =>
    rw [children_wildcard_obj]
    exact List.pairwise_map.2 ((List.pairwise_map (R := (· < ·))).1 hj.1)
  | null | bool | num | str => exact List.Pairwise.nil

end Segment

/-! ## Units -/

namespace Path

variable {p u : Path} {j : Json}

theorem mem_resolve_cons {s : Segment} :
    u ∈ resolve (s :: p) j ↔ ∃ t c u', (t, c) ∈ s.children j ∧ u' ∈ resolve p c ∧ u = t :: u' := by
  simp only [resolve, List.mem_flatMap, List.mem_map, Prod.exists]
  constructor
  · rintro ⟨t, c, hc, u', hu, rfl⟩
    exact ⟨t, c, u', hc, hu, rfl⟩
  · rintro ⟨t, c, u', hc, hu, rfl⟩
    exact ⟨t, c, hc, u', hu, rfl⟩

theorem length_of_mem_resolve (h : u ∈ resolve p j) : u.length = p.length := by
  induction p generalizing j u with
  | nil => simp_all [resolve]
  | cons s p ih =>
    obtain ⟨t, c, u', -, hu, rfl⟩ := mem_resolve_cons.1 h
    rw [List.length_cons, List.length_cons, ih hu]

/-- The units of a path are the places that its steps reach. -/
theorem mem_resolve_iff (hj : j.OrderedTo p.length) :
    u ∈ resolve p j ↔ List.Forall₂ (fun s t => s.reaches t = true) p u ∧ (get? u j).isSome := by
  induction p generalizing j u with
  | nil => cases u <;> simp [resolve, get?]
  | cons s p ih =>
    rw [mem_resolve_cons]
    constructor
    · rintro ⟨t, c, u', hc, hu, rfl⟩
      obtain ⟨hst, hchild⟩ := (Segment.mem_children_iff hj).1 hc
      obtain ⟨hall, hsome⟩ := (ih (Segment.orderedTo_child hj hchild)).1 hu
      exact ⟨.cons hst hall, by rwa [get?_cons hchild]⟩
    · rintro ⟨hall, hsome⟩
      obtain ⟨t, u', hst, hall', rfl⟩ := List.forall₂_cons_left_iff.1 hall
      cases hchild : t.child? j with
      | none => simp [get?_cons_of_none hchild] at hsome
      | some c =>
        rw [get?_cons hchild] at hsome
        exact ⟨t, c, u', (Segment.mem_children_iff hj).2 ⟨hst, hchild⟩,
          (ih (Segment.orderedTo_child hj hchild)).2 ⟨hall', hsome⟩, rfl⟩

theorem get?_isSome_of_mem_resolve (hj : j.OrderedTo p.length) (h : u ∈ resolve p j) :
    (get? u j).isSome :=
  ((mem_resolve_iff hj).1 h).2

/-- The units of a path come in document order. -/
theorem resolve_pairwise (hj : j.OrderedTo p.length) : (resolve p j).Pairwise Before := by
  induction p generalizing j with
  | nil => simp [resolve]
  | cons s p ih =>
    rw [resolve, List.pairwise_flatMap]
    constructor
    · intro e he
      have hchild := ((Segment.mem_children_iff hj).1 he).2
      exact List.pairwise_map.2
        ((ih (Segment.orderedTo_child hj hchild)).imp fun h => .inr ⟨rfl, h⟩)
    · refine (Segment.children_pairwise hj).imp fun {a b} hab => ?_
      intro x hx y hy
      obtain ⟨x', -, rfl⟩ := List.mem_map.1 hx
      obtain ⟨y', -, rfl⟩ := List.mem_map.1 hy
      exact .inl hab

/-! ## Agreement with a path -/

/-- The steps of a path reach those of another one exactly if both have the same length and agree
outside of wildcards. -/
theorem forall₂_reaches_iff :
    List.Forall₂ (fun s t => Segment.reaches s t = true) p u ↔
      u.length = p.length ∧
        ∀ (i : Nat) (s : Segment), p[i]? = some s → s ≠ .wildcard → u[i]? = some s := by
  induction p generalizing u with
  | nil => simp [List.forall₂_nil_left_iff, List.length_eq_zero_iff]
  | cons s p ih =>
    cases u with
    | nil => simp
    | cons t u =>
      rw [List.forall₂_cons, ih, Segment.reaches_iff]
      constructor
      · rintro ⟨hst, hlen, hagree⟩
        refine ⟨by rw [List.length_cons, List.length_cons, hlen], fun i r hr hr' => ?_⟩
        cases i with
        | zero =>
          obtain rfl := Option.some.inj hr
          rw [List.getElem?_cons_zero, hst hr']
        | succ i => exact hagree i r hr hr'
      · rintro ⟨hlen, hagree⟩
        refine ⟨fun hs => ?_, Nat.succ.inj hlen, fun i r hr hr' => hagree (i + 1) r hr hr'⟩
        exact Option.some.inj (hagree 0 s rfl hs)

/-- A wildcard leads to nothing in particular. -/
theorem isConcrete_of_get? (h : (get? p j).isSome) : p.isConcrete = true := by
  suffices hnone : .wildcard ∉ p by simpa [isConcrete] using hnone
  induction p generalizing j with
  | nil => exact List.not_mem_nil
  | cons s p ih =>
    cases hs : s.child? j with
    | none => simp [get?_cons_of_none hs] at h
    | some c =>
      rw [get?_cons hs] at h
      have hne : s ≠ .wildcard := by
        rintro rfl
        cases j <;> cases hs
      simp only [List.mem_cons, not_or]
      exact ⟨hne.symm, ih h⟩

/-- A concrete path is one of those that a path stands for, each wildcard being any key or index. -/
def StandsFor (p u : Path) : Prop :=
  u.isConcrete = true ∧ List.Forall₂ (fun s t => Segment.reaches s t = true) p u

theorem StandsFor.length_eq (h : StandsFor p u) : u.length = p.length := h.2.length_eq.symm

theorem standsFor_of_mem_resolve (h : u ∈ resolve p j) : StandsFor p u := by
  induction p generalizing j u with
  | nil =>
    obtain rfl : u = [] := by simpa [resolve] using h
    exact ⟨rfl, .nil⟩
  | cons s p ih =>
    obtain ⟨t, c, u, hc, hu, rfl⟩ := mem_resolve_cons.1 h
    obtain ⟨hst, hne⟩ := Segment.reaches_of_mem_children hc
    obtain ⟨hconcrete, hreaches⟩ := ih hu
    refine ⟨?_, .cons hst hreaches⟩
    simp only [isConcrete, List.contains_cons] at hconcrete ⊢
    simpa [Ne.symm hne] using hconcrete

/-- A path stands for the concrete paths of its own length to something in the value that agree with
it outside of wildcards, each of them once and in document order, and none of them leads through
another. -/
theorem resolve_law (hj : j.WellFormed) (p : Path) :
    (∀ u : Path, u ∈ resolve p j ↔
      u.length = p.length ∧
        (∀ (i : Nat) (s : Segment), p[i]? = some s → s ≠ .wildcard → u[i]? = some s) ∧
        u.isConcrete = true ∧ (get? u j).isSome = true) ∧
    (resolve p j).Nodup ∧ (resolve p j).Pairwise Before ∧
    ∀ u ∈ resolve p j, ∀ w ∈ resolve p j, u <+: w → u = w := by
  have hordered := Json.orderedTo_of_wellFormed hj p.length
  have hpairwise := resolve_pairwise hordered
  refine ⟨fun u => ?_, ?_, hpairwise, fun u hu w hw huw => ?_⟩
  · rw [mem_resolve_iff hordered, forall₂_reaches_iff, and_assoc]
    refine and_congr_right' (and_congr_right' ⟨fun h => ⟨isConcrete_of_get? h, h⟩, And.right⟩)
  · refine hpairwise.imp fun {u w} hbefore heq => ?_
    exact hbefore.apart.1 (heq ▸ List.prefix_refl u)
  · exact huw.eq_of_length ((length_of_mem_resolve hu).trans (length_of_mem_resolve hw).symm)

/-- Of three items two have a name, and those are found in order. -/
theorem resolve_law_of_names :
    let value := Json.obj [("items", .arr [.obj [("name", .str "a")], .obj [("price", .ofNat 1)],
      .obj [("name", .str "c")]])]
    let p : Path := [.key "items", .wildcard, .key "name"]
    value.WellFormed ∧ [.key "items", .index 2, .key "name"] ∈ resolve p value ∧
      [.key "items", .index 1, .key "name"] ∉ resolve p value ∧ (resolve p value).Nodup := by
  intro value p
  have hvalue : value.WellFormed := by decide +revert
  obtain ⟨hmem, hnodup, -, -⟩ := resolve_law hvalue p
  refine ⟨hvalue, (hmem _).2 ⟨rfl, fun i s hs hne => ?_, rfl, rfl⟩, fun h => ?_, hnodup⟩
  · rcases i with _ | _ | _ | i
    · exact hs
    · obtain rfl := Option.some.inj hs
      exact absurd rfl hne
    · exact hs
    · cases hs
  · have hsome := ((hmem _).1 h).2.2.2
    cases hsome

end Path
end Guardrail
