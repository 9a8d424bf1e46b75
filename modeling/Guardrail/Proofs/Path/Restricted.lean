import Guardrail.Proofs.Path.Units

/-!
# Parts of a value

A choice of paths cuts a part out of a value: of an array or an object only the chosen children stay,
each cut down in the same way. Members keep their keys; items close ranks, so an item lands at the
number of chosen items in front of it.

Results:
* `restrict_eq_self`: where all paths are chosen the value stays whole.
* `get?_landing`: a chosen place lands with what is chosen below it.
* `exists_of_get?_restrict`: nothing else is in the part.
* `before_landing`: chosen places stay in order.
-/

namespace Guardrail

/-! ## Values -/

/-- What holds of every scalar, and of an array or an object if it holds of its children, holds of
every value. -/
theorem Json.induct {motive : Json → Prop} (null : motive .null) (bool : ∀ b, motive (.bool b))
    (num : ∀ n, motive (.num n)) (str : ∀ s, motive (.str s))
    (arr : ∀ items, (∀ x ∈ items, motive x) → motive (.arr items))
    (obj : ∀ members, (∀ e ∈ members, motive e.2) → motive (.obj members)) : ∀ j, motive j
  | .null => null
  | .bool b => bool b
  | .num n => num n
  | .str s => str s
  | .arr items => arr items fun x _ => Json.induct null bool num str arr obj x
  | .obj members => obj members fun e _ => Json.induct null bool num str arr obj e.2
termination_by j => sizeOf j
decreasing_by
  · have := List.sizeOf_lt_of_mem ‹x ∈ items›
    simp_wf
    omega
  · have := List.sizeOf_lt_of_mem ‹e ∈ members›
    obtain ⟨k, x⟩ := e
    simp_wf
    simp only [Prod.mk.sizeOf_spec] at this
    omega

namespace Json

mutual

/-- The part of a value that is made of chosen children, and of chosen children of these. -/
def restrict (keep : Path → Bool) : Json → Json
  | .arr items => .arr (restrictItems keep 0 items)
  | .obj members => .obj (restrictMembers keep members)
  | j => j

/-- The chosen items from an index on. -/
def restrictItems (keep : Path → Bool) (i : Nat) : List Json → List Json
  | [] => []
  | x :: rest =>
    if keep [.index i] then
      restrict (fun p => keep (.index i :: p)) x :: restrictItems keep (i + 1) rest
    else restrictItems keep (i + 1) rest

/-- The chosen members. -/
def restrictMembers (keep : Path → Bool) : List (String × Json) → List (String × Json)
  | [] => []
  | (key, x) :: rest =>
    if keep [.key key] then
      (key, restrict (fun p => keep (.key key :: p)) x) :: restrictMembers keep rest
    else restrictMembers keep rest

end

/-- What is left of the child at a step. -/
def restrictChild (keep : Path → Bool) (s : Segment) (c : Json) : Option Json :=
  if keep [s] then some (restrict (fun p => keep (s :: p)) c) else none

variable {keep : Path → Bool} {j : Json}

theorem restrictItems_eq (keep : Path → Bool) (n : Nat) (items : List Json) :
    restrictItems keep n items =
      (items.zipIdx n).filterMap fun e => restrictChild keep (.index e.2) e.1 := by
  induction items generalizing n with
  | nil => rw [restrictItems, List.zipIdx_nil, List.filterMap_nil]
  | cons x rest ih =>
    rw [restrictItems, List.zipIdx_cons, List.filterMap_cons, ih]
    unfold restrictChild
    split <;> rfl

theorem restrict_arr (keep : Path → Bool) (items : List Json) :
    restrict keep (.arr items) =
      .arr (items.zipIdx.filterMap fun e => restrictChild keep (.index e.2) e.1) := by
  rw [restrict, restrictItems_eq]

theorem restrict_obj (keep : Path → Bool) (members : List (String × Json)) :
    restrict keep (.obj members) =
      .obj (members.filterMap fun e => (restrictChild keep (.key e.1) e.2).map (e.1, ·)) := by
  rw [restrict]
  congr 1
  induction members with
  | nil => rw [restrictMembers, List.filterMap_nil]
  | cons e rest ih =>
    obtain ⟨key, x⟩ := e
    rw [restrictMembers, List.filterMap_cons, ih]
    unfold restrictChild
    dsimp only
    split <;> rfl

/-- Where all paths are chosen the value stays whole. -/
theorem restrict_eq_self (h : ∀ p, keep p = true) : restrict keep j = j := by
  induction j using Json.induct generalizing keep with
  | null | bool | num | str => rfl
  | arr items ih =>
    have hchild : ∀ e ∈ items.zipIdx, restrictChild keep (.index e.2) e.1 = some e.1 := by
      intro e he
      have hx := ih e.1 (List.fst_mem_of_mem_zipIdx he) fun p => h (.index e.2 :: p)
      rw [restrictChild, if_pos (h _), hx]
    rw [restrict_arr, List.filterMap_congr hchild, List.filterMap_eq_map']
    simp
  | obj members ih =>
    have hchild : ∀ e ∈ members,
        (restrictChild keep (.key e.1) e.2).map (e.1, ·) = some e := by
      intro e he
      have hx := ih e he fun p => h (.key e.1 :: p)
      rw [restrictChild, if_pos (h _), hx]
      rfl
    rw [restrict_obj, List.filterMap_congr hchild, List.filterMap_some]

/-! ### Children -/

theorem find?_restrict (keep : Path → Bool) (members : List (String × Json)) (k : String) :
    Dict.find? (restrictMembers keep members) k =
      (Dict.find? members k).bind (restrictChild keep (.key k)) := by
  induction members with
  | nil => simp [restrictMembers, Dict.find?]
  | cons e rest ih =>
    obtain ⟨key, x⟩ := e
    rw [restrictMembers]
    by_cases hkey : key = k
    · subst hkey
      cases hkeep : keep [.key key] with
      | true => simp [Dict.find?, restrictChild, hkeep]
      | false =>
        -- another member of that name would go as well
        have hnone : restrictChild keep (.key key) = fun _ => none := by
          funext c
          simp [restrictChild, hkeep]
        simp [ih, hnone]
    · cases hkeep : keep [.key key] with
      | true => simp [Dict.find?, hkey, ih]
      | false => simp [Dict.find?, hkey, ih]

/-- The number of chosen items among so many items from an index on. -/
def chosen (keep : Path → Bool) (n i : Nat) : Nat :=
  (List.range i).countP fun m => keep [.index (n + m)]

theorem chosen_succ (keep : Path → Bool) (n i : Nat) :
    chosen keep n (i + 1) = chosen keep (n + 1) i + if keep [.index n] then 1 else 0 := by
  unfold chosen
  rw [List.range_succ_eq_map, List.countP_cons, List.countP_map]
  simp only [Function.comp_def, Nat.succ_eq_add_one, Nat.add_zero, Nat.add_right_comm n 1,
    Nat.add_assoc]

/-- A chosen item counts for all items behind it. -/
theorem chosen_lt {n i m : Nat} (h : keep [.index (n + i)] = true) (him : i < m) :
    chosen keep n i < chosen keep n m := by
  obtain ⟨d, rfl⟩ := Nat.exists_eq_add_of_lt him
  have hpos : 0 < (List.range (d + 1)).countP fun k => keep [.index (n + (i + k))] :=
    List.countP_pos_iff.2 ⟨0, by simp, by simpa using h⟩
  unfold chosen
  rw [Nat.add_assoc, List.range_add, List.countP_append, List.countP_map]
  exact Nat.lt_add_of_pos_right hpos

/-- A chosen item lands behind the chosen ones in front of it. -/
theorem getElem?_restrictItems {items : List Json} {n i : Nat} (h : keep [.index (n + i)] = true) :
    (restrictItems keep n items)[chosen keep n i]? =
      (items[i]?).map (restrict fun p => keep (.index (n + i) :: p)) := by
  induction items generalizing n i with
  | nil => simp [restrictItems]
  | cons x rest ih =>
    rw [restrictItems]
    cases i with
    | zero =>
      rw [Nat.add_zero] at h
      simp [h, chosen]
    | succ i =>
      have hshift : n + (i + 1) = n + 1 + i := by omega
      rw [hshift] at h ⊢
      rw [chosen_succ]
      cases keep [.index n] with
      | true => simpa using ih h
      | false => simpa using ih h

/-- Every item of the part is a chosen one. -/
theorem exists_of_getElem?_restrictItems {items : List Json} {n m : Nat} {c : Json}
    (h : (restrictItems keep n items)[m]? = some c) :
    ∃ i x, keep [.index (n + i)] = true ∧ chosen keep n i = m ∧ items[i]? = some x ∧
      c = restrict (fun p => keep (.index (n + i) :: p)) x := by
  induction items generalizing n m with
  | nil => simp [restrictItems] at h
  | cons x rest ih =>
    have hrest : ∀ {m}, (restrictItems keep (n + 1) rest)[m]? = some c →
        ∃ i y, keep [.index (n + i)] = true ∧
          chosen keep n i = m + (if keep [.index n] then 1 else 0) ∧
          (x :: rest)[i]? = some y ∧ c = restrict (fun p => keep (.index (n + i) :: p)) y := by
      intro m hm
      obtain ⟨i, y, hkeep, rfl, hy, hc⟩ := ih hm
      have hshift : n + 1 + i = n + (i + 1) := by omega
      rw [hshift] at hkeep hc
      exact ⟨i + 1, y, hkeep, chosen_succ keep n i, hy, hc⟩
    rw [restrictItems] at h
    cases hkeep : keep [.index n] with
    | true =>
      rw [hkeep] at h hrest
      cases m with
      | zero => exact ⟨0, x, hkeep, rfl, rfl, (Option.some.inj h).symm⟩
      | succ m => exact hrest h
    | false =>
      rw [hkeep] at h hrest
      exact hrest h

end Json

/-! ## Landings -/

namespace Segment

variable {keep : Path → Bool} {s t : Segment} {j c : Json}

/-- Where the child at a step lands: members keep their keys, and items close ranks. -/
def landing (keep : Path → Bool) : Segment → Segment
  | .index i => .index (Json.chosen keep 0 i)
  | s => s

/-- A chosen child lands, cut down. -/
theorem child?_landing (h : keep [s] = true) :
    (s.landing keep).child? (j.restrict keep) =
      (s.child? j).map (Json.restrict fun p => keep (s :: p)) := by
  cases s with
  | key k =>
    cases j with
    | obj members =>
      simp only [landing, child?, Json.restrict, Json.find?_restrict]
      cases Dict.find? members k with
      | none => rfl
      | some x => exact if_pos h
    | null | bool | num | str | arr => rfl
  | index i =>
    cases j with
    | arr items =>
      have hitem : (Json.restrictItems keep 0 items)[Json.chosen keep 0 i]? = _ :=
        Json.getElem?_restrictItems (by rwa [Nat.zero_add])
      rw [Nat.zero_add] at hitem
      exact hitem
    | null | bool | num | str | obj => rfl
  | wildcard => cases j <;> rfl

/-- Every child of the part is a chosen one. -/
theorem exists_of_child?_restrict (h : t.child? (j.restrict keep) = some c) :
    ∃ s d, keep [s] = true ∧ s.landing keep = t ∧ s.child? j = some d ∧
      c = d.restrict fun p => keep (s :: p) := by
  cases t with
  | key k =>
    cases j with
    | obj members =>
      simp only [child?, Json.restrict, Json.find?_restrict] at h
      obtain ⟨x, hx, hc⟩ := Option.bind_eq_some_iff.1 h
      obtain ⟨hkeep, rfl⟩ := Option.ite_some_none_eq_some.1 hc
      exact ⟨.key k, x, hkeep, rfl, hx, rfl⟩
    | null | bool | num | str | arr => cases h
  | index m =>
    cases j with
    | arr items =>
      obtain ⟨i, x, hkeep, hm, hx, hc⟩ := Json.exists_of_getElem?_restrictItems h
      rw [Nat.zero_add] at hkeep hc
      exact ⟨.index i, x, hkeep, congrArg index hm, hx, hc⟩
    | null | bool | num | str | obj => cases h
  | wildcard => cases j <;> cases h

theorem before_landing (h : keep [s] = true) (hst : s.Before t) :
    (s.landing keep).Before (t.landing keep) := by
  cases s with
  | key k => cases t <;> exact hst
  | index i =>
    cases t with
    | index m => exact Json.chosen_lt (by rwa [Nat.zero_add]) hst
    | key l => exact hst
    | wildcard => exact hst
  | wildcard => cases t <;> exact hst

end Segment

namespace Path

variable {keep : Path → Bool} {p q r : Path} {j c : Json}

/-- Where what stands at a path lands. -/
def landing (keep : Path → Bool) : Path → Path
  | [] => []
  | s :: p => s.landing keep :: landing (fun q => keep (s :: q)) p

/-- What leads to a chosen path is chosen. -/
def Closed (keep : Path → Bool) : Prop := ∀ p q, p <+: q → keep q = true → keep p = true

theorem Closed.child (h : Closed keep) (s : Segment) : Closed fun p => keep (s :: p) :=
  fun _ _ hpq => h _ _ (List.cons_prefix_cons.2 ⟨rfl, hpq⟩)

/-- A chosen place lands with what is chosen below it. -/
theorem get?_landing (hclosed : Closed keep) (h : keep p = true) :
    get? (landing keep p) (j.restrict keep) =
      (get? p j).map (Json.restrict fun q => keep (p ++ q)) := by
  induction p generalizing keep j with
  | nil => rfl
  | cons s p ih =>
    have hs : keep [s] = true := hclosed [s] (s :: p) (by simp) h
    have hchild := Segment.child?_landing hs (j := j)
    rw [landing, get?, hchild]
    cases hc : s.child? j with
    | none => simp [get?_cons_of_none hc]
    | some c =>
      rw [get?_cons hc]
      exact ih (hclosed.child s) h

/-- Nothing is in the part but what is chosen. -/
theorem exists_of_get?_restrict (hroot : keep [] = true)
    (h : get? r (j.restrict keep) = some c) :
    ∃ p, keep p = true ∧ landing keep p = r ∧ (get? p j).isSome := by
  induction r generalizing keep j with
  | nil => exact ⟨[], hroot, rfl, rfl⟩
  | cons t r ih =>
    obtain ⟨d, hd, hr⟩ := Option.bind_eq_some_iff.1 h
    obtain ⟨s, e, hs, rfl, he, rfl⟩ := Segment.exists_of_child?_restrict hd
    obtain ⟨p, hp, rfl, hsome⟩ := ih hs hr
    exact ⟨s :: p, hp, rfl, by rwa [get?_cons he]⟩

/-- Chosen places stay in order. -/
theorem before_landing (hclosed : Closed keep) (h : keep p = true) (hpq : Before p q) :
    Before (landing keep p) (landing keep q) := by
  induction p generalizing keep q with
  | nil => exact absurd rfl hpq.ne_nil.1
  | cons s p ih =>
    cases q with
    | nil => exact absurd rfl hpq.ne_nil.2
    | cons t q =>
      rcases hpq with hst | ⟨rfl, hpq⟩
      · exact .inl (Segment.before_landing (hclosed [s] (s :: p) (by simp) h) hst)
      · exact .inr ⟨rfl, ih (hclosed.child s) h hpq⟩

end Path
end Guardrail
