import Guardrail.Proofs.Path.Ordered
import Guardrail.Proofs.Path.Overwrite

/-!
# Laws of access

Reading, replacing and removing agree on the paths at which something stands, and an update shows
only where it must. A replacement shows at its own path, at what leads to it and below it. The
removal of a member shows in the same places. The removal of an item moves the later items of its
array up by one, and nothing outside of that array.

Results:
* `isSome_set?`, `fst_remove?`: replacing and removing find what reading finds.
* `remove_concat`: a removal replaces the parent by the parent without the child.
* `get?_remove_key`, `get?_remove_key_of_apart`: a member is gone, and no other one.
* `get?_remove_index_of_lt`, `get?_remove_index_of_le`: the items of an array without one of them.
* `access_law`: all laws together.
-/

namespace Guardrail.Path

variable {s : Segment} {p q r : Path} {j c v : Json} {k : String} {items : List Json} {i m n : Nat}

/-! ## What is found -/

theorem isSome_set? : (set? p v j).isSome = (get? p j).isSome := by
  induction p generalizing j with
  | nil => rfl
  | cons s p ih =>
    cases hs : s.child? j with
    | none => simp [set?, get?, hs]
    | some c => simp [set?, get?, hs, ih]

theorem fst_remove? : (remove? p j).map (·.1) = get? p j := by
  induction p generalizing j with
  | nil => rfl
  | cons s p ih =>
    cases p with
    | nil => cases hs : s.child? j <;> simp [remove?, get?, hs]
    | cons t p =>
      cases hs : s.child? j with
      | none => simp [remove?, get?, hs]
      | some c =>
        rw [get?_cons hs, ← ih]
        simp [remove?, hs, Function.comp_def]

/-- What is not there is not removed. -/
theorem remove_eq_self (h : get? p j = none) : remove p j = j := by
  have hnone : remove? p j = none := by
    rw [← fst_remove?] at h
    exact Option.map_eq_none_iff.1 h
  rw [remove, hnone]
  rfl

theorem orderedTo_of_get? (hj : j.OrderedTo (p.length + n)) (h : get? p j = some c) :
    c.OrderedTo n := by
  induction p generalizing j with
  | nil =>
    obtain rfl := Option.some.inj h
    simpa using hj
  | cons s p ih =>
    cases hs : s.child? j with
    | none => simp [get?_cons_of_none hs] at h
    | some d =>
      rw [get?_cons hs] at h
      rw [List.length_cons, Nat.succ_add] at hj
      exact ih (Segment.orderedTo_child hj hs) h

/-! ## Removal from a parent -/

/-- A removal replaces the parent by the parent without the child. -/
theorem remove_concat (h : get? q j = some c) :
    remove (q ++ [s]) j = set q (s.eraseChild c) j := by
  induction q generalizing j with
  | nil =>
    obtain rfl := Option.some.inj h
    exact remove_singleton
  | cons t q ih =>
    cases ht : t.child? j with
    | none => simp [get?_cons_of_none ht] at h
    | some d =>
      rw [get?_cons ht] at h
      rw [List.cons_append, remove_cons (by simp) ht, set_cons ht, ih h]

/-- Nothing is removed from a parent that is not there. -/
theorem remove_concat_of_none (h : get? q j = none) : remove (q ++ [s]) j = j := by
  apply remove_eq_self
  rw [get?_append, h, Option.bind_none]

/-- What is read below the parent after a removal. -/
theorem get?_remove_below (h : get? q j = some c) :
    get? (q ++ r) (remove (q ++ [s]) j) = get? r (s.eraseChild c) := by
  rw [remove_concat h, get?_append, get?_set_self (by rw [h]; rfl), Option.bind_some]

/-- Nothing changes outside of the parent. -/
theorem get?_remove_of_apart (h : Apart r q) : get? r (remove (q ++ [s]) j) = get? r j := by
  cases hq : get? q j with
  | none => rw [remove_concat_of_none hq]
  | some c => rw [remove_concat hq, get?_set_of_apart h]

/-! ### Members -/

/-- A member that was removed is gone. -/
theorem get?_remove_key (hj : j.OrderedTo (q.length + 1)) :
    get? (q ++ [.key k]) (remove (q ++ [.key k]) j) = none := by
  cases hq : get? q j with
  | none => rw [remove_concat_of_none hq, get?_append, hq, Option.bind_none]
  | some c =>
    rw [get?_remove_below hq]
    apply get?_cons_of_none
    have hc : c.OrderedTo 1 := orderedTo_of_get? hj hq
    cases c with
    | obj members => exact Dict.find?_erase_self hc.1 k
    | null | bool | num | str | arr => rfl

/-- Nothing else is gone with a member. -/
theorem get?_remove_key_of_apart (h : Apart r (q ++ [.key k])) :
    get? r (remove (q ++ [.key k]) j) = get? r j := by
  by_cases hqr : q <+: r
  · -- the path leads into the parent, to another child
    obtain ⟨r, rfl⟩ := hqr
    cases hq : get? q j with
    | none => rw [remove_concat_of_none hq]
    | some c =>
      rw [get?_remove_below hq, get?_append, hq, Option.bind_some]
      cases r with
      | nil => exact absurd (by simp) h.1
      | cons t r =>
        have hne : t ≠ .key k := by
          rintro rfl
          exact h.2 ((List.prefix_append_right_inj q).2 (by simp))
        rw [get?, get?, Segment.child?_eraseChild_key_of_ne hne]
  · exact get?_remove_of_apart ⟨fun hrq => h.1 (hrq.trans (List.prefix_append _ _)), hqr⟩

/-! ### Items -/

theorem get?_remove_index (h : get? q j = some (.arr items)) :
    get? q (remove (q ++ [.index i]) j) = some (.arr (items.eraseIdx i)) := by
  have hbelow := get?_remove_below h (r := []) (s := .index i)
  rwa [List.append_nil] at hbelow

/-- The items before a removed one stay where they are. -/
theorem get?_remove_index_of_lt (h : get? q j = some (.arr items)) (hm : m < i) :
    get? (q ++ .index m :: r) (remove (q ++ [.index i]) j) = get? (q ++ .index m :: r) j := by
  rw [get?_append, get?_append, get?_remove_index h, h, Option.bind_some, Option.bind_some, get?,
    get?]
  simp only [Segment.child?, List.getElem?_eraseIdx_of_lt hm]

/-- The items behind a removed one move up by one. -/
theorem get?_remove_index_of_le (h : get? q j = some (.arr items)) (hm : i ≤ m) :
    get? (q ++ .index m :: r) (remove (q ++ [.index i]) j) =
      get? (q ++ .index (m + 1) :: r) j := by
  rw [get?_append, get?_append, get?_remove_index h, h, Option.bind_some, Option.bind_some, get?,
    get?]
  simp only [Segment.child?, List.getElem?_eraseIdx_of_ge hm]

/-! ## All laws -/

/-- Replacing succeeds exactly where something stands. The new value is read there and nothing apart
from it has changed; putting back what stands there, or failing, changes nothing at all.

Removing gives exactly what stands at the path, and changes nothing if nothing does. A removed member
is gone and nothing apart from it has changed. An array without one of its items is shorter by one:
the items before it stay, those behind it are found one place further up, and nothing outside of the
array has changed. Of the root null remains. -/
theorem access_law (hj : j.WellFormed) (p : Path) (v : Json) :
    ((set? p v j).isSome = (get? p j).isSome ∧
      ((set? p v j).isSome → get? p (set p v j) = some v ∧
        ∀ r, Apart r p → get? r (set p v j) = get? r j) ∧
      (get? p j = some v → set p v j = j) ∧
      (set? p v j = none → set p v j = j)) ∧
    (remove? p j).map (·.1) = get? p j ∧
    (get? p j = none → remove p j = j) ∧
    (∀ q k, p = q ++ [.key k] → get? p (remove p j) = none ∧
      ∀ r, Apart r p → get? r (remove p j) = get? r j) ∧
    (∀ q i items, p = q ++ [.index i] → get? q j = some (.arr items) → i < items.length →
      (∃ left, get? q (remove p j) = some (.arr left) ∧ left.length = items.length - 1) ∧
      (∀ m r, m < i → get? (q ++ .index m :: r) (remove p j) = get? (q ++ .index m :: r) j) ∧
      (∀ m r, i ≤ m → get? (q ++ .index m :: r) (remove p j) = get? (q ++ .index (m + 1) :: r) j) ∧
      ∀ r, Apart r q → get? r (remove p j) = get? r j) ∧
    remove root j = .null := by
  refine ⟨⟨isSome_set?, fun hset => ?_, set_eq_self, fun hnone => ?_⟩, fst_remove?, remove_eq_self,
    ?_, ?_, rfl⟩
  · rw [isSome_set?] at hset
    exact ⟨get?_set_self hset, fun r hr => get?_set_of_apart hr⟩
  · rw [set, hnone]
    rfl
  · rintro q k rfl
    exact ⟨get?_remove_key (Json.orderedTo_of_wellFormed hj _),
      fun r hr => get?_remove_key_of_apart hr⟩
  · rintro q i items rfl hq hi
    exact ⟨⟨_, get?_remove_index hq, List.length_eraseIdx_of_lt hi⟩,
      fun m r hm => get?_remove_index_of_lt hq hm, fun m r hm => get?_remove_index_of_le hq hm,
      fun r hr => get?_remove_of_apart hr⟩

/-- The second of three items is replaced, and removed; then its array is removed. -/
theorem access_law_of_three_items :
    let value := Json.obj [("a", .obj [("b", .arr [.str "x", .str "y", .str "z"])])]
    let array : Path := [.key "a", .key "b"]
    let item : Path := array ++ [.index 1]
    value.WellFormed ∧ (set? item (.bool true) value).isSome ∧
      get? item (set item (.bool true) value) = some (.bool true) ∧
      get? array value = some (.arr [.str "x", .str "y", .str "z"]) ∧
      get? (array ++ [.index 0]) (remove item value) = some (.str "x") ∧
      get? (array ++ [.index 1]) (remove item value) = some (.str "z") ∧
      get? (array ++ [.index 2]) (remove item value) = none ∧
      get? array (remove array value) = none := by
  intro value array item
  have hvalue : value.WellFormed := by decide +revert
  obtain ⟨⟨-, hset, -, -⟩, -, -, -, hindex, -⟩ := access_law hvalue item (.bool true)
  obtain ⟨-, -, -, hkey, -, -⟩ := access_law hvalue array .null
  obtain ⟨-, hfront, hback, -⟩ := hindex array 1 _ rfl rfl (by decide)
  exact ⟨hvalue, rfl, (hset rfl).1, rfl, hfront 0 [] (by decide), hback 1 [] (by decide),
    hback 2 [] (by decide), (hkey [.key "a"] "b" rfl).1⟩

end Guardrail.Path
