import Guardrail.Json.Basic

/-!
# Values in key order down to a depth

The objects that can be met within so many steps from the root list their members in key order. A
well-formed value has that to every depth; what a validator puts deep inside a value does not affect
it at the depths above.

Results:
* `orderedTo_of_wellFormed`: a well-formed value is ordered to every depth.
* `OrderedTo.mono`: being ordered to a depth is being ordered to any smaller one.

Whether a value is well formed can be decided.
-/

namespace Guardrail.Json

mutual

/-- Decides whether a value is well formed. -/
def decideWellFormed : (j : Json) → Decidable j.WellFormed
  | .arr items => decideWellFormedItems items
  | .obj members =>
    have := decideWellFormedMembers members
    inferInstanceAs (Decidable (Dict.Sorted members ∧ WellFormedMembers members))
  | .null | .bool _ | .num _ | .str _ => .isTrue trivial

/-- Decides whether the values of a list are well formed. -/
def decideWellFormedItems : (items : List Json) → Decidable (WellFormedItems items)
  | [] => .isTrue trivial
  | x :: xs =>
    have := decideWellFormed x
    have := decideWellFormedItems xs
    inferInstanceAs (Decidable (WellFormed x ∧ WellFormedItems xs))

/-- Decides whether the values of members are well formed. -/
def decideWellFormedMembers :
    (members : List (String × Json)) → Decidable (WellFormedMembers members)
  | [] => .isTrue trivial
  | (_, x) :: xs =>
    have := decideWellFormed x
    have := decideWellFormedMembers xs
    inferInstanceAs (Decidable (WellFormed x ∧ WellFormedMembers xs))

end

instance : DecidablePred WellFormed := decideWellFormed

/-- Every object met in fewer than `n` steps lists its members in strictly increasing key order. -/
def OrderedTo : Nat → Json → Prop
  | 0, _ => True
  | n + 1, .arr items => ∀ x ∈ items, OrderedTo n x
  | n + 1, .obj members => Dict.Sorted members ∧ ∀ e ∈ members, OrderedTo n e.2
  | _ + 1, _ => True

theorem wellFormed_of_mem_items {items : List Json} (h : WellFormedItems items) {x : Json}
    (hx : x ∈ items) : WellFormed x := by
  induction items with
  | nil => cases hx
  | cons y rest ih =>
    rcases List.mem_cons.1 hx with rfl | hmem
    · exact h.1
    · exact ih h.2 hmem

theorem wellFormed_of_mem_members {members : List (String × Json)} (h : WellFormedMembers members)
    {e : String × Json} (he : e ∈ members) : WellFormed e.2 := by
  induction members with
  | nil => cases he
  | cons first rest ih =>
    rcases List.mem_cons.1 he with rfl | hmem
    · exact h.1
    · exact ih h.2 hmem

theorem orderedTo_of_wellFormed {j : Json} (h : j.WellFormed) (n : Nat) : j.OrderedTo n := by
  induction n generalizing j with
  | zero => trivial
  | succ n ih =>
    cases j with
    | arr items => exact fun x hx => ih (wellFormed_of_mem_items h hx)
    | obj members => exact ⟨h.1, fun e he => ih (wellFormed_of_mem_members h.2 he)⟩
    | null | bool | num | str => trivial

theorem OrderedTo.mono {j : Json} {m n : Nat} (h : j.OrderedTo n) (hmn : m ≤ n) :
    j.OrderedTo m := by
  induction m generalizing j n with
  | zero => trivial
  | succ m ih =>
    obtain ⟨n, rfl⟩ : ∃ k, n = k + 1 := ⟨n - 1, by omega⟩
    cases j with
    | arr items => exact fun x hx => ih (h x hx) (by omega)
    | obj members => exact ⟨h.1, fun e he => ih (h.2 e he) (by omega)⟩
    | null | bool | num | str => trivial

end Guardrail.Json
