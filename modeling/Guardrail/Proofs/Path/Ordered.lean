import Guardrail.Proofs.Json.Ordered
import Guardrail.Proofs.Path.Frame

/-!
# Updates and key order

Replacing and removing at a path keeps the objects on the way to it in key order, whatever is put
there.

Results:
* `orderedTo_set`, `orderedTo_remove`: an update keeps a value ordered to the depth of its path.
-/

namespace Guardrail

/-! ## Children -/

namespace Segment

variable {t : Segment} {j c : Json} {n : Nat}

theorem orderedTo_child (hj : j.OrderedTo (n + 1)) (h : t.child? j = some c) :
    c.OrderedTo n := by
  cases j with
  | arr items =>
    cases t with
    | index i => exact hj c (List.mem_of_getElem? h)
    | key k => cases h
    | wildcard => cases h
  | obj members =>
    cases t with
    | key k => exact hj.2 (k, c) (Dict.mem_of_find? h)
    | index i => cases h
    | wildcard => cases h
  | null | bool | num | str => cases t <;> cases h

theorem orderedTo_replaceChild (hj : j.OrderedTo (n + 1)) (hc : c.OrderedTo n) :
    (t.replaceChild c j).OrderedTo (n + 1) := by
  cases t <;> cases j <;> try exact hj
  · refine ⟨hj.1.replace, fun e he => ?_⟩
    rcases Dict.mem_replace he with rfl | hmem
    · exact hc
    · exact hj.2 e hmem
  · intro x hx
    rcases List.mem_or_eq_of_mem_set hx with hmem | rfl
    · exact hj x hmem
    · exact hc

theorem orderedTo_eraseChild (hj : j.OrderedTo (n + 1)) : (t.eraseChild j).OrderedTo (n + 1) := by
  cases t <;> cases j <;> try exact hj
  · exact ⟨hj.1.erase, fun e he => hj.2 e ((Dict.erase_sublist _ _).mem he)⟩
  · exact fun x hx => hj x ((List.eraseIdx_sublist _ _).mem hx)

end Segment

/-! ## Paths -/

namespace Path

variable {p : Path} {j v : Json}

theorem orderedTo_set (hj : j.OrderedTo p.length) : (set p v j).OrderedTo p.length := by
  induction p generalizing j with
  | nil => trivial
  | cons s p ih =>
    cases hs : s.child? j with
    | none => rwa [set_cons_of_none hs]
    | some c =>
      rw [set_cons hs]
      exact Segment.orderedTo_replaceChild hj (ih (Segment.orderedTo_child hj hs))

theorem orderedTo_remove (hj : j.OrderedTo p.length) : (remove p j).OrderedTo p.length := by
  induction p generalizing j with
  | nil => trivial
  | cons s p ih =>
    cases hs : s.child? j with
    | none => rwa [remove_cons_of_none hs]
    | some c =>
      by_cases hp : p = []
      · subst hp
        rw [remove_singleton]
        exact Segment.orderedTo_eraseChild hj
      · rw [remove_cons hp hs]
        exact Segment.orderedTo_replaceChild hj (ih (Segment.orderedTo_child hj hs))

end Path
end Guardrail
