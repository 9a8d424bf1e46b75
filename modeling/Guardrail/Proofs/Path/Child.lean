import Guardrail.Path.Basic
import Guardrail.Proofs.Dict.Update

/-!
# Children of a value

How replacing and erasing the child at one step acts on the children at other steps. Steps are
compared in document order: items by index, members by key.

Results:
* `child?_replaceChild_self`, `child?_replaceChild_of_ne`: a replacement is seen at its own step and
  nowhere else.
* `child?_eraseChild_of_before`, `child?_eraseChild_key_of_ne`: erasing a child leaves the children
  before it where they are, and erasing a member all others.
* `replaceChild_comm`, `replaceChild_eraseChild_comm`: updates at different steps commute.
-/

namespace Guardrail.Segment

variable {s t : Segment} {j c c' : Json}

/-! ## Document order -/

/-- One step comes before another in every document that has both. -/
def Before : Segment → Segment → Prop
  | .key k, .key l => k < l
  | .index i, .index j => i < j
  | _, _ => False

theorem Before.ne (h : s.Before t) : s ≠ t := by
  rintro rfl
  cases s with
  | key k => exact String.lt_irrefl k h
  | index i => exact Nat.lt_irrefl i h
  | wildcard => exact h

/-! ## Replacing a child -/

theorem child?_replaceChild_self (h : s.child? j = some c) :
    s.child? (s.replaceChild c' j) = some c' := by
  cases s <;> cases j <;> simp only [child?, reduceCtorEq] at h
  · exact Dict.find?_replace_self h
  · obtain ⟨hi, -⟩ := List.getElem?_eq_some_iff.1 h
    simp [replaceChild, child?, hi]

theorem child?_replaceChild_of_ne (h : t ≠ s) : t.child? (s.replaceChild c j) = t.child? j := by
  cases s <;> cases t <;> cases j <;> try rfl
  · exact Dict.find?_replace_of_ne _ _ fun he => h (congrArg key he)
  · exact List.getElem?_set_ne fun he => h (congrArg index he.symm)

theorem replaceChild_replaceChild_self :
    s.replaceChild c' (s.replaceChild c j) = s.replaceChild c' j := by
  cases s <;> cases j <;> try rfl
  · exact congrArg Json.obj (Dict.replace_replace_self _ _ _ _)
  · exact congrArg Json.arr (List.set_set _)

theorem replaceChild_eq_self (h : s.child? j = some c) : s.replaceChild c j = j := by
  cases s <;> cases j <;> simp only [child?, reduceCtorEq] at h
  · exact congrArg Json.obj (Dict.replace_eq_self h)
  · obtain ⟨hi, rfl⟩ := List.getElem?_eq_some_iff.1 h
    exact congrArg Json.arr (List.set_getElem_self hi)

theorem replaceChild_comm (h : t ≠ s) :
    t.replaceChild c' (s.replaceChild c j) = s.replaceChild c (t.replaceChild c' j) := by
  cases s <;> cases t <;> cases j <;> try rfl
  · exact congrArg Json.obj (Dict.replace_comm _ _ _ fun he => h (congrArg key he))
  · exact congrArg Json.arr (List.set_comm _ _ fun he => h (congrArg index he.symm))

/-! ## Erasing a child -/

theorem eraseChild_eq_self (h : s.child? j = none) : s.eraseChild j = j := by
  cases s <;> cases j <;> try rfl
  · exact congrArg Json.obj (Dict.erase_eq_self h)
  · exact congrArg Json.arr (List.eraseIdx_of_length_le (List.getElem?_eq_none_iff.1 h))

theorem child?_eraseChild_of_before (h : s.Before t) : s.child? (t.eraseChild j) = s.child? j := by
  cases s <;> cases t <;> cases j <;> try rfl
  · exact Dict.find?_erase_of_ne _ fun he => h.ne (congrArg key he)
  · exact List.getElem?_eraseIdx_of_lt h

/-- Erasing a member leaves all other children where they are. -/
theorem child?_eraseChild_key_of_ne {k : String} (h : t ≠ .key k) (j : Json) :
    t.child? ((key k).eraseChild j) = t.child? j := by
  cases t <;> cases j <;> try rfl
  · exact Dict.find?_erase_of_ne _ fun heq => h (congrArg key heq)

theorem replaceChild_eraseChild_comm (h : s.Before t) :
    s.replaceChild c (t.eraseChild j) = t.eraseChild (s.replaceChild c j) := by
  cases s <;> cases t <;> cases j <;> try rfl
  · exact congrArg Json.obj (Dict.replace_erase_comm _ _ fun he => h.ne (congrArg key he).symm)
  · exact congrArg Json.arr (List.eraseIdx_set_gt h).symm

end Guardrail.Segment
