import Guardrail.Proofs.Path.Frame

/-!
# Values put one after another

Values are put at concrete paths one after another, those at deeper paths first. Nothing then stands
at a path that did not stand there before, and what is read at a path in the end is what was put
there last, unless something was put later at a path that leads through it.

Results:
* `isSome_get?_set`, `isSome_get?_of_remove`: an update at a path lets nothing new stand at a path
  that is not deeper.
* `get?_setAll_of_last`: what is read where a value was put that no later one covers.
-/

namespace Guardrail

/-! ## Children -/

namespace Segment

variable {s t : Segment} {j : Json}

theorem isSome_child?_of_eraseChild (h : (s.child? (t.eraseChild j)).isSome) :
    (s.child? j).isSome := by
  obtain ⟨c, hc⟩ := Option.isSome_iff_exists.1 h
  cases j with
  | arr items =>
    cases t with
    | index i =>
      cases s with
      | index k =>
        obtain ⟨hk, -⟩ := List.getElem?_eq_some_iff.1 hc
        have hlen := (List.eraseIdx_sublist items i).length_le
        simp only [child?]
        rw [List.getElem?_eq_getElem (Nat.lt_of_lt_of_le hk hlen)]
        rfl
      | key k => cases hc
      | wildcard => cases hc
    | key k => exact h
    | wildcard => exact h
  | obj members =>
    cases t with
    | key l =>
      cases s with
      | key k =>
        cases hk : Dict.find? members k with
        | some x => simp only [child?, hk, Option.isSome_some]
        | none =>
          -- what is bound after the removal of a key was bound before
          have hmem := (Dict.erase_sublist members l).mem (Dict.mem_of_find? hc)
          exact absurd rfl (Dict.ne_of_find?_eq_none hk hmem)
      | index i => cases hc
      | wildcard => cases hc
    | index i => exact h
    | wildcard => exact h
  | null | bool | num | str => cases t <;> exact h

end Segment

namespace Path

variable {p q u : Path} {j v : Json} {before after : List (Path × Json)}

/-! ## What stands where after one update -/

theorem get?_append : get? (p ++ q) j = (get? p j).bind (get? q) := by
  induction p generalizing j with
  | nil => rfl
  | cons s p ih =>
    cases hs : s.child? j with
    | none => rw [List.cons_append, get?_cons_of_none hs, get?_cons_of_none hs, Option.bind_none]
    | some c => rw [List.cons_append, get?_cons hs, get?_cons hs, ih]

theorem isSome_get?_set (h : p.length ≤ q.length) :
    (get? p (set q v j)).isSome = (get? p j).isSome := by
  induction p generalizing q j with
  | nil => rfl
  | cons s p ih =>
    cases q with
    | nil => simp at h
    | cons t q =>
      by_cases hst : s = t
      · subst hst
        cases hs : s.child? j with
        | none => rw [set_cons_of_none hs]
        | some c =>
          rw [set_cons hs, get?_cons (Segment.child?_replaceChild_self hs), get?_cons hs,
            ih (Nat.le_of_succ_le_succ h)]
      · simp only [get?, child?_set_of_ne hst]

theorem isSome_get?_of_remove (h : p.length ≤ q.length)
    (hp : (get? p (remove q j)).isSome) : (get? p j).isSome := by
  induction p generalizing q j with
  | nil => rfl
  | cons s p ih =>
    cases q with
    | nil => simp at h
    | cons t q =>
      cases ht : t.child? j with
      | none => rwa [remove_cons_of_none ht] at hp
      | some c =>
        by_cases hq : q = []
        · -- the path ends where the removal takes place
          subst hq
          obtain rfl := List.eq_nil_of_length_eq_zero (Nat.le_zero.1 (Nat.le_of_succ_le_succ h))
          rw [remove_singleton] at hp
          have hchild := Segment.isSome_child?_of_eraseChild (Option.isSome_of_isSome_bind hp)
          obtain ⟨c', hc'⟩ := Option.isSome_iff_exists.1 hchild
          rw [get?_cons hc']
          rfl
        · rw [remove_cons hq ht] at hp
          by_cases hst : s = t
          · subst hst
            rw [get?_cons (Segment.child?_replaceChild_self ht)] at hp
            rw [get?_cons ht]
            exact ih (Nat.le_of_succ_le_succ h) hp
          · simp only [get?, Segment.child?_replaceChild_of_ne hst] at hp ⊢
            exact hp

/-- A path that is not deeper than another, and does not lead to it, is apart from it or leads
through it. -/
theorem apart_of_length_le (hlen : q.length ≤ p.length) (h : ¬ q <+: p) : Apart p q := by
  refine ⟨fun hpq => ?_, h⟩
  obtain rfl := hpq.eq_of_length_le hlen
  exact h (List.prefix_refl p)

/-! ## Values put one after another -/

/-- The value with others put at paths in it, one after another. -/
def setAll (writes : List (Path × Json)) (j : Json) : Json :=
  writes.foldl (fun j w => w.1.set w.2 j) j

theorem setAll_append : setAll (before ++ after) j = setAll after (setAll before j) :=
  List.foldl_append

theorem isSome_get?_setAll (h : ∀ w ∈ before, p.length ≤ w.1.length) :
    (get? p (setAll before j)).isSome = (get? p j).isSome := by
  induction before generalizing j with
  | nil => rfl
  | cons w ws ih =>
    obtain ⟨hw, hws⟩ := List.forall_mem_cons.1 h
    show (get? p (setAll ws (w.1.set w.2 j))).isSome = _
    rw [ih hws, isSome_get?_set hw]

theorem get?_setAll_of_apart (h : ∀ w ∈ after, Apart p w.1) :
    get? p (setAll after j) = get? p j := by
  induction after generalizing j with
  | nil => rfl
  | cons w ws ih =>
    obtain ⟨hw, hws⟩ := List.forall_mem_cons.1 h
    show get? p (setAll ws (w.1.set w.2 j)) = _
    rw [ih hws, get?_set_of_apart hw]

/-- What is read below a path where a value was put, if deeper paths come first and none of the
later ones leads to it. -/
theorem get?_setAll_of_last (hp : (get? p j).isSome)
    (hbefore : ∀ w ∈ before, p.length ≤ w.1.length)
    (hafter : ∀ w ∈ after, w.1.length ≤ p.length ∧ ¬ w.1 <+: p) :
    get? (p ++ u) (setAll (before ++ (p, v) :: after) j) = get? u v := by
  have hthere : (get? p (setAll before j)).isSome := by
    rw [isSome_get?_setAll hbefore]
    exact hp
  have hput : get? p (set p v (setAll before j)) = some v := get?_set_self hthere
  have hkept : get? p (setAll after (set p v (setAll before j))) = some v := by
    rw [get?_setAll_of_apart fun w hw => apart_of_length_le (hafter w hw).1 (hafter w hw).2, hput]
  rw [setAll_append, get?_append]
  show (get? p (setAll after (set p v (setAll before j)))).bind (get? u) = _
  rw [hkept, Option.bind_some]

end Path
end Guardrail
