import Guardrail.Proofs.Path.Units

/-!
# Where things stood before a removal

The removal of an item moves the later items of its array up by one place. So what stands at a path
after a removal stood at the path itself before, or one item further down.

Results:
* `restore_cases`: a place is restored to a later one, or it was not moved.
* `get?_remove`: what a path finds after a removal is what the restored path found before.
* `restoreAll_eq_self_iff`: a place is where it was exactly if no removal moved it.
-/

namespace Guardrail

/-! ## Steps -/

namespace Segment

variable {s t : Segment} {j : Json} {n : Nat}

/-- Removing the child at one step moves the child at the other. -/
def Moves : Segment → Segment → Prop
  | .index i, .index k => i ≤ k
  | _, _ => False

/-- The step that led, before the child at a step was removed, to what the other step leads to
after. -/
def restore : Segment → Segment → Segment
  | .index i, .index k => if i ≤ k then .index (k + 1) else .index k
  | _, t => t

theorem restore_cases (s t : Segment) :
    (¬ s.Moves t ∧ s.restore t = t) ∨
      (s.Moves t ∧ t.Before (s.restore t) ∧ s.Before (s.restore t)) := by
  cases s with
  | key k => exact .inl ⟨id, rfl⟩
  | wildcard => exact .inl ⟨id, rfl⟩
  | index i =>
    cases t with
    | key k => exact .inl ⟨id, rfl⟩
    | wildcard => exact .inl ⟨id, rfl⟩
    | index k =>
      by_cases hik : i ≤ k
      · refine .inr ⟨hik, ?_⟩
        simp only [restore, if_pos hik, Before]
        omega
      · exact .inl ⟨hik, by simp only [restore, if_neg hik]⟩

/-- A step never leads to the child that was removed. -/
theorem child?_eraseChild (hj : j.OrderedTo (n + 1)) (hs : (s.child? j).isSome)
    (ht : (t.child? (s.eraseChild j)).isSome) :
    t.child? (s.eraseChild j) = (s.restore t).child? j ∧ s.restore t ≠ s := by
  cases j with
  | arr items =>
    cases s with
    | index i =>
      cases t with
      | index k =>
        simp only [eraseChild, child?, restore, List.getElem?_eraseIdx]
        by_cases hik : i ≤ k
        · simp only [if_neg (Nat.not_lt.2 hik), if_pos hik, ne_eq, index.injEq]
          exact ⟨trivial, by omega⟩
        · simp only [if_pos (Nat.lt_of_not_le hik), if_neg hik, ne_eq, index.injEq]
          exact ⟨trivial, by omega⟩
      | key k => simp [eraseChild, child?] at ht
      | wildcard => simp [child?] at ht
    | key k => simp [child?] at hs
    | wildcard => simp [child?] at hs
  | obj members =>
    cases s with
    | key k =>
      cases t with
      | key l =>
        by_cases hkl : l = k
        · subst hkl
          simp [eraseChild, child?, Dict.find?_erase_self hj.1] at ht
        · simp only [eraseChild, child?, restore, ne_eq, key.injEq]
          exact ⟨Dict.find?_erase_of_ne _ hkl, hkl⟩
      | index i => simp [eraseChild, child?] at ht
      | wildcard => simp [child?] at ht
    | index i => simp [child?] at hs
    | wildcard => simp [child?] at hs
  | null | bool | num | str => cases s <;> simp [child?] at hs

theorem Before.trans {a b c : Segment} (hab : a.Before b) (hbc : b.Before c) : a.Before c := by
  cases a <;> cases b <;> cases c <;> simp only [Before] at *
  · exact String.lt_trans hab hbc
  · omega

end Segment

/-! ## Paths -/

namespace Path

variable {r u w : Path} {rs : List Path} {j : Json}

theorem Before.trans (huw : Before u w) (hwr : Before w r) : Before u r := by
  induction u generalizing w r with
  | nil => exact absurd rfl huw.ne_nil.1
  | cons a u ih =>
    cases w with
    | nil => exact absurd rfl huw.ne_nil.2
    | cons b w =>
      cases r with
      | nil => exact absurd rfl hwr.ne_nil.2
      | cons c r =>
        rcases huw with hab | ⟨rfl, huw⟩ <;> rcases hwr with hbc | ⟨rfl, hwr⟩
        · exact .inl (hab.trans hbc)
        · exact .inl hab
        · exact .inl hbc
        · exact .inr ⟨rfl, ih huw hwr⟩

theorem Before.irrefl (u : Path) : ¬ Before u u := fun h => h.apart.1 (List.prefix_refl u)

/-- A removal at the first path moves what stands at the second: both lead into one array, the
second to the same item or a later one. -/
def Moves : Path → Path → Prop
  | [s], t :: _ => s.Moves t
  | s :: s' :: r, t :: u => s = t ∧ Moves (s' :: r) u
  | _, _ => False

theorem moves_iff :
    Moves r u ↔ ∃ p i k q, r = p ++ [.index i] ∧ u = p ++ .index k :: q ∧ i ≤ k := by
  constructor
  · intro h
    induction r generalizing u with
    | nil => exact absurd h (by simp [Moves])
    | cons s r ih =>
      cases u with
      | nil => cases r <;> exact absurd h (by simp [Moves])
      | cons t u =>
        cases r with
        | nil =>
          cases s <;> cases t <;> simp only [Moves, Segment.Moves] at h
          exact ⟨[], _, _, u, rfl, rfl, h⟩
        | cons s' r =>
          obtain ⟨rfl, h⟩ := h
          obtain ⟨p, i, k, q, hr, hu, hik⟩ := ih h
          exact ⟨s :: p, i, k, q, by rw [hr]; rfl, by rw [hu]; rfl, hik⟩
  · rintro ⟨p, i, k, q, rfl, rfl, hik⟩
    induction p with
    | nil => exact hik
    | cons s p ih =>
      cases p with
      | nil => exact ⟨rfl, hik⟩
      | cons s' p => exact ⟨rfl, ih⟩

/-- Where something that stands at a path after a removal stood before. -/
def restore : Path → Path → Path
  | [s], t :: u => s.restore t :: u
  | s :: s' :: r, t :: u => if s = t then t :: restore (s' :: r) u else t :: u
  | _, u => u

/-- A place is restored to a later one, behind the removed one, or it was not moved. -/
theorem restore_cases (r u : Path) :
    (¬ Moves r u ∧ restore r u = u) ∨
      (Moves r u ∧ Before u (restore r u) ∧ Before r (restore r u)) := by
  induction r generalizing u with
  | nil => exact .inl ⟨by simp [Moves], by simp [restore]⟩
  | cons s r ih =>
    cases u with
    | nil => exact .inl (by cases r <;> simp [Moves, restore])
    | cons t u =>
      cases r with
      | nil =>
        rcases Segment.restore_cases s t with ⟨hno, heq⟩ | ⟨hyes, ht, hs⟩
        · exact .inl ⟨hno, by rw [restore, heq]⟩
        · exact .inr ⟨hyes, .inl ht, .inl hs⟩
      | cons s' r =>
        by_cases hst : s = t
        · subst hst
          simp only [Moves, restore, if_true, true_and]
          rcases ih u with ⟨hno, heq⟩ | ⟨hyes, hu, hr⟩
          · exact .inl ⟨hno, by rw [heq]⟩
          · exact .inr ⟨hyes, .inr ⟨rfl, hu⟩, .inr ⟨rfl, hr⟩⟩
        · exact .inl ⟨fun h => hst h.1, by rw [restore, if_neg hst]⟩

/-- Nothing before a removed place is moved. -/
theorem not_moves_of_before (h : Before u r) : ¬ Moves r u := by
  rw [moves_iff]
  rintro ⟨p, i, k, q, rfl, rfl, hik⟩
  induction p with
  | nil =>
    rcases h with hki | ⟨-, hq⟩
    · exact absurd hik (Nat.not_le.2 hki)
    · exact absurd rfl hq.ne_nil.2
  | cons s p ih =>
    rcases h with hss | ⟨-, hp⟩
    · exact absurd rfl hss.ne
    · exact ih hp

/-- Nothing is restored to a place before the removed one but what stands there. -/
theorem eq_of_restore_eq (h : Before w r) (hu : restore r u = w) : u = w := by
  rcases restore_cases r u with ⟨-, heq⟩ | ⟨-, -, hr⟩
  · rw [← hu, heq]
  · rw [hu] at hr
    exact absurd (h.trans hr) (Before.irrefl w)

/-- What a path finds after a removal is what the restored path found before, and that is not what
was removed. -/
theorem get?_remove (hj : j.OrderedTo r.length) (hlen : u.length = r.length) (hr : r ≠ [])
    (hgone : (get? r j).isSome) (hu : (get? u (remove r j)).isSome) :
    get? u (remove r j) = get? (restore r u) j ∧ restore r u ≠ r := by
  induction r generalizing u j with
  | nil => exact absurd rfl hr
  | cons s r ih =>
    cases u with
    | nil => simp at hlen
    | cons t u =>
      cases hs : s.child? j with
      | none => simp [get?_cons_of_none hs] at hgone
      | some c =>
        cases r with
        | nil =>
          obtain rfl : u = [] := List.eq_nil_of_length_eq_zero (by simpa using hlen)
          rw [remove_singleton] at hu ⊢
          have ht : (t.child? (s.eraseChild j)).isSome := by
            cases h : t.child? (s.eraseChild j) with
            | none => simp [get?_cons_of_none h] at hu
            | some d => rfl
          obtain ⟨heq, hne⟩ := Segment.child?_eraseChild hj (by rw [hs]; rfl) ht
          simp only [restore, get?, heq, ne_eq, List.cons.injEq, and_true]
          exact ⟨trivial, hne⟩
        | cons s' r =>
          rw [get?_cons hs] at hgone
          rw [remove_cons (List.cons_ne_nil _ _) hs] at hu ⊢
          by_cases hst : s = t
          · subst hst
            have hc := Segment.orderedTo_child hj hs
            rw [get?_cons (Segment.child?_replaceChild_self hs)] at hu ⊢
            obtain ⟨heq, hne⟩ := ih hc (by simpa using hlen) (List.cons_ne_nil _ _) hgone hu
            simp only [restore, if_true, get?_cons hs, ne_eq, List.cons.injEq, true_and]
            exact ⟨heq, hne⟩
          · simp only [restore, if_neg hst, get?,
              Segment.child?_replaceChild_of_ne (Ne.symm hst), ne_eq, List.cons.injEq]
            exact ⟨trivial, fun h => hst h.1.symm⟩

/-! ## Removal after removal -/

theorem length_restore (r u : Path) : (restore r u).length = u.length := by
  induction r generalizing u with
  | nil => simp [restore]
  | cons s r ih =>
    cases u with
    | nil => cases r <;> simp [restore]
    | cons t u =>
      cases r with
      | nil => rfl
      | cons s' r =>
        rw [restore]
        split
        · rw [List.length_cons, List.length_cons, ih]
        · rfl

/-- Where something that stands at a path after removals stood before the first of them, given the
last one first. -/
def restoreAll (rs : List Path) (u : Path) : Path := rs.foldl (fun u r => restore r u) u

theorem restoreAll_cons : restoreAll (r :: rs) u = restoreAll rs (restore r u) := rfl

theorem restoreAll_append {rs' : List Path} :
    restoreAll (rs ++ rs') u = restoreAll rs' (restoreAll rs u) :=
  List.foldl_append

theorem length_restoreAll (rs : List Path) (u : Path) : (restoreAll rs u).length = u.length := by
  induction rs generalizing u with
  | nil => rfl
  | cons r rs ih => rw [restoreAll_cons, ih, length_restore]

theorem restoreAll_eq_or_before (rs : List Path) (u : Path) :
    restoreAll rs u = u ∨ Before u (restoreAll rs u) := by
  induction rs generalizing u with
  | nil => exact .inl rfl
  | cons r rs ih =>
    rw [restoreAll_cons]
    rcases restore_cases r u with ⟨-, heq⟩ | ⟨-, hu, -⟩
    · rw [heq]
      exact ih u
    · rcases ih (restore r u) with heq | hbefore
      · rw [heq]
        exact .inr hu
      · exact .inr (hu.trans hbefore)

/-- A place is where it was exactly if no removal moved it. -/
theorem restoreAll_eq_self_iff : restoreAll rs u = u ↔ ∀ r ∈ rs, ¬ Moves r u := by
  induction rs with
  | nil => simp [restoreAll]
  | cons r rs ih =>
    rw [restoreAll_cons, List.forall_mem_cons, ← ih]
    rcases restore_cases r u with ⟨hno, heq⟩ | ⟨hyes, hu, -⟩
    · rw [heq]
      exact ⟨fun h => ⟨hno, h⟩, fun h => h.2⟩
    · constructor
      · intro h
        rcases restoreAll_eq_or_before rs (restore r u) with heq | hbefore
        · rw [h] at heq
          rw [← heq] at hu
          exact absurd hu (Before.irrefl u)
        · rw [h] at hbefore
          exact absurd (hu.trans hbefore) (Before.irrefl u)
      · exact fun h => absurd hyes h.1

theorem eq_of_restoreAll_eq (h : ∀ r ∈ rs, Before w r) (hu : restoreAll rs u = w) : u = w := by
  induction rs generalizing u with
  | nil => exact hu
  | cons r rs ih =>
    exact eq_of_restore_eq (h r List.mem_cons_self)
      (ih (fun r' hr' => h r' (List.mem_cons_of_mem _ hr')) hu)

end Path
end Guardrail
