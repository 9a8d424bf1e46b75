import Guardrail.Proofs.Path.Child

/-!
# What an update at a path leaves alone

Reading, replacing and removing at concrete paths. Two paths are apart if neither leads through the
other; of two paths apart one may come before the other in document order. A replacement does not
show at a path apart from its own, and a removal does not show at a path before its own: it moves
only later items of an array.

Results:
* `get?_set_of_apart`, `get?_remove_of_before`: what is read elsewhere after an update.
* `set_set_comm`, `set_remove_comm`: updates in different places commute.
* `set_eq_self`: putting back what stands at a path changes nothing.
-/

namespace Guardrail.Path

variable {s t : Segment} {p q : Path} {j c v w : Json}

/-! ## Updates step by step -/

theorem get?_cons (h : s.child? j = some c) : get? (s :: p) j = get? p c := by
  simp [get?, h]

theorem get?_cons_of_none (h : s.child? j = none) : get? (s :: p) j = none := by
  simp [get?, h]

@[simp] theorem set_nil : set [] v j = v := rfl

theorem set_cons (h : s.child? j = some c) :
    set (s :: p) v j = s.replaceChild (set p v c) j := by
  cases hc : set? p v c with
  | none => simp [set, set?, h, hc, Segment.replaceChild_eq_self h]
  | some c' => simp [set, set?, h, hc]

theorem set_cons_of_none (h : s.child? j = none) : set (s :: p) v j = j := by
  simp [set, set?, h]

@[simp] theorem remove_nil : remove [] j = .null := rfl

theorem remove_singleton : remove [s] j = s.eraseChild j := by
  cases h : s.child? j with
  | none => simp [remove, remove?, h, Segment.eraseChild_eq_self h]
  | some c => simp [remove, remove?, h]

theorem remove_cons (hp : p ≠ []) (h : s.child? j = some c) :
    remove (s :: p) j = s.replaceChild (remove p c) j := by
  cases p with
  | nil => exact absurd rfl hp
  | cons t p =>
    cases hc : remove? (t :: p) c with
    | none => simp [remove, remove?, h, hc, Segment.replaceChild_eq_self h]
    | some r => simp [remove, remove?, h, hc]

theorem remove_cons_of_none (h : s.child? j = none) : remove (s :: p) j = j := by
  cases p with
  | nil => rw [remove_singleton, Segment.eraseChild_eq_self h]
  | cons t p => simp [remove, remove?, h]

/-! ## Paths apart -/

/-- Neither path leads through the other. -/
def Apart (p q : Path) : Prop := ¬ p <+: q ∧ ¬ q <+: p

theorem Apart.symm (h : Apart p q) : Apart q p := ⟨h.2, h.1⟩

theorem apart_cons : Apart (s :: p) (t :: q) ↔ s ≠ t ∨ s = t ∧ Apart p q := by
  by_cases hst : s = t
  · subst hst
    simp [Apart, List.cons_prefix_cons]
  · simp [Apart, List.cons_prefix_cons, hst, Ne.symm hst]

theorem not_apart_nil_left : ¬ Apart [] q := fun h => h.1 List.nil_prefix

theorem not_apart_nil_right : ¬ Apart p [] := fun h => h.2 List.nil_prefix

theorem apart_of_length_eq (hlen : p.length = q.length) (h : p ≠ q) : Apart p q :=
  ⟨fun hpq => h (hpq.eq_of_length hlen), fun hqp => h (hqp.eq_of_length hlen.symm).symm⟩

/-- One path leaves the other towards something that comes before it in the document. -/
def Before : Path → Path → Prop
  | s :: p, t :: q => s.Before t ∨ s = t ∧ Before p q
  | _, _ => False

theorem Before.apart (h : Before p q) : Apart p q := by
  induction p generalizing q with
  | nil => exact absurd h (by simp [Before])
  | cons s p ih =>
    cases q with
    | nil => exact absurd h (by simp [Before])
    | cons t q =>
      rw [apart_cons]
      rcases h with hst | ⟨hst, hpq⟩
      · exact .inl hst.ne
      · exact .inr ⟨hst, ih hpq⟩

/-! ## Replacements -/

theorem get?_set_self (h : (get? p j).isSome) : get? p (set p v j) = some v := by
  induction p generalizing j with
  | nil => rfl
  | cons s p ih =>
    cases hc : s.child? j with
    | none => simp [get?_cons_of_none hc] at h
    | some c =>
      rw [get?_cons hc] at h
      rw [set_cons hc, get?_cons (Segment.child?_replaceChild_self hc), ih h]

/-- A replacement below one child of the value leaves the other children alone. -/
theorem child?_set_of_ne (h : s ≠ t) : s.child? (set (t :: q) v j) = s.child? j := by
  cases ht : t.child? j with
  | none => rw [set_cons_of_none ht]
  | some c => rw [set_cons ht, Segment.child?_replaceChild_of_ne h]

theorem replaceChild_set_comm (h : s ≠ t) :
    s.replaceChild v (set (t :: q) w j) = set (t :: q) w (s.replaceChild v j) := by
  cases ht : t.child? j with
  | none =>
    rw [set_cons_of_none ht, set_cons_of_none]
    rw [Segment.child?_replaceChild_of_ne h.symm, ht]
  | some c =>
    have ht' : t.child? (s.replaceChild v j) = some c := by
      rw [Segment.child?_replaceChild_of_ne h.symm, ht]
    rw [set_cons ht, set_cons ht', Segment.replaceChild_comm h]

theorem get?_set_of_apart (h : Apart p q) : get? p (set q v j) = get? p j := by
  induction p generalizing q j with
  | nil => exact absurd h not_apart_nil_left
  | cons s p ih =>
    cases q with
    | nil => exact absurd h not_apart_nil_right
    | cons t q =>
      rcases apart_cons.1 h with hst | ⟨rfl, hpq⟩
      · simp only [get?, child?_set_of_ne hst]
      · cases hs : s.child? j with
        | none => rw [set_cons_of_none hs]
        | some c =>
          rw [set_cons hs, get?_cons (Segment.child?_replaceChild_self hs), get?_cons hs, ih hpq]

theorem set_eq_self (h : get? p j = some v) : set p v j = j := by
  induction p generalizing j with
  | nil => simpa [get?] using h.symm
  | cons s p ih =>
    cases hc : s.child? j with
    | none => exact set_cons_of_none hc
    | some c =>
      rw [get?_cons hc] at h
      rw [set_cons hc, ih h, Segment.replaceChild_eq_self hc]

theorem set_set_comm (h : Apart p q) : set p v (set q w j) = set q w (set p v j) := by
  induction p generalizing q j with
  | nil => exact absurd h not_apart_nil_left
  | cons s p ih =>
    cases q with
    | nil => exact absurd h not_apart_nil_right
    | cons t q =>
      cases hs : s.child? j with
      | none =>
        rw [set_cons_of_none hs]
        rcases apart_cons.1 h with hst | ⟨rfl, hpq⟩
        · exact set_cons_of_none (by rw [child?_set_of_ne hst, hs])
        · rw [set_cons_of_none hs, set_cons_of_none hs]
      | some c =>
        rw [set_cons hs]
        rcases apart_cons.1 h with hst | ⟨rfl, hpq⟩
        · rw [set_cons (by rw [child?_set_of_ne hst, hs]), replaceChild_set_comm hst]
        · rw [set_cons hs, set_cons (Segment.child?_replaceChild_self hs),
            set_cons (Segment.child?_replaceChild_self hs), ih hpq,
            Segment.replaceChild_replaceChild_self, Segment.replaceChild_replaceChild_self]

/-! ## Removals -/

theorem Before.ne_nil (h : Before p q) : p ≠ [] ∧ q ≠ [] := by
  cases p with
  | nil => exact absurd h (by simp [Before])
  | cons s p =>
    cases q with
    | nil => exact absurd h (by simp [Before])
    | cons t q => exact ⟨List.cons_ne_nil _ _, List.cons_ne_nil _ _⟩

/-- A removal touches one child of the value: it erases it, or removes something inside it. -/
theorem child?_remove_of_before (h : s.Before t) : s.child? (remove (t :: q) j) = s.child? j := by
  cases ht : t.child? j with
  | none => rw [remove_cons_of_none ht]
  | some c =>
    by_cases hq : q = []
    · subst hq
      rw [remove_singleton, Segment.child?_eraseChild_of_before h]
    · rw [remove_cons hq ht, Segment.child?_replaceChild_of_ne h.ne]

theorem replaceChild_remove_comm (h : s.Before t) :
    s.replaceChild v (remove (t :: q) j) = remove (t :: q) (s.replaceChild v j) := by
  cases ht : t.child? j with
  | none =>
    rw [remove_cons_of_none ht, remove_cons_of_none]
    rw [Segment.child?_replaceChild_of_ne h.ne.symm, ht]
  | some c =>
    by_cases hq : q = []
    · subst hq
      rw [remove_singleton, remove_singleton, Segment.replaceChild_eraseChild_comm h]
    · have ht' : t.child? (s.replaceChild v j) = some c := by
        rw [Segment.child?_replaceChild_of_ne h.ne.symm, ht]
      rw [remove_cons hq ht, remove_cons hq ht', Segment.replaceChild_comm h.ne]

theorem get?_remove_of_before (h : Before p q) : get? p (remove q j) = get? p j := by
  induction p generalizing q j with
  | nil => exact absurd rfl h.ne_nil.1
  | cons s p ih =>
    cases q with
    | nil => exact absurd rfl h.ne_nil.2
    | cons t q =>
      rcases h with hst | ⟨rfl, hpq⟩
      · simp only [get?, child?_remove_of_before hst]
      · cases hs : s.child? j with
        | none => rw [remove_cons_of_none hs]
        | some c =>
          rw [remove_cons hpq.ne_nil.2 hs, get?_cons (Segment.child?_replaceChild_self hs),
            get?_cons hs, ih hpq]

theorem set_remove_comm (h : Before p q) : set p v (remove q j) = remove q (set p v j) := by
  induction p generalizing q j with
  | nil => exact absurd rfl h.ne_nil.1
  | cons s p ih =>
    cases q with
    | nil => exact absurd rfl h.ne_nil.2
    | cons t q =>
      cases hs : s.child? j with
      | none =>
        rw [set_cons_of_none hs]
        rcases h with hst | ⟨rfl, hpq⟩
        · exact set_cons_of_none (by rw [child?_remove_of_before hst, hs])
        · rw [remove_cons_of_none hs, set_cons_of_none hs]
      | some c =>
        rw [set_cons hs]
        rcases h with hst | ⟨rfl, hpq⟩
        · rw [set_cons (by rw [child?_remove_of_before hst, hs]), replaceChild_remove_comm hst]
        · rw [remove_cons hpq.ne_nil.2 hs,
            remove_cons hpq.ne_nil.2 (Segment.child?_replaceChild_self hs),
            set_cons (Segment.child?_replaceChild_self hs), ih hpq,
            Segment.replaceChild_replaceChild_self, Segment.replaceChild_replaceChild_self]

end Guardrail.Path
