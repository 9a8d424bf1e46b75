import Guardrail.Proofs.Dict.Update

/-!
# Binding keys in order

An insertion puts its binding where the key order wants it and brings nothing else in, so a
dictionary built by insertions is sorted.

Results:
* `Sorted.insert`, `sorted_ofList`: what is built by insertions is in key order.
* `mem_insert`, `mem_ofList`: every binding comes from an insertion.
* `ofList_of_sorted`: bindings that are in key order are a dictionary as they stand.
-/

namespace Guardrail.Dict

variable {α : Type u} {d : Dict α} {key : String} {v : α} {entry : String × α}

theorem mem_insert (h : entry ∈ d.insert key v) : entry = (key, v) ∨ entry ∈ d := by
  induction d with
  | nil => exact .inl (by simpa [insert] using h)
  | cons first rest ih =>
    obtain ⟨k, x⟩ := first
    rw [insert] at h
    by_cases hlt : key < k
    · rw [if_pos hlt] at h
      exact List.mem_cons.1 h
    · rw [if_neg hlt] at h
      by_cases hk : k = key
      · rw [if_pos hk] at h
        exact (List.mem_cons.1 h).imp_right (List.mem_cons_of_mem _)
      · rw [if_neg hk] at h
        rcases List.mem_cons.1 h with rfl | hrest
        · exact .inr List.mem_cons_self
        · exact (ih hrest).imp_right (List.mem_cons_of_mem _)

theorem Sorted.insert (hd : d.Sorted) : Sorted (d.insert key v) := by
  induction d with
  | nil => simp [Dict.insert, Sorted, keys]
  | cons first rest ih =>
    obtain ⟨k, x⟩ := first
    obtain ⟨hfirst, hrest⟩ := sorted_cons.1 hd
    rw [Dict.insert]
    by_cases hlt : key < k
    · rw [if_pos hlt, sorted_cons]
      refine ⟨fun e he => ?_, hd⟩
      rcases List.mem_cons.1 he with rfl | hmem
      · exact hlt
      · exact String.lt_trans hlt (hfirst e hmem)
    · rw [if_neg hlt]
      by_cases hk : k = key
      · subst hk
        rw [if_pos rfl, sorted_cons]
        exact ⟨hfirst, hrest⟩
      · have hgt : k < key := by
          rw [← String.not_le]
          exact fun hle => hk (String.le_antisymm (String.not_lt.1 hlt) hle)
        rw [if_neg hk, sorted_cons]
        refine ⟨fun e he => ?_, ih hrest⟩
        rcases mem_insert he with rfl | hmem
        · exact hgt
        · exact hfirst e hmem

theorem sorted_override {bindings : List (String × α)} (hd : d.Sorted) :
    Sorted (d.override bindings) := by
  induction bindings generalizing d with
  | nil => exact hd
  | cons e es ih => exact ih hd.insert

theorem sorted_ofList (bindings : List (String × α)) : Sorted (ofList bindings) :=
  sorted_override List.Pairwise.nil

theorem mem_override {bindings : List (String × α)} (h : entry ∈ d.override bindings) :
    entry ∈ d ∨ entry ∈ bindings := by
  induction bindings generalizing d with
  | nil => exact .inl h
  | cons e es ih =>
    rcases ih h with hins | hes
    · rcases mem_insert hins with rfl | hmem
      · exact .inr List.mem_cons_self
      · exact .inl hmem
    · exact .inr (List.mem_cons_of_mem _ hes)

theorem mem_ofList {bindings : List (String × α)} (h : entry ∈ ofList bindings) :
    entry ∈ bindings :=
  (mem_override h).resolve_left (by simp)

/-- A key behind all others is bound at the end. -/
theorem insert_of_forall_lt (h : ∀ e ∈ d, e.1 < key) : d.insert key v = d ++ [(key, v)] := by
  induction d with
  | nil => rfl
  | cons first rest ih =>
    obtain ⟨k, x⟩ := first
    obtain ⟨hk, hrest⟩ := List.forall_mem_cons.1 h
    have hlt : ¬ key < k := fun hlt => String.lt_irrefl key (String.lt_trans hlt hk)
    have hne : k ≠ key := fun heq => String.lt_irrefl key (by rwa [heq] at hk)
    rw [insert, if_neg hlt, if_neg hne, ih hrest]
    rfl

theorem override_of_sorted {bindings : List (String × α)} (h : Sorted (d ++ bindings)) :
    d.override bindings = d ++ bindings := by
  induction bindings generalizing d with
  | nil => exact (List.append_nil d).symm
  | cons e es ih =>
    obtain ⟨key, v⟩ := e
    have hlast : ∀ e ∈ d, e.1 < key := by
      intro e he
      rw [Sorted, keys, List.map_append, List.pairwise_append] at h
      exact h.2.2 e.1 (List.mem_map_of_mem he) key List.mem_cons_self
    have hsplit : d ++ (key, v) :: es = d ++ [(key, v)] ++ es := by simp
    rw [hsplit] at h ⊢
    rw [← ih h, ← insert_of_forall_lt hlast]
    rfl

/-- Bindings in key order are a dictionary as they stand. -/
theorem ofList_of_sorted (h : d.Sorted) : ofList d = d := override_of_sorted h

end Guardrail.Dict
