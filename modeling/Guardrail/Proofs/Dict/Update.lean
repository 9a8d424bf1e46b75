import Guardrail.Dict

/-!
# Replacing and erasing bindings

What is left alone when the binding of one key is replaced or erased, and how the two operations
commute. A dictionary in key order binds no key twice, so a binding that is met on a walk is the one
that a lookup finds.

Results:
* `find?_replace_of_ne`, `replace_comm`, `replace_erase_comm`: bindings of different keys do not
  interfere.
* `replace_eq_self`: binding a key to the value that it has already changes nothing.
* `Sorted.find?_of_mem`: in a sorted dictionary every binding is the one that is found.
* `Sorted.replace`, `Sorted.erase`: a sorted dictionary stays sorted.
-/

namespace Guardrail.Dict

variable {α : Type u} {d : Dict α} {key other : String} {v w : α}

/-! ## Lookups after a replacement -/

theorem find?_replace_self (h : d.find? key = some v) : (d.replace key w).find? key = some w := by
  induction d with
  | nil => simp [find?] at h
  | cons entry rest ih =>
    obtain ⟨k, x⟩ := entry
    by_cases hk : k = key
    · simp [replace, hk, find?]
    · simp only [find?, if_neg hk] at h
      simp [replace, hk, find?, ih h]

theorem find?_replace_of_ne (d : Dict α) (w : α) (h : other ≠ key) :
    (d.replace key w).find? other = d.find? other := by
  induction d with
  | nil => rfl
  | cons entry rest ih =>
    obtain ⟨k, x⟩ := entry
    by_cases hk : k = key
    · subst hk
      simp [replace, find?, h.symm]
    · simp [replace, hk, find?, ih]

theorem mem_of_find? (h : d.find? key = some v) : (key, v) ∈ d := by
  induction d with
  | nil => simp [find?] at h
  | cons entry rest ih =>
    obtain ⟨k, x⟩ := entry
    by_cases hk : k = key
    · simp only [find?, if_pos hk, Option.some.injEq] at h
      simp [hk, h]
    · simp only [find?, if_neg hk] at h
      exact List.mem_cons_of_mem _ (ih h)

theorem ne_of_find?_eq_none (h : d.find? key = none) (hmem : (other, v) ∈ d) : other ≠ key := by
  induction d with
  | nil => cases hmem
  | cons entry rest ih =>
    obtain ⟨k, x⟩ := entry
    by_cases hk : k = key
    · simp [find?, hk] at h
    · simp only [find?, if_neg hk] at h
      rcases List.mem_cons.1 hmem with heq | hrest
      · rw [(Prod.mk.inj heq).1]
        exact hk
      · exact ih h hrest

/-! ## Repeated and independent updates -/

theorem replace_replace_self (d : Dict α) (key : String) (v w : α) :
    (d.replace key v).replace key w = d.replace key w := by
  induction d with
  | nil => rfl
  | cons entry rest ih =>
    obtain ⟨k, x⟩ := entry
    by_cases hk : k = key
    · simp [replace, hk]
    · simp [replace, hk, ih]

theorem replace_eq_self (h : d.find? key = some v) : d.replace key v = d := by
  induction d with
  | nil => rfl
  | cons entry rest ih =>
    obtain ⟨k, x⟩ := entry
    by_cases hk : k = key
    · simp only [find?, hk, if_true, Option.some.injEq] at h
      simp [replace, hk, h]
    · simp only [find?, if_neg hk] at h
      simp [replace, hk, ih h]

theorem replace_comm (d : Dict α) (v w : α) (h : other ≠ key) :
    (d.replace key v).replace other w = (d.replace other w).replace key v := by
  induction d with
  | nil => rfl
  | cons entry rest ih =>
    obtain ⟨k, x⟩ := entry
    by_cases hk : k = key
    · subst hk
      simp [replace, h.symm]
    · by_cases ho : k = other
      · subst ho
        simp [replace, h]
      · simp [replace, hk, ho, ih]

theorem replace_erase_comm (d : Dict α) (v : α) (h : other ≠ key) :
    (d.erase other).replace key v = (d.replace key v).erase other := by
  induction d with
  | nil => rfl
  | cons entry rest ih =>
    obtain ⟨k, x⟩ := entry
    by_cases hk : k = key
    · subst hk
      simp [replace, erase, h.symm]
    · by_cases ho : k = other
      · subst ho
        simp [replace, erase, h]
      · simp [replace, erase, hk, ho, ih]

theorem erase_eq_self (h : d.find? key = none) : d.erase key = d := by
  induction d with
  | nil => rfl
  | cons entry rest ih =>
    obtain ⟨k, x⟩ := entry
    by_cases hk : k = key
    · simp [find?, hk] at h
    · simp only [find?, if_neg hk] at h
      simp [erase, hk, ih h]

/-! ## Bindings behind others -/

theorem find?_append_of_ne {e : Dict α} (h : ∀ entry ∈ d, entry.1 ≠ key) :
    find? (d ++ e) key = find? e key := by
  induction d with
  | nil => rfl
  | cons entry rest ih =>
    rw [List.cons_append, find?, if_neg (h entry List.mem_cons_self),
      ih fun x hx => h x (List.mem_cons_of_mem _ hx)]

theorem replace_append_of_ne {e : Dict α} (h : ∀ entry ∈ d, entry.1 ≠ key) :
    replace (d ++ e) key v = d ++ replace e key v := by
  induction d with
  | nil => rfl
  | cons entry rest ih =>
    rw [List.cons_append, replace, if_neg (h entry List.mem_cons_self),
      ih fun x hx => h x (List.mem_cons_of_mem _ hx), List.cons_append]

theorem erase_append_of_ne {e : Dict α} (h : ∀ entry ∈ d, entry.1 ≠ key) :
    erase (d ++ e) key = d ++ erase e key := by
  induction d with
  | nil => rfl
  | cons entry rest ih =>
    rw [List.cons_append, erase, if_neg (h entry List.mem_cons_self),
      ih fun x hx => h x (List.mem_cons_of_mem _ hx), List.cons_append]

/-! ## Dictionaries in key order -/

theorem sorted_cons {entry : String × α} {rest : Dict α} :
    Sorted (entry :: rest) ↔ (∀ e ∈ rest, entry.1 < e.1) ∧ Sorted rest := by
  simp [Sorted, keys, List.pairwise_cons]

/-- The bindings before another have smaller keys, hence other ones. -/
theorem ne_of_sorted_append_cons {e : Dict α} (h : Sorted (d ++ (key, v) :: e)) :
    ∀ entry ∈ d, entry.1 ≠ key := by
  have hlt := (List.pairwise_append.1 (List.pairwise_map.1 h)).2.2
  intro entry hentry heq
  exact String.lt_irrefl key (heq ▸ hlt entry hentry (key, v) List.mem_cons_self)

theorem Sorted.find?_of_mem (hd : d.Sorted) {entry : String × α} (h : entry ∈ d) :
    d.find? entry.1 = some entry.2 := by
  induction d with
  | nil => cases h
  | cons first rest ih =>
    obtain ⟨k, x⟩ := first
    obtain ⟨hlt, hrest⟩ := sorted_cons.1 hd
    rcases List.mem_cons.1 h with rfl | hmem
    · simp [find?]
    · have hne : k ≠ entry.1 := fun he => String.lt_irrefl k (he ▸ hlt entry hmem)
      simp only [find?, if_neg hne]
      exact ih hrest hmem

theorem keys_replace (d : Dict α) (key : String) (v : α) : (d.replace key v).keys = d.keys := by
  induction d with
  | nil => rfl
  | cons entry rest ih =>
    obtain ⟨k, x⟩ := entry
    by_cases hk : k = key
    · simp [replace, hk, keys]
    · simpa [replace, hk, keys] using ih

theorem Sorted.replace (hd : d.Sorted) : Sorted (d.replace key v) := by
  rw [Sorted, keys_replace]
  exact hd

theorem mem_replace {entry : String × α} (h : entry ∈ d.replace key v) :
    entry = (key, v) ∨ entry ∈ d := by
  induction d with
  | nil => cases h
  | cons first rest ih =>
    obtain ⟨k, x⟩ := first
    rw [Dict.replace] at h
    by_cases hk : k = key
    · rw [if_pos hk, hk] at h
      exact (List.mem_cons.1 h).imp_right (List.mem_cons_of_mem _)
    · rw [if_neg hk] at h
      rcases List.mem_cons.1 h with rfl | hrest
      · exact .inr List.mem_cons_self
      · exact (ih hrest).imp_right (List.mem_cons_of_mem _)

theorem erase_sublist (d : Dict α) (key : String) : (d.erase key).Sublist d := by
  induction d with
  | nil => exact .slnil
  | cons entry rest ih =>
    obtain ⟨k, x⟩ := entry
    rw [erase]
    by_cases hk : k = key
    · rw [if_pos hk]
      exact List.sublist_cons_self _ _
    · rw [if_neg hk]
      exact ih.cons_cons _

theorem Sorted.erase (hd : d.Sorted) : Sorted (d.erase key) :=
  List.Pairwise.sublist ((erase_sublist d key).map _) hd

end Guardrail.Dict
