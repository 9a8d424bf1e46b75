import Guardrail.Proofs.Dict.Insert

/-!
# Dictionaries by their lookups

A dictionary in key order is known by what is found in it. Of several bindings that are put into a
dictionary for one key the last one is found.

Results:
* `find?_override`, `find?_ofList`: what is found among bindings that were put in one by one.
* `find?_reverse`: of bindings for different keys the order does not matter.
* `find?_filter`, `find?_map`: what is found among the bindings of some keys, and after the values
  were changed.
* `eq_of_find?_eq`: sorted dictionaries with the same lookups are equal.
-/

namespace Guardrail.Dict

variable {α : Type u} {d e : Dict α} {key : String}

theorem find?_append (d e : Dict α) (key : String) :
    Dict.find? (d ++ e) key = (d.find? key).or (e.find? key) := by
  induction d with
  | nil => rfl
  | cons first rest ih =>
    obtain ⟨k, v⟩ := first
    rw [List.cons_append, find?, find?]
    split
    · rfl
    · exact ih

theorem find?_override (d : Dict α) (bindings : List (String × α)) (key : String) :
    (d.override bindings).find? key = (Dict.find? bindings.reverse key).or (d.find? key) := by
  induction bindings generalizing d with
  | nil => rfl
  | cons first rest ih =>
    obtain ⟨k, v⟩ := first
    rw [List.reverse_cons, find?_append, Option.or_assoc]
    refine (ih (d.insert k v)).trans (congrArg _ ?_)
    by_cases hk : k = key
    · subst hk
      simp [find?_insert_self, find?]
    · rw [find?_insert_of_ne d v (Ne.symm hk)]
      simp [find?, hk]

theorem find?_ofList (bindings : List (String × α)) (key : String) :
    (ofList bindings).find? key = Dict.find? bindings.reverse key := by
  rw [ofList, find?_override]
  exact Option.or_none

theorem find?_reverse (hd : d.keys.Nodup) (key : String) :
    Dict.find? d.reverse key = d.find? key := by
  induction d with
  | nil => rfl
  | cons first rest ih =>
    obtain ⟨k, v⟩ := first
    obtain ⟨hk, hrest⟩ := List.nodup_cons.1 hd
    rw [List.reverse_cons, find?_append, ih hrest, find?, find?, find?]
    by_cases heq : k = key
    · subst heq
      have hnone : Dict.find? rest k = none :=
        find?_eq_none_of_forall_ne fun other hother => ne_of_mem_of_not_mem hother hk
      rw [hnone, if_pos rfl]
      rfl
    · rw [if_neg heq, if_neg heq, Option.or_none]

theorem find?_filter (d : Dict α) (p : String → Bool) (key : String) :
    Dict.find? (d.filter fun entry => p entry.1) key = if p key then d.find? key else none := by
  induction d with
  | nil => simp [find?]
  | cons first rest ih =>
    obtain ⟨k, v⟩ := first
    by_cases hk : k = key
    · subst hk
      cases hp : p k <;> simp_all [find?]
    · cases hp : p k <;> simp [find?, hk, hp, ih]

/-- What is found after the values were changed, each by its key. -/
theorem find?_map {β : Type v} (d : Dict α) (f : String → α → β) (key : String) :
    Dict.find? (d.map fun entry => (entry.1, f entry.1 entry.2)) key =
      (d.find? key).map (f key) := by
  induction d with
  | nil => rfl
  | cons first rest ih =>
    obtain ⟨k, v⟩ := first
    by_cases hk : k = key
    · simp [find?, hk]
    · simp [find?, hk, ih]

theorem keys_map {β : Type v} (d : Dict α) (f : String → α → β) :
    Dict.keys (d.map fun entry => (entry.1, f entry.1 entry.2)) = d.keys := by
  simp [keys, Function.comp_def]

theorem mem_keys_iff : key ∈ d.keys ↔ d.contains key = true := by
  induction d with
  | nil => simp [keys, contains, find?]
  | cons first rest ih =>
    obtain ⟨k, v⟩ := first
    by_cases hk : k = key
    · simp [keys, contains, find?, hk]
    · have hrest : key ∈ keys ((k, v) :: rest) ↔ key ∈ keys rest := by
        simp [keys, Ne.symm hk]
      rw [hrest, ih]
      simp [contains, find?, hk]

/-- The keys that are bound are those of the bindings. -/
theorem contains_ofList (bindings : List (String × α)) :
    (ofList bindings).contains key = true ↔ key ∈ bindings.map (·.1) := by
  rw [contains, find?_ofList]
  change contains bindings.reverse key = true ↔ _
  rw [← mem_keys_iff, keys, List.map_reverse, List.mem_reverse]

theorem mem_iff_find? (hd : d.Sorted) {v : α} : (key, v) ∈ d ↔ d.find? key = some v :=
  ⟨fun hmem => hd.find?_of_mem hmem, mem_of_find?⟩

theorem Sorted.keys_nodup (hd : d.Sorted) : d.keys.Nodup :=
  hd.imp fun {a b} hlt (heq : a = b) => String.lt_irrefl b (by rwa [heq] at hlt)

theorem Sorted.filter (hd : d.Sorted) (p : String × α → Bool) : Sorted (d.filter p) :=
  hd.sublist (List.filter_sublist.map _)

theorem Sorted.pairwise (hd : d.Sorted) : d.Pairwise (·.1 < ·.1) := List.pairwise_map.1 hd

theorem Sorted.nodup (hd : d.Sorted) : d.Nodup :=
  (List.pairwise_map.1 hd.keys_nodup).imp fun hne heq => hne (congrArg Prod.fst heq)

/-- Sorted dictionaries with the same lookups are equal. -/
theorem eq_of_find?_eq (hd : d.Sorted) (he : e.Sorted) (h : ∀ key, d.find? key = e.find? key) :
    d = e := by
  have hperm : d.Perm e := by
    refine (List.perm_ext_iff_of_nodup hd.nodup he.nodup).2 fun ⟨key, v⟩ => ?_
    rw [mem_iff_find? hd, mem_iff_find? he, h]
  refine hperm.eq_of_pairwise (fun a b _ _ hab hba => ?_) hd.pairwise he.pairwise
  exact absurd (String.lt_trans hab hba) (String.lt_irrefl _)

end Guardrail.Dict
