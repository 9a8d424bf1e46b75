/-!
# Dictionaries in key order

A dictionary is an association list whose keys increase strictly, in code point order. Two
dictionaries with the same bindings are therefore the same list, and a walk over a dictionary visits
the keys in order.

* `find?_insert_self`, `find?_insert_of_ne`: what a lookup gives after an insertion.
* `find?_erase_self`, `find?_erase_of_ne`: what a lookup gives after a removal.
-/

namespace Guardrail

/-- An association list from texts, kept in key order. -/
abbrev Dict (α : Type u) := List (String × α)

namespace Dict

variable {α : Type u} {β : Type v}

/-- The keys, in order. -/
def keys (d : Dict α) : List String := d.map (·.1)

/-- The keys increase strictly. -/
def Sorted (d : Dict α) : Prop := d.keys.Pairwise (· < ·)

instance (d : Dict α) : Decidable d.Sorted := inferInstanceAs (Decidable (List.Pairwise _ _))

/-- The value bound to a key. -/
def find? (d : Dict α) (key : String) : Option α :=
  match d with
  | [] => none
  | (k, v) :: rest => if k = key then some v else find? rest key

/-- Whether a key is bound. -/
def contains (d : Dict α) (key : String) : Bool := (d.find? key).isSome

/-- Binds a key, replacing an earlier binding. -/
def insert (d : Dict α) (key : String) (value : α) : Dict α :=
  match d with
  | [] => [(key, value)]
  | (k, v) :: rest =>
    if key < k then (key, value) :: (k, v) :: rest
    else if k = key then (key, value) :: rest
    else (k, v) :: insert rest key value

/-- Removes the binding of a key. -/
def erase (d : Dict α) (key : String) : Dict α :=
  match d with
  | [] => []
  | (k, v) :: rest => if k = key then rest else (k, v) :: erase rest key

/-- Replaces the value of a bound key and leaves the rest as it is. -/
def replace (d : Dict α) (key : String) (value : α) : Dict α :=
  match d with
  | [] => []
  | (k, v) :: rest => if k = key then (k, value) :: rest else (k, v) :: replace rest key value

/-- Binds a key unless it is bound already. -/
def insertNew (d : Dict α) (key : String) (value : α) : Dict α :=
  if d.contains key then d else d.insert key value

/-- The bindings of `d` overridden and extended by those of `e`. -/
def override (d e : Dict α) : Dict α := e.foldl (fun acc (k, v) => acc.insert k v) d

/-- The dictionary of a list of bindings, of which the last for a key counts. -/
def ofList (bindings : List (String × α)) : Dict α := override [] bindings

/-! ## Lookups -/

theorem find?_insert_self (d : Dict α) (key : String) (value : α) :
    (d.insert key value).find? key = some value := by
  induction d with
  | nil => simp [insert, find?]
  | cons entry rest ih =>
    obtain ⟨k, v⟩ := entry
    by_cases hlt : key < k
    · simp [insert, hlt, find?]
    · by_cases heq : k = key
      · simp [insert, heq, find?]
      · simp [insert, hlt, heq, find?, ih]

theorem find?_insert_of_ne (d : Dict α) {key other : String} (value : α) (h : other ≠ key) :
    (d.insert key value).find? other = d.find? other := by
  induction d with
  | nil => simp [insert, find?, h.symm]
  | cons entry rest ih =>
    obtain ⟨k, v⟩ := entry
    by_cases hlt : key < k
    · simp [insert, hlt, find?, h.symm]
    · by_cases heq : k = key
      · subst heq
        simp [insert, find?, h.symm]
      · simp [insert, hlt, heq, find?, ih]

theorem find?_erase_of_ne (d : Dict α) {key other : String} (h : other ≠ key) :
    (d.erase key).find? other = d.find? other := by
  induction d with
  | nil => rfl
  | cons entry rest ih =>
    obtain ⟨k, v⟩ := entry
    by_cases heq : k = key
    · subst heq
      simp [erase, find?, h.symm]
    · simp [erase, heq, find?, ih]

theorem find?_eq_none_of_forall_ne {d : Dict α} {key : String} (h : ∀ k ∈ d.keys, k ≠ key) :
    d.find? key = none := by
  induction d with
  | nil => rfl
  | cons entry rest ih =>
    obtain ⟨k, v⟩ := entry
    have hk : k ≠ key := h k (by simp [keys])
    simp only [find?, if_neg hk]
    exact ih fun k' hk' => h k' (by simp only [keys, List.map_cons, List.mem_cons]; exact .inr hk')

theorem find?_erase_self {d : Dict α} (hd : d.Sorted) (key : String) :
    (d.erase key).find? key = none := by
  induction d with
  | nil => rfl
  | cons entry rest ih =>
    obtain ⟨k, v⟩ := entry
    have hd' : (∀ k' ∈ keys rest, k < k') ∧ Sorted rest := by
      simpa [Sorted, keys] using hd
    by_cases heq : k = key
    · subst heq
      simp only [erase, if_true]
      exact find?_eq_none_of_forall_ne fun k' hk' he =>
        String.lt_irrefl k' (by simpa [he] using hd'.1 k' hk')
    · simp only [erase, heq, if_false, find?]
      exact ih hd'.2

end Dict
end Guardrail
