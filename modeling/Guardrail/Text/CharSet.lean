/-!
# Sets of characters

A set of characters is a list of inclusive ranges of code points, in order and never touching one
another, so that equal sets are equal lists. Properties that Unicode defines by enumeration are kept
in this form, one module a subject.

* `contains_insertRange`, `contains_union`, `contains_unions`: what is in a set after ranges are
  added.
-/

namespace Guardrail.Text

/-- Inclusive ranges of code points. -/
abbrev CharSet := List (Nat × Nat)

namespace CharSet

/-- Whether a code point lies in one of the ranges. -/
def has (set : CharSet) (n : Nat) : Bool := set.any fun r => r.1 ≤ n && n ≤ r.2

/-- Whether a character lies in one of the ranges. -/
def contains (set : CharSet) (c : Char) : Bool := set.has c.toNat

/-- The greatest code point. -/
def maxPoint : Nat := 0x10FFFF

/-- Code points that are no characters. -/
def surrogates : CharSet := [(0xD800, 0xDFFF)]

/-! ## Building sets -/

/-- Adds a range, joined with those that it meets. -/
def insertRange (first last : Nat) : CharSet → CharSet
  | [] => [(first, last)]
  | (a, b) :: rest =>
    if last + 1 < a then (first, last) :: (a, b) :: rest
    else if b + 1 < first then (a, b) :: insertRange first last rest
    else insertRange (min first a) (max last b) rest

/-- The set of one character. -/
def single (c : Char) : CharSet := [(c.toNat, c.toNat)]

/-- The characters of either set. -/
def union (a b : CharSet) : CharSet := b.foldl (fun set r => set.insertRange r.1 r.2) a

/-- The characters of any of the sets. -/
def unions (sets : List CharSet) : CharSet := sets.foldl union []

/-- The ranges between those of a set, from a code point on. -/
def gaps (next : Nat) : CharSet → CharSet
  | [] => if next ≤ maxPoint then [(next, maxPoint)] else []
  | (a, b) :: rest => if next < a then (next, a - 1) :: gaps (b + 1) rest else gaps (b + 1) rest

/-- The characters that are not in a set. -/
def compl (set : CharSet) : CharSet := gaps 0 set

/-- The characters of both sets. -/
def inter (a b : CharSet) : CharSet := (a.compl.union b.compl).compl

/-- The characters of the first set that are not in the second. -/
def diff (a b : CharSet) : CharSet := (a.compl.union b).compl

/-- The characters of one set that are not in the other. -/
def symmDiff (a b : CharSet) : CharSet := (a.diff b).union (b.diff a)

/-- The complement, if asked for. -/
def complIf (negated : Bool) (set : CharSet) : CharSet := if negated then set.compl else set

/-- The set of the code points from `first` to `last` that are a whole number of steps past `first`,
for each triple of the list. -/
def ofSteps (runs : List (Nat × Nat × Nat)) : CharSet :=
  runs.flatMap fun (first, last, step) =>
    if step = 1 then [(first, last)]
    else (List.range ((last - first) / step + 1)).map fun i => (first + i * step, first + i * step)

/-! ## Membership -/

theorem has_cons (r : Nat × Nat) (set : CharSet) (n : Nat) :
    has (r :: set) n = ((r.1 ≤ n && n ≤ r.2) || has set n) := rfl

theorem has_insertRange {first last : Nat} (h : first ≤ last) {set : CharSet}
    (hs : ∀ r ∈ set, r.1 ≤ r.2) (n : Nat) :
    has (set.insertRange first last) n = ((first ≤ n && n ≤ last) || has set n) := by
  induction set generalizing first last with
  | nil => rfl
  | cons r rest ih =>
    obtain ⟨a, b⟩ := r
    have hab : a ≤ b := hs (a, b) List.mem_cons_self
    have hr : ∀ r ∈ rest, r.1 ≤ r.2 := fun r m => hs r (List.mem_cons_of_mem _ m)
    unfold insertRange
    split
    · rfl
    · split
      · rw [has_cons, ih h hr, has_cons]
        exact Bool.or_left_comm _ _ _
      · rw [ih (by omega) hr, has_cons, ← Bool.or_assoc]
        congr 1
        rw [Bool.eq_iff_iff]
        simp only [Bool.and_eq_true, Bool.or_eq_true, decide_eq_true_eq]
        omega

theorem le_of_mem_insertRange {first last : Nat} (h : first ≤ last) {set : CharSet}
    (hs : ∀ r ∈ set, r.1 ≤ r.2) : ∀ r ∈ set.insertRange first last, r.1 ≤ r.2 := by
  induction set generalizing first last with
  | nil => simpa [insertRange] using h
  | cons r rest ih =>
    obtain ⟨a, b⟩ := r
    have hab : a ≤ b := hs (a, b) List.mem_cons_self
    have hr : ∀ r ∈ rest, r.1 ≤ r.2 := fun r m => hs r (List.mem_cons_of_mem _ m)
    unfold insertRange
    split
    · exact List.forall_mem_cons.2 ⟨h, hs⟩
    · split
      · exact List.forall_mem_cons.2 ⟨hab, ih h hr⟩
      · exact ih (by omega) hr

/-- A character is in a union if it is in one of the two sets. -/
theorem contains_union {a b : CharSet} (ha : ∀ r ∈ a, r.1 ≤ r.2) (hb : ∀ r ∈ b, r.1 ≤ r.2)
    (c : Char) : (a.union b).contains c = (a.contains c || b.contains c) := by
  unfold contains union
  induction b generalizing a with
  | nil => exact (Bool.or_false _).symm
  | cons r rest ih =>
    have hr : r.1 ≤ r.2 := hb r List.mem_cons_self
    have hrest : ∀ r ∈ rest, r.1 ≤ r.2 := fun r m => hb r (List.mem_cons_of_mem _ m)
    rw [List.foldl_cons, ih (le_of_mem_insertRange hr ha) hrest, has_insertRange hr ha, has_cons,
      Bool.or_comm (decide (r.1 ≤ _) && _), Bool.or_assoc]

theorem le_of_mem_union {a b : CharSet} (ha : ∀ r ∈ a, r.1 ≤ r.2) (hb : ∀ r ∈ b, r.1 ≤ r.2) :
    ∀ r ∈ a.union b, r.1 ≤ r.2 := by
  unfold union
  induction b generalizing a with
  | nil => exact ha
  | cons r rest ih =>
    obtain ⟨hr, hrest⟩ := List.forall_mem_cons.1 hb
    exact ih (le_of_mem_insertRange hr ha) hrest

theorem foldl_union {sets : List CharSet} (hsets : ∀ set ∈ sets, ∀ r ∈ set, r.1 ≤ r.2)
    {a : CharSet} (ha : ∀ r ∈ a, r.1 ≤ r.2) :
    (∀ r ∈ sets.foldl union a, r.1 ≤ r.2) ∧
      ∀ c, (sets.foldl union a).contains c = (a.contains c || sets.any (·.contains c)) := by
  induction sets generalizing a with
  | nil => exact ⟨ha, fun c => (Bool.or_false _).symm⟩
  | cons set sets ih =>
    obtain ⟨hset, hsets⟩ := List.forall_mem_cons.1 hsets
    obtain ⟨hle, hcontains⟩ := ih hsets (le_of_mem_union ha hset)
    refine ⟨hle, fun c => ?_⟩
    rw [List.foldl_cons, hcontains, contains_union ha hset, List.any_cons, Bool.or_assoc]

/-- A character is in a union of sets if it is in one of them. -/
theorem contains_unions {sets : List CharSet} (hsets : ∀ set ∈ sets, ∀ r ∈ set, r.1 ≤ r.2) :
    (∀ r ∈ unions sets, r.1 ≤ r.2) ∧ ∀ c, (unions sets).contains c = sets.any (·.contains c) :=
  foldl_union hsets (List.forall_mem_nil _)

end CharSet
end Guardrail.Text
