import Mathlib.Data.Finset.Card
import Mathlib.Data.Finset.Range
import Guardrail.Regex.Basic

/-!
# The search finds what matches

The search of a text goes from a set of places to the set of all the places where a match from one
of them can end.

* `realizes_ends`: it does so for every expression whose repetitions have a greatest number that is
  not below the least one.
* `isMatch_iff`: such an expression is found in a text exactly when some part of the text matches.
-/

namespace Guardrail.Regex

variable {text : Array Char} {a b : Regex} {i j k n size : Nat} {xs ys : List Nat}

/-! ## What matches -/

theorem matches_empty_iff : Matches text .empty i j ↔ i = j := by
  constructor
  · rintro ⟨⟩
    rfl
  · rintro rfl
    exact .empty i

theorem matches_one_iff {set : Text.CharSet} :
    Matches text (.one set) i j ↔ j = i + 1 ∧ text[i]?.any set.contains = true := by
  constructor
  · rintro (_ | ⟨hchar, hset⟩)
    exact ⟨rfl, by rw [hchar]; exact hset⟩
  · rintro ⟨rfl, hany⟩
    obtain ⟨c, hchar, hset⟩ := (Option.any_eq_true _ _).1 hany
    exact .one hchar hset

theorem matches_look_iff {l : Look} :
    Matches text (.look l) i j ↔ i = j ∧ l.holds text i = true := by
  constructor
  · rintro (_ | _ | hl)
    exact ⟨rfl, hl⟩
  · rintro ⟨rfl, hl⟩
    exact .look hl

theorem matches_cat_iff :
    Matches text (.cat a b) i k ↔ ∃ j, Matches text a i j ∧ Matches text b j k := by
  constructor
  · rintro (_ | _ | _ | ⟨ha, hb⟩)
    exact ⟨_, ha, hb⟩
  · rintro ⟨j, ha, hb⟩
    exact .cat ha hb

theorem matches_alt_iff :
    Matches text (.alt a b) i j ↔ Matches text a i j ∨ Matches text b i j := by
  constructor
  · intro h
    cases h with
    | altLeft ha => exact .inl ha
    | altRight hb => exact .inr hb
  · rintro (ha | hb)
    · exact .altLeft ha
    · exact .altRight hb

theorem matches_group_iff {number : Option Nat} :
    Matches text (.group number a) i j ↔ Matches text a i j := by
  constructor
  · intro h
    cases h with
    | group ha => exact ha
  · exact .group

theorem matches_loop_iff {min : Nat} {max : Option Nat} {greedy : Bool} :
    Matches text (.loop a min max greedy) i j ↔
      ∃ n, Repeats text a n i j ∧ min ≤ n ∧ ∀ m, max = some m → n ≤ m := by
  constructor
  · intro h
    cases h with
    | loop hrep hmin hmax => exact ⟨_, hrep, hmin, hmax⟩
  · rintro ⟨n, hrep, hmin, hmax⟩
    exact .loop hrep hmin hmax

theorem repeats_zero_iff : Repeats text a 0 i j ↔ i = j := by
  constructor
  · rintro ⟨⟩
    rfl
  · rintro rfl
    exact .zero i

theorem repeats_succ_iff :
    Repeats text a (n + 1) i k ↔ ∃ j, Matches text a i j ∧ Repeats text a n j k := by
  constructor
  · intro h
    cases h with
    | succ ha hrep => exact ⟨_, ha, hrep⟩
  · rintro ⟨j, ha, hrep⟩
    exact .succ ha hrep

theorem repeats_add_iff {m : Nat} :
    Repeats text a (m + n) i k ↔ ∃ j, Repeats text a m i j ∧ Repeats text a n j k := by
  induction m generalizing i with
  | zero => simp [repeats_zero_iff]
  | succ m ih =>
    rw [Nat.add_right_comm]
    simp only [repeats_succ_iff, ih]
    constructor
    · rintro ⟨j, ha, l, hm, hn⟩
      exact ⟨l, ⟨j, ha, hm⟩, hn⟩
    · rintro ⟨l, ⟨j, ha, hm⟩, hn⟩
      exact ⟨j, ha, l, hm, hn⟩

/-! ## Sets of places -/

/-- Places of a text in increasing order. -/
structure IsPlaces (size : Nat) (places : List Nat) : Prop where
  sorted : places.Pairwise (· < ·)
  bounded : ∀ i ∈ places, i ≤ size

theorem sorted_unite (hx : xs.Pairwise (· < ·)) (hy : ys.Pairwise (· < ·)) :
    (unite xs ys).Pairwise (· < ·) := by
  induction xs generalizing ys with
  | nil => exact hy
  | cons x xs ih =>
    obtain ⟨hhead, htail⟩ := List.pairwise_cons.1 hx
    induction ys with
    | nil =>
      refine List.pairwise_cons.2 ⟨fun z hz => ?_, ih htail .nil⟩
      exact ((mem_unite xs []).1 hz).elim (hhead z) nofun
    | cons y ys ihy =>
      obtain ⟨hyhead, hytail⟩ := List.pairwise_cons.1 hy
      unfold unite unite.merge
      split
      · next hlt =>
        refine List.pairwise_cons.2 ⟨fun z hz => ?_, ih htail hy⟩
        rcases (mem_unite xs (y :: ys)).1 hz with hz | hz
        · exact hhead z hz
        · rcases List.mem_cons.1 hz with rfl | hz
          · exact hlt
          · exact Nat.lt_trans hlt (hyhead z hz)
      · split
        · next heq =>
          subst heq
          refine List.pairwise_cons.2 ⟨fun z hz => ?_, ih htail hytail⟩
          exact ((mem_unite xs ys).1 hz).elim (hhead z) (hyhead z)
        · next hnot hne =>
          have hlt : y < x := by omega
          refine List.pairwise_cons.2 ⟨fun z hz => ?_, ihy hytail⟩
          rcases (mem_unite (x :: xs) ys).1 hz with hz | hz
          · rcases List.mem_cons.1 hz with rfl | hz
            · exact hlt
            · exact Nat.lt_trans hlt (hhead z hz)
          · exact hyhead z hz

theorem minus_sublist : (minus xs ys).Sublist xs := by
  induction xs generalizing ys with
  | nil => exact .slnil
  | cons x xs ih =>
    induction ys with
    | nil => exact ih.cons_cons x
    | cons y ys ihy =>
      unfold minus minus.skipTo
      split
      · exact ih.cons_cons x
      · split
        · exact ih.cons x
        · exact ihy

theorem mem_minus {z : Nat} (hx : xs.Pairwise (· < ·)) (hy : ys.Pairwise (· < ·)) :
    z ∈ minus xs ys ↔ z ∈ xs ∧ z ∉ ys := by
  induction xs generalizing ys with
  | nil => simp [minus]
  | cons x xs ih =>
    obtain ⟨hhead, htail⟩ := List.pairwise_cons.1 hx
    induction ys with
    | nil => simp [minus, minus.skipTo, ih htail .nil]
    | cons y ys ihy =>
      obtain ⟨hyhead, hytail⟩ := List.pairwise_cons.1 hy
      unfold minus minus.skipTo
      split
      · next hlt =>
        have hfresh : x ∉ y :: ys := by grind
        simp only [List.mem_cons, ih htail hy]
        grind
      · split
        · next heq =>
          subst heq
          rw [ih htail hytail]
          grind
        · next hnot hne =>
          have hlater : z ∈ x :: xs → z ≠ y := by grind
          have hrest := ihy hytail
          unfold minus at hrest
          rw [hrest]
          grind

theorem IsPlaces.unite (hx : IsPlaces size xs) (hy : IsPlaces size ys) :
    IsPlaces size (unite xs ys) where
  sorted := sorted_unite hx.sorted hy.sorted
  bounded i hi := ((mem_unite xs ys).1 hi).elim (hx.bounded i) (hy.bounded i)

theorem IsPlaces.sublist (hy : IsPlaces size ys) (h : xs.Sublist ys) : IsPlaces size xs where
  sorted := hy.sorted.sublist h
  bounded i hi := hy.bounded i (h.subset hi)

/-! ## Steps from set to set -/

/-- A step goes from a set of places to all the places that a relation leads to. -/
def Realizes (size : Nat) (step : List Nat → List Nat) (leads : Nat → Nat → Prop) : Prop :=
  ∀ places, IsPlaces size places →
    IsPlaces size (step places) ∧ ∀ j, j ∈ step places ↔ ∃ i ∈ places, leads i j

variable {step : List Nat → List Nat}

theorem realizes_iterate (hstep : Realizes size step (Matches text a)) (n : Nat) :
    Realizes size (iterate step n) (Repeats text a n) := by
  induction n with
  | zero =>
    intro places hplaces
    refine ⟨hplaces, fun j => ?_⟩
    simp [iterate, repeats_zero_iff]
  | succ n ih =>
    intro places hplaces
    obtain ⟨hnext, hmem⟩ := hstep places hplaces
    obtain ⟨hlast, hlastMem⟩ := ih _ hnext
    have hreach : ∀ j, j ∈ iterate step n (step places) ↔
        ∃ i ∈ places, Repeats text a (n + 1) i j := by
      intro j
      simp only [hlastMem, hmem, repeats_succ_iff]
      constructor
      · rintro ⟨l, ⟨i, hi, ha⟩, hrep⟩
        exact ⟨i, hi, l, ha, hrep⟩
      · rintro ⟨i, hi, l, ha, hrep⟩
        exact ⟨l, ⟨i, hi, ha⟩, hrep⟩
    simp only [iterate]
    split
    · next hfixed =>
      -- A step that changes nothing changes nothing when it is taken again.
      have hstays : iterate step n places = places := by
        cases n with
        | zero => rfl
        | succ n => simp [iterate, hfixed]
      rw [hfixed, hstays] at hreach
      exact ⟨hplaces, hreach⟩
    · exact ⟨hlast, hreach⟩

/-- The number of places that have not been seen. -/
def unseen (size : Nat) (seen : List Nat) : Nat := (Finset.range (size + 1) \ seen.toFinset).card

theorem unseen_lt (hsub : ∀ i ∈ xs, i ∈ ys) (hk : k ≤ size) (hx : k ∉ xs) (hy : k ∈ ys) :
    unseen size ys < unseen size xs := by
  apply Finset.card_lt_card
  constructor
  · intro i hi
    simp only [Finset.mem_sdiff, List.mem_toFinset] at hi ⊢
    exact ⟨hi.1, fun hmem => hi.2 (hsub i hmem)⟩
  · intro hback
    have hfresh : k ∈ Finset.range (size + 1) \ xs.toFinset := by
      simp only [Finset.mem_sdiff, Finset.mem_range, List.mem_toFinset]
      exact ⟨Nat.lt_succ_of_le hk, hx⟩
    have hnot := hback hfresh
    simp [hy] at hnot

theorem mem_of_unseen_eq_zero (h : unseen size xs = 0) (hi : i ≤ size) : i ∈ xs := by
  have hempty := Finset.card_eq_zero.1 h
  by_contra hmem
  have hfresh : i ∈ Finset.range (size + 1) \ xs.toFinset := by
    simp only [Finset.mem_sdiff, Finset.mem_range, List.mem_toFinset]
    exact ⟨Nat.lt_succ_of_le hi, hmem⟩
  simp [hempty] at hfresh

theorem unseen_le : unseen size xs ≤ size + 1 := by
  have hsub : Finset.range (size + 1) \ xs.toFinset ⊆ Finset.range (size + 1) := Finset.sdiff_subset
  have hcard := Finset.card_le_card hsub
  rwa [Finset.card_range] at hcard

/-- The places that have been seen, and the newest of them, which have not been gone on from. -/
structure Explored (size : Nat) (leads : Nat → Nat → Prop) (seen newest : List Nat) : Prop where
  all : IsPlaces size seen
  front : IsPlaces size newest
  subset : newest ⊆ seen
  /-- What an older place leads to has been seen. -/
  closed : ∀ i ∈ seen, i ∉ newest → ∀ j, leads i j → j ∈ seen

variable {seen newest : List Nat}

/-- One more step from the newest places. -/
theorem Explored.next (hstep : Realizes size step (Matches text a))
    (h : Explored size (Matches text a) seen newest) :
    let next := minus (step newest) seen
    Explored size (Matches text a) (unite seen next) next ∧
      ∀ k, k ∈ next ↔ (∃ i ∈ newest, Matches text a i k) ∧ k ∉ seen := by
  intro next
  obtain ⟨hplaces, hreach⟩ := hstep newest h.front
  have hmem : ∀ k, k ∈ next ↔ (∃ i ∈ newest, Matches text a i k) ∧ k ∉ seen := fun k => by
    rw [mem_minus hplaces.sorted h.all.sorted, hreach]
  have hnext : IsPlaces size next := hplaces.sublist minus_sublist
  refine ⟨⟨h.all.unite hnext, hnext, fun k hk => (mem_unite seen next).2 (.inr hk), ?_⟩, hmem⟩
  intro i hi hold j hj
  have hseen : i ∈ seen := ((mem_unite seen next).1 hi).elim id fun hi => absurd hi hold
  by_cases hj' : j ∈ seen
  · exact (mem_unite seen next).2 (.inl hj')
  · by_cases hnew : i ∈ newest
    · exact (mem_unite seen next).2 (.inr ((hmem j).2 ⟨⟨i, hnew, hj⟩, hj'⟩))
    · exact absurd (h.closed i hseen hnew j hj) hj'

/-- What is reached from a seen place has been seen, or is reached from a newest one in as many
steps or fewer. -/
theorem Explored.reached (h : Explored size (Matches text a) seen newest) (hi : i ∈ seen)
    (hrep : Repeats text a n i j) :
    j ∈ seen ∨ ∃ k ∈ newest, ∃ m ≤ n, Repeats text a m k j := by
  by_cases hnew : i ∈ newest
  · exact .inr ⟨i, hnew, n, Nat.le_refl n, hrep⟩
  · induction n generalizing i with
    | zero =>
      rw [repeats_zero_iff.1 hrep] at hi
      exact .inl hi
    | succ n ih =>
      obtain ⟨l, ha, hrest⟩ := repeats_succ_iff.1 hrep
      have hl : l ∈ seen := h.closed i hi hnew l ha
      by_cases hlnew : l ∈ newest
      · exact .inr ⟨l, hlnew, n, Nat.le_succ n, hrest⟩
      · rcases ih hl hrest hlnew with hj | ⟨k, hk, m, hm, hrep⟩
        · exact .inl hj
        · exact .inr ⟨k, hk, m, Nat.le_succ_of_le hm, hrep⟩

/-- What is reached from a newest place has been seen, or is reached from one of the next in fewer
steps. -/
theorem Explored.goes_on (hstep : Realizes size step (Matches text a))
    (h : Explored size (Matches text a) seen newest) (hi : i ∈ newest)
    (hrep : Repeats text a n i j) :
    j ∈ seen ∨ ∃ k ∈ minus (step newest) seen, ∃ m, m + 1 ≤ n ∧ Repeats text a m k j := by
  obtain ⟨hnext, hmem⟩ := h.next hstep
  cases n with
  | zero =>
    rw [← repeats_zero_iff.1 hrep]
    exact .inl (h.subset hi)
  | succ n =>
    obtain ⟨k, ha, hrest⟩ := repeats_succ_iff.1 hrep
    have hk : k ∈ unite seen (minus (step newest) seen) := by
      by_cases hk : k ∈ seen
      · exact (mem_unite _ _).2 (.inl hk)
      · exact (mem_unite _ _).2 (.inr ((hmem k).2 ⟨⟨i, hi, ha⟩, hk⟩))
    rcases hnext.reached hk hrest with hj | ⟨l, hl, m, hm, hrep⟩
    · rcases (mem_unite _ _).1 hj with hj | hj
      · exact .inl hj
      · exact .inr ⟨j, hj, 0, by omega, .zero j⟩
    · exact .inr ⟨l, hl, m, by omega, hrep⟩

theorem closure_sound (hstep : Realizes size step (Matches text a))
    (h : Explored size (Matches text a) seen newest) (hj : j ∈ closure step n seen newest) :
    j ∈ seen ∨ ∃ i ∈ newest, ∃ m ≤ n, Repeats text a m i j := by
  induction n generalizing seen newest with
  | zero => exact .inl hj
  | succ n ih =>
    obtain ⟨hnext, hmem⟩ := h.next hstep
    simp only [closure] at hj
    split at hj
    · exact .inl hj
    · rcases ih hnext hj with hj | ⟨i, hi, m, hm, hrep⟩
      · rcases (mem_unite _ _).1 hj with hj | hj
        · exact .inl hj
        · obtain ⟨⟨i, hi, ha⟩, -⟩ := (hmem j).1 hj
          exact .inr ⟨i, hi, 1, by omega, .succ ha (.zero j)⟩
      · obtain ⟨⟨l, hl, ha⟩, -⟩ := (hmem i).1 hi
        exact .inr ⟨l, hl, m + 1, by omega, .succ ha hrep⟩

theorem isPlaces_closure (hstep : Realizes size step (Matches text a))
    (h : Explored size (Matches text a) seen newest) :
    IsPlaces size (closure step n seen newest) ∧ seen ⊆ closure step n seen newest := by
  induction n generalizing seen newest with
  | zero => exact ⟨h.all, fun _ hi => hi⟩
  | succ n ih =>
    obtain ⟨hplaces, hsub⟩ := ih (h.next hstep).1
    simp only [closure]
    split
    · exact ⟨h.all, fun _ hi => hi⟩
    · exact ⟨hplaces, fun i hi => hsub ((mem_unite _ _).2 (.inl hi))⟩

/-- As many steps reach everything as there are places that have not been seen. -/
theorem closure_complete (hstep : Realizes size step (Matches text a))
    (h : Explored size (Matches text a) seen newest) {m : Nat}
    (henough : m ≤ n ∨ unseen size seen ≤ n) (hi : i ∈ newest) (hrep : Repeats text a m i j) :
    j ∈ closure step n seen newest := by
  induction n generalizing seen newest i m with
  | zero =>
    rcases henough with hm | hall
    · obtain rfl := Nat.le_zero.1 hm
      rw [← repeats_zero_iff.1 hrep]
      exact h.subset hi
    · obtain ⟨hplaces, hmem⟩ := realizes_iterate hstep m newest h.front
      exact mem_of_unseen_eq_zero (Nat.le_zero.1 hall)
        (hplaces.bounded j ((hmem j).2 ⟨i, hi, hrep⟩))
  | succ n ih =>
    obtain ⟨hnext, hmem⟩ := h.next hstep
    simp only [closure]
    rcases h.goes_on hstep hi hrep with hj | ⟨k, hk, l, hl, hrest⟩
    · split
      · exact hj
      · exact (isPlaces_closure hstep hnext).2 ((mem_unite _ _).2 (.inl hj))
    · have hnonempty : ¬(minus (step newest) seen).isEmpty = true := by
        rw [List.isEmpty_iff]
        exact List.ne_nil_of_mem hk
      rw [if_neg hnonempty]
      refine ih hnext ?_ hk hrest
      rcases henough with hm | hall
      · exact .inl (by omega)
      · have hfewer := unseen_lt (fun i hi => (mem_unite _ _).2 (.inl hi))
          (hnext.front.bounded k hk) ((hmem k).1 hk).2 (hnext.subset hk)
        exact .inr (by omega)

/-! ## Repetitions in order -/

/-- No repetition has a greatest number below its least one. -/
def Ordered : Regex → Prop
  | .empty | .one _ | .look _ => True
  | .cat a b | .alt a b => a.Ordered ∧ b.Ordered
  | .loop a min max _ => a.Ordered ∧ ∀ m, max = some m → min ≤ m
  | .group _ a => a.Ordered

theorem realizes_loop (hstep : Realizes size step (Matches text a)) {min : Nat} {max : Option Nat}
    {greedy : Bool} (hmax : ∀ m, max = some m → min ≤ m) (hsize : size = text.size) :
    Realizes size
      (fun places =>
        let start := iterate step min places
        closure step (max.elim (text.size + 1) (· - min)) start start)
      (Matches text (.loop a min max greedy)) := by
  intro places hplaces
  obtain ⟨hstart, hmem⟩ := realizes_iterate hstep min places hplaces
  have h : Explored size (Matches text a) (iterate step min places) (iterate step min places) :=
    ⟨hstart, hstart, fun _ hi => hi, fun i hi hnot => absurd hi hnot⟩
  refine ⟨(isPlaces_closure hstep h).1, fun j => ?_⟩
  simp only [matches_loop_iff]
  constructor
  · intro hj
    have hfrom : ∃ i ∈ iterate step min places,
        ∃ m ≤ max.elim (text.size + 1) (· - min), Repeats text a m i j := by
      rcases closure_sound hstep h hj with hj | hj
      · exact ⟨j, hj, 0, Nat.zero_le _, .zero j⟩
      · exact hj
    obtain ⟨k, hk, m, hm, hrest⟩ := hfrom
    obtain ⟨i, hi, hrep⟩ := (hmem k).1 hk
    refine ⟨i, hi, min + m, repeats_add_iff.2 ⟨k, hrep, hrest⟩, by omega, ?_⟩
    rintro greatest rfl
    have hle := hmax greatest rfl
    simp only [Option.elim_some] at hm
    omega
  · rintro ⟨i, hi, n, hrep, hmin, hgreatest⟩
    obtain ⟨m, rfl⟩ := Nat.exists_eq_add_of_le hmin
    obtain ⟨k, hfirst, hrest⟩ := repeats_add_iff.1 hrep
    refine closure_complete hstep h ?_ ((hmem k).2 ⟨i, hi, hfirst⟩) hrest
    cases max with
    | none =>
      right
      rw [Option.elim_none, ← hsize]
      exact unseen_le
    | some greatest =>
      left
      have hle := hgreatest greatest rfl
      simp only [Option.elim_some]
      omega

/-! ## The search -/

/-- The search goes from a set of places to all the places where a match from one of them ends. -/
theorem realizes_ends {r : Regex} (hr : r.Ordered) :
    Realizes text.size (ends text r) (Matches text r) := by
  induction r with
  | empty =>
    intro places hplaces
    exact ⟨hplaces, fun j => by simp [ends, matches_empty_iff]⟩
  | one set =>
    intro places hplaces
    have hmem : ∀ j,
        j ∈ ends text (.one set) places ↔ ∃ i ∈ places, Matches text (.one set) i j := by
      intro j
      simp only [ends, List.mem_filterMap, Option.ite_none_right_eq_some, Option.some.injEq,
        matches_one_iff]
      constructor
      · rintro ⟨i, hi, hany, rfl⟩
        exact ⟨i, hi, rfl, hany⟩
      · rintro ⟨i, hi, rfl, hany⟩
        exact ⟨i, hi, hany, rfl⟩
    refine ⟨⟨?_, fun j hj => ?_⟩, hmem⟩
    · refine List.pairwise_filterMap.2 (hplaces.sorted.imp fun {i k} hlt => ?_)
      simp only [Option.ite_none_right_eq_some, Option.some.injEq]
      rintro _ ⟨-, rfl⟩ _ ⟨-, rfl⟩
      exact Nat.succ_lt_succ hlt
    · obtain ⟨i, -, h⟩ := (hmem j).1 hj
      obtain ⟨rfl, hany⟩ := matches_one_iff.1 h
      obtain ⟨c, hchar, -⟩ := (Option.any_eq_true _ _).1 hany
      exact (Array.getElem?_eq_some_iff.1 hchar).1
  | look l =>
    intro places hplaces
    refine ⟨hplaces.sublist List.filter_sublist, fun j => ?_⟩
    simp [ends, matches_look_iff]
  | cat a b iha ihb =>
    intro places hplaces
    obtain ⟨hbetween, hmemA⟩ := iha hr.1 places hplaces
    obtain ⟨hlast, hmemB⟩ := ihb hr.2 _ hbetween
    refine ⟨hlast, fun k => ?_⟩
    simp only [ends, hmemB, hmemA, matches_cat_iff]
    constructor
    · rintro ⟨j, ⟨i, hi, ha⟩, hb⟩
      exact ⟨i, hi, j, ha, hb⟩
    · rintro ⟨i, hi, j, ha, hb⟩
      exact ⟨j, ⟨i, hi, ha⟩, hb⟩
  | alt a b iha ihb =>
    intro places hplaces
    obtain ⟨hleft, hmemA⟩ := iha hr.1 places hplaces
    obtain ⟨hright, hmemB⟩ := ihb hr.2 places hplaces
    refine ⟨hleft.unite hright, fun j => ?_⟩
    simp only [ends, mem_unite, hmemA, hmemB, matches_alt_iff, and_or_left, exists_or]
  | loop a min max greedy ih => exact realizes_loop (ih hr.1) hr.2 rfl
  | group number a ih =>
    intro places hplaces
    simp only [ends, matches_group_iff]
    exact ih hr places hplaces

/-- An expression is found in a text exactly when some part of the text matches. -/
theorem isMatch_iff {r : Regex} {s : String} (hr : r.Ordered) :
    r.isMatch s = true ↔
      ∃ i j, i ≤ s.toList.toArray.size ∧ Matches s.toList.toArray r i j := by
  have hall : IsPlaces s.toList.toArray.size (List.range (s.toList.toArray.size + 1)) :=
    ⟨List.pairwise_lt_range, fun i hi => Nat.lt_succ_iff.1 (List.mem_range.1 hi)⟩
  obtain ⟨-, hmem⟩ := realizes_ends hr _ hall
  simp only [isMatch, Bool.not_eq_true', List.isEmpty_eq_false_iff_exists_mem, hmem, List.mem_range,
    Nat.lt_succ_iff]
  constructor
  · rintro ⟨j, i, hi, h⟩
    exact ⟨i, j, hi, h⟩
  · rintro ⟨i, j, hi, h⟩
    exact ⟨j, i, hi, h⟩

end Guardrail.Regex
