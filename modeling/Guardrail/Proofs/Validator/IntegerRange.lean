import Guardrail.Error
import Guardrail.Proofs.Number.Nearest
import Guardrail.Validator.Range

/-!
# Integers in a range

The bounds on a number and the number itself are compared as binary64 numbers. Of integers, this
compares the nearest integers of 53 binary digits. An integer within the bounds always passes; one
beyond a bound passes if the two are read as the same number, which no integer is with a bound below
`2 ^ 53`.

Results:
* `ofArgs_of_ints`: bounds that do not cross are accepted.
* `check_int_cases`: what is answered about an integer.
* `integer_range_law`: which integers pass, and what is proposed in place of the others.
* `passes_beyond_bound`: an integer beyond its bounds passes, and one is proposed that is beyond
  them.
-/

namespace Guardrail.Validator.NumberBounds

open Binary64 (nearest nearest_mono nearest_of_natAbs_le nearest_error lt_ofInt toInt?_ofInt)

variable {args : Dict Json} {lo hi n : Int}

/-- The bounds that integers are read as. -/
def ofInts (lo hi : Int) : NumberBounds := ⟨some (.ofInt lo), some (.ofInt hi)⟩

/-- What is proposed in place of an integer beyond a bound: the bound as it was read, an integer if
it has fewer than 64 bits. -/
def proposedInt (bound : Int) : Json :=
  if (nearest bound).natAbs < Nat.pow 2 63 then .num (.int (nearest bound))
  else .num (.float (.ofInt bound))

theorem proposal_ofInt (bound n : Int) :
    proposal (.ofInt bound) (.num (.int n)) = proposedInt bound := by
  unfold proposal
  rw [toInt?_ofInt]
  rfl

theorem numberArgument?_of_int {id key : String} {v : Int}
    (h : args.find? key = some (.num (.int v))) :
    numberArgument? id args key = .ok (some (.ofInt v)) := by
  rw [numberArgument?, argument?, h]
  rfl

/-- Bounds that do not cross are accepted, since reading keeps the order. -/
theorem ofArgs_of_ints (hmin : args.find? "min" = some (.num (.int lo)))
    (hmax : args.find? "max" = some (.num (.int hi))) (hle : lo ≤ hi) :
    ofArgs args = .ok (ofInts lo hi) := by
  have hlt : (Binary64.ofInt hi).lt (.ofInt lo) = false := by
    rw [Bool.eq_false_iff, Ne, lt_ofInt, Int.not_lt]
    exact nearest_mono hle
  rw [ofArgs, numberArgument?_of_int hmin, numberArgument?_of_int hmax]
  show (if (Binary64.ofInt hi).lt (.ofInt lo) = true then _ else _) = _
  rw [hlt]
  rfl

/-- What is answered about an integer. -/
theorem check_int_cases (lo hi n : Int) :
    ((ofInts lo hi).check (.num (.int n)) = .pass ∧ nearest lo ≤ nearest n ∧
        nearest n ≤ nearest hi) ∨
      (∃ message, (ofInts lo hi).check (.num (.int n)) = .propose message (proposedInt lo) ∧
        nearest n < nearest lo) ∨
      ∃ message, (ofInts lo hi).check (.num (.int n)) = .propose message (proposedInt hi) ∧
        nearest hi < nearest n := by
  have hlow := lt_ofInt n lo
  have hhigh := lt_ofInt hi n
  unfold check
  simp only [ofInts, Json.binary64?, Option.filter_some, ← proposal_ofInt _ n]
  cases hl : (Binary64.ofInt n).lt (.ofInt lo) with
  | true => exact .inr (.inl ⟨_, rfl, hlow.1 hl⟩)
  | false =>
    cases hh : (Binary64.ofInt hi).lt (.ofInt n) with
    | true => exact .inr (.inr ⟨_, rfl, hhigh.1 hh⟩)
    | false =>
      rw [hl] at hlow
      rw [hh] at hhigh
      exact .inl ⟨rfl, by simpa using hlow, by simpa using hhigh⟩

theorem check_int_eq_pass_iff :
    (ofInts lo hi).check (.num (.int n)) = .pass ↔
      nearest lo ≤ nearest n ∧ nearest n ≤ nearest hi := by
  rcases check_int_cases lo hi n with ⟨hpass, hin⟩ | ⟨_, hfail, hlt⟩ | ⟨_, hfail, hlt⟩
  · exact iff_of_true hpass hin
  · exact iff_of_false (by simp [hfail, Verdict.propose]) (by omega)
  · exact iff_of_false (by simp [hfail, Verdict.propose]) (by omega)

/-- An integer beyond a bound passes exactly if the two are read as the same number. -/
theorem nearest_between_iff (hle : lo ≤ hi) :
    (nearest lo ≤ nearest n ∧ nearest n ≤ nearest hi) ↔
      (lo ≤ n ∧ n ≤ hi) ∨ nearest n = nearest lo ∨ nearest n = nearest hi := by
  have hbounds := nearest_mono hle
  constructor
  · intro ⟨hlow, hhigh⟩
    by_cases hlo : lo ≤ n
    · by_cases hhi : n ≤ hi
      · exact .inl ⟨hlo, hhi⟩
      · have hmono : nearest hi ≤ nearest n := nearest_mono (by omega)
        exact .inr (.inr (by omega))
    · have hmono : nearest n ≤ nearest lo := nearest_mono (by omega)
      exact .inr (.inl (by omega))
  · rintro (⟨hlo, hhi⟩ | heq | heq)
    · exact ⟨nearest_mono hlo, nearest_mono hhi⟩
    · omega
    · omega

/-- No other integer is read as one below `2 ^ 53`. -/
theorem eq_of_nearest_eq {bound : Int} (h : bound.natAbs < 2 ^ 53)
    (heq : nearest n = nearest bound) : n = bound := by
  rw [nearest_of_natAbs_le (Nat.le_of_lt h)] at heq
  by_cases hn : n.natAbs ≤ 2 ^ 53
  · rwa [nearest_of_natAbs_le hn] at heq
  · have htop : nearest (2 ^ 53) = 2 ^ 53 := nearest_of_natAbs_le (by decide)
    have hbottom : nearest (-2 ^ 53) = -2 ^ 53 := nearest_of_natAbs_le (by decide)
    rcases Int.le_total 0 n with hpos | hneg
    · have hmono : nearest (2 ^ 53) ≤ nearest n := nearest_mono (by omega)
      omega
    · have hmono : nearest n ≤ nearest (-2 ^ 53) := nearest_mono (by omega)
      omega

theorem proposedInt_of_natAbs_lt {bound : Int} (h : bound.natAbs < 2 ^ 53) :
    proposedInt bound = .num (.int bound) := by
  rw [proposedInt, nearest_of_natAbs_le (Nat.le_of_lt h), if_pos]
  exact Nat.lt_trans h (by decide)

/-- An integer that does not pass is beyond the bound that is proposed in its place. -/
theorem fix_of_check_int {f : Failure} (h : (ofInts lo hi).check (.num (.int n)) = .fail f) :
    (n < lo ∧ f.fix = some (proposedInt lo)) ∨ (hi < n ∧ f.fix = some (proposedInt hi)) := by
  rcases check_int_cases lo hi n with ⟨hpass, -⟩ | ⟨_, hpropose, hlt⟩ | ⟨_, hpropose, hlt⟩
  · rw [hpass] at h
    cases h
  · rw [hpropose] at h
    cases h
    refine .inl ⟨?_, rfl⟩
    by_contra hlo
    exact absurd (nearest_mono (Int.not_lt.1 hlo)) (by omega)
  · rw [hpropose] at h
    cases h
    refine .inr ⟨?_, rfl⟩
    by_contra hhi
    exact absurd (nearest_mono (Int.not_lt.1 hhi)) (by omega)

/-- Below `2 ^ 53` no other integer is read as one of the bounds. -/
theorem exact_between_iff (hle : lo ≤ hi) (hlo : lo.natAbs < 2 ^ 53) (hhi : hi.natAbs < 2 ^ 53) :
    (lo ≤ n ∧ n ≤ hi) ∨ nearest n = nearest lo ∨ nearest n = nearest hi ↔ lo ≤ n ∧ n ≤ hi := by
  constructor
  · rintro (hin | heq | heq)
    · exact hin
    · obtain rfl := eq_of_nearest_eq hlo heq
      exact ⟨Int.le_refl _, hle⟩
    · obtain rfl := eq_of_nearest_eq hhi heq
      exact ⟨hle, Int.le_refl _⟩
  · exact .inl

/-- Integers as bounds that do not cross make a range. An integer passes exactly if it is read as
a number between those that the bounds are read as: if it is within the bounds, or is read as the
same number as one of them. In place of one that does not pass, the bound that it is beyond is
proposed, as it was read. With bounds below `2 ^ 53` the range is exact, and the bound itself is
proposed. An integer of 64 bits that passes is at most `2 ^ 11` beyond a bound of 64 bits. -/
theorem integer_range_law (hmin : args.find? "min" = some (.num (.int lo)))
    (hmax : args.find? "max" = some (.num (.int hi))) (hle : lo ≤ hi) :
    ∃ b, ofArgs args = .ok b ∧ ∀ (n : Int) (metadata : Metadata),
      let verdict := (range b).check (.num (.int n)) metadata
      (verdict = .pass ↔ nearest lo ≤ nearest n ∧ nearest n ≤ nearest hi) ∧
        (verdict = .pass ↔
          (lo ≤ n ∧ n ≤ hi) ∨ nearest n = nearest lo ∨ nearest n = nearest hi) ∧
        (∀ f, verdict = .fail f → (n < lo ∧ f.fix = some (proposedInt lo)) ∨
          (hi < n ∧ f.fix = some (proposedInt hi))) ∧
        (lo.natAbs < 2 ^ 53 → hi.natAbs < 2 ^ 53 → (verdict = .pass ↔ lo ≤ n ∧ n ≤ hi) ∧
          ∀ f, verdict = .fail f → (n < lo ∧ f.fix = some (.num (.int lo))) ∨
            (hi < n ∧ f.fix = some (.num (.int hi)))) ∧
        (lo.natAbs < 2 ^ 64 → hi.natAbs < 2 ^ 64 → n.natAbs < 2 ^ 64 → verdict = .pass →
          lo - 2048 ≤ n ∧ n ≤ hi + 2048) := by
  refine ⟨ofInts lo hi, ofArgs_of_ints hmin hmax hle, fun n metadata => ?_⟩
  intro verdict
  have hpass : verdict = .pass ↔ nearest lo ≤ nearest n ∧ nearest n ≤ nearest hi :=
    check_int_eq_pass_iff
  have hbeyond : verdict = .pass ↔
      (lo ≤ n ∧ n ≤ hi) ∨ nearest n = nearest lo ∨ nearest n = nearest hi :=
    hpass.trans (nearest_between_iff hle)
  have hfail : ∀ f, verdict = .fail f → (n < lo ∧ f.fix = some (proposedInt lo)) ∨
      (hi < n ∧ f.fix = some (proposedInt hi)) := fun f hf => fix_of_check_int hf
  refine ⟨hpass, hbeyond, hfail, fun hlo hhi => ⟨?_, ?_⟩, fun hlo hhi hn hp => ?_⟩
  · exact hbeyond.trans (exact_between_iff hle hlo hhi)
  · intro f hf
    have hcases := hfail f hf
    rwa [proposedInt_of_natAbs_lt hlo, proposedInt_of_natAbs_lt hhi] at hcases
  · obtain ⟨hlow, hhigh⟩ := hpass.1 hp
    have herror := nearest_error hn
    have herrorLo := nearest_error hlo
    have herrorHi := nearest_error hhi
    omega

/-- Bounds below `2 ^ 53`, and an integer beyond them that is not read exactly. -/
theorem integer_range_law_of_small_bounds :
    let args : Dict Json := [("max", .num (.int 10)), ("min", .num (.int (-3)))]
    args.find? "min" = some (.num (.int (-3))) ∧ args.find? "max" = some (.num (.int 10)) ∧
      ∃ b, ofArgs args = .ok b ∧
        ∃ f, (range b).check (.num (.int (2 ^ 53 + 1))) [] = .fail f ∧
          f.fix = some (.num (.int 10)) := by
  intro args
  have hmin : args.find? "min" = some (.num (.int (-3))) := rfl
  have hmax : args.find? "max" = some (.num (.int 10)) := rfl
  obtain ⟨b, hb, hlaw⟩ := integer_range_law hmin hmax (by decide)
  obtain ⟨-, -, -, hexact, -⟩ := hlaw (2 ^ 53 + 1) []
  obtain ⟨hpass, hfail⟩ := hexact (by decide) (by decide)
  refine ⟨hmin, hmax, b, hb, ?_⟩
  cases hverdict : (range b).check (.num (.int (2 ^ 53 + 1))) [] with
  | pass => exact absurd (hpass.1 hverdict) (by decide)
  | fail f =>
    rcases hfail f hverdict with ⟨hlt, -⟩ | ⟨-, hfix⟩
    · exact absurd hlt (by decide)
    · exact ⟨f, rfl, hfix⟩

/-- The integer above `2 ^ 53` passes although the upper bound is `2 ^ 53`, and with itself as the
lower bound it is not what is proposed. -/
theorem passes_beyond_bound :
    let top : Json := .num (.int (2 ^ 53))
    let beyond : Json := .num (.int (2 ^ 53 + 1))
    (∃ b, ofArgs [("max", top), ("min", .num (.int 0))] = .ok b ∧
        (range b).check beyond [] = .pass ∧ ¬ (2 ^ 53 + 1 : Int) ≤ 2 ^ 53) ∧
      ∃ b, ofArgs [("max", beyond), ("min", beyond)] = .ok b ∧
        ∃ f, (range b).check (.num (.int 0)) [] = .fail f ∧ f.fix = some top := by
  refine ⟨⟨_, rfl, rfl, by decide⟩, ⟨_, rfl, _, rfl, rfl⟩⟩

end Guardrail.Validator.NumberBounds
