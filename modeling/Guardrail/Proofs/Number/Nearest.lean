import Mathlib.Algebra.Ring.Int.Defs
import Mathlib.Algebra.Ring.Nat
import Mathlib.Tactic.ByContra
import Guardrail.Proofs.Json.Equality

/-!
# Integers read as binary64 numbers

An integer is read as the binary64 number nearest to it, and that is an integer again: the one with
53 significant binary digits that is nearest, of two equally near the one with the even significand.
Reading keeps the order, up to making different integers equal, and changes nothing up to `2 ^ 53`.

Results:
* `roundHalfEven_mono`, `roundHalfEven_mul_self`, `roundHalfEven_error`: rounding a quotient.
* `nearest_mono`, `nearest_of_natAbs_le`, `nearest_error`: the nearest integer of 53 digits.
* `toInt?_ofInt`, `lt_ofInt`: what an integer is read as, and how what is read compares.
-/

namespace Guardrail.Binary64

/-! ## Rounding a quotient -/

section

variable {a b d : Nat}

/-- A rounded quotient is the floor or the next integer. -/
theorem roundHalfEven_cases (a d : Nat) :
    (roundHalfEven a d = a / d ∧ 2 * (a % d) ≤ d) ∨
      (roundHalfEven a d = a / d + 1 ∧ d ≤ 2 * (a % d)) := by
  unfold roundHalfEven
  simp only [Bool.or_eq_true, Bool.and_eq_true, decide_eq_true_eq, beq_iff_eq]
  split
  · exact .inl ⟨rfl, by omega⟩
  · exact .inr ⟨rfl, by omega⟩

/-- Whatever is rounded ends up half a unit away at most. -/
theorem roundHalfEven_error (a : Nat) (hd : 0 < d) :
    2 * (roundHalfEven a d * d) ≤ 2 * a + d ∧ 2 * a ≤ 2 * (roundHalfEven a d * d) + d := by
  have hdiv : a / d * d + a % d = a := Nat.div_add_mod' a d
  have hlt : a % d < d := Nat.mod_lt a hd
  rcases roundHalfEven_cases a d with ⟨heq, hrem⟩ | ⟨heq, hrem⟩
  · rw [heq]
    omega
  · rw [heq, Nat.add_mul, Nat.one_mul]
    omega

theorem roundHalfEven_mul_self (m : Nat) (hd : 0 < d) : roundHalfEven (m * d) d = m := by
  unfold roundHalfEven
  rw [Nat.mul_div_cancel m hd, Nat.mul_mod_left]
  simp [hd]

theorem roundHalfEven_mono (h : a ≤ b) (d : Nat) : roundHalfEven a d ≤ roundHalfEven b d := by
  have hquot : a / d ≤ b / d := Nat.div_le_div_right h
  rcases Nat.lt_or_eq_of_le hquot with hlt | heq
  · rcases roundHalfEven_cases a d with ⟨ha, -⟩ | ⟨ha, -⟩ <;>
      rcases roundHalfEven_cases b d with ⟨hb, -⟩ | ⟨hb, -⟩ <;> omega
  · -- of one quotient, the larger remainder is rounded up if the smaller is
    have hrem : a % d ≤ b % d := by
      have hda := Nat.div_add_mod' a d
      have hdb := Nat.div_add_mod' b d
      rw [heq] at hda
      omega
    unfold roundHalfEven
    rw [heq]
    simp only [Bool.or_eq_true, Bool.and_eq_true, decide_eq_true_eq, beq_iff_eq]
    split <;> split <;> omega

end

/-! ## The nearest integer of 53 digits -/

/-- The unit of the last of 53 binary digits of a natural number, or 1 if it has no more. -/
def unit (n : Nat) : Nat := Nat.pow 2 (n.log2 - 52)

/-- A natural number rounded to 53 binary digits, a half going to the even neighbour. -/
def nearestNat (n : Nat) : Nat := roundHalfEven n (unit n) * unit n

/-- An integer rounded to 53 binary digits, a half going to the even neighbour. -/
def nearest (n : Int) : Int := if n < 0 then -(nearestNat n.natAbs : Int) else nearestNat n.natAbs

section

variable {a b n : Nat}

theorem unit_pos (n : Nat) : 0 < unit n := Nat.two_pow_pos _

theorem unit_eq_one (h : n < 2 ^ 53) : unit n = 1 := by
  have hzero : n.log2 - 52 = 0 := by
    rcases Nat.eq_zero_or_pos n with rfl | hn
    · decide
    · have hlog : n.log2 < 53 := (Nat.log2_lt (by omega)).2 h
      omega
  rw [unit, hzero]

theorem nearestNat_of_le (h : n ≤ 2 ^ 53) : nearestNat n = n := by
  rcases Nat.lt_or_eq_of_le h with hlt | rfl
  · have hround := roundHalfEven_mul_self n Nat.one_pos
    rw [Nat.mul_one] at hround
    rw [nearestNat, unit_eq_one hlt, hround, Nat.mul_one]
  · decide +kernel

/-- The units of a number are a part of its leading digit. -/
theorem exists_two_pow_log2 (n : Nat) : ∃ m, 2 ^ n.log2 = m * unit n := by
  refine ⟨2 ^ (n.log2 - (n.log2 - 52)), ?_⟩
  have hsum : n.log2 = n.log2 - (n.log2 - 52) + (n.log2 - 52) := by omega
  exact (congrArg (2 ^ ·) hsum).trans (Nat.pow_add 2 _ _)

theorem two_pow_log2_le_nearestNat (h : n ≠ 0) : 2 ^ n.log2 ≤ nearestNat n := by
  obtain ⟨m, hm⟩ := exists_two_pow_log2 n
  have hle : 2 ^ n.log2 ≤ n := Nat.log2_self_le h
  rw [hm] at hle ⊢
  have hround := roundHalfEven_mono hle (unit n)
  rw [roundHalfEven_mul_self m (unit_pos n)] at hround
  exact Nat.mul_le_mul_right _ hround

theorem nearestNat_le_two_pow (n : Nat) : nearestNat n ≤ 2 ^ (n.log2 + 1) := by
  obtain ⟨m, hm⟩ := exists_two_pow_log2 n
  have hlt : n < 2 ^ (n.log2 + 1) := Nat.lt_log2_self
  have hdouble : 2 ^ (n.log2 + 1) = 2 * m * unit n := by
    rw [Nat.pow_succ, hm, Nat.mul_comm, Nat.mul_assoc]
  have hround := roundHalfEven_mono (Nat.le_of_lt (hdouble ▸ hlt)) (unit n)
  rw [roundHalfEven_mul_self _ (unit_pos n)] at hround
  rw [hdouble]
  exact Nat.mul_le_mul_right _ hround

theorem nearestNat_mono (h : a ≤ b) : nearestNat a ≤ nearestNat b := by
  rcases Nat.eq_zero_or_pos a with rfl | ha
  · rw [nearestNat_of_le (Nat.zero_le _)]
    exact Nat.zero_le _
  · have hlog : a.log2 ≤ b.log2 := by
      rw [Nat.le_log2 (by omega)]
      exact Nat.le_trans (Nat.log2_self_le (by omega)) h
    rcases Nat.lt_or_eq_of_le hlog with hlt | heq
    · calc nearestNat a ≤ 2 ^ (a.log2 + 1) := nearestNat_le_two_pow a
        _ ≤ 2 ^ b.log2 := Nat.pow_le_pow_right (by decide) hlt
        _ ≤ nearestNat b := two_pow_log2_le_nearestNat (by omega)
    · have hunit : unit a = unit b := by rw [unit, unit, heq]
      rw [nearestNat, nearestNat, hunit]
      exact Nat.mul_le_mul_right _ (roundHalfEven_mono h _)

/-- Of a number of 64 binary digits, the last 11 are rounded off. -/
theorem nearestNat_error (h : n < 2 ^ 64) :
    nearestNat n ≤ n + 1024 ∧ n ≤ nearestNat n + 1024 := by
  have hunit : unit n ≤ 2048 := by
    rcases Nat.eq_zero_or_pos n with rfl | hn
    · decide
    · have hlog : n.log2 < 64 := (Nat.log2_lt (by omega)).2 h
      exact Nat.pow_le_pow_right (by decide) (by omega : n.log2 - 52 ≤ 11)
  obtain ⟨hlow, hhigh⟩ := roundHalfEven_error n (unit_pos n)
  unfold nearestNat
  omega

theorem nearest_natCast (n : Nat) : nearest n = nearestNat n := by
  rw [nearest, if_neg (by omega), Int.natAbs_natCast]

theorem nearest_neg_natCast (n : Nat) : nearest (-(n : Int)) = -(nearestNat n : Int) := by
  rcases Nat.eq_zero_or_pos n with rfl | hn
  · decide +kernel
  · rw [nearest, if_pos (by omega), Int.natAbs_neg, Int.natAbs_natCast]

theorem nearest_mono {a b : Int} (h : a ≤ b) : nearest a ≤ nearest b := by
  obtain ⟨m, rfl | rfl⟩ := Int.eq_nat_or_neg a <;> obtain ⟨n, rfl | rfl⟩ := Int.eq_nat_or_neg b
  · rw [nearest_natCast, nearest_natCast]
    exact Int.ofNat_le.2 (nearestNat_mono (by omega))
  · -- only zero is both
    obtain rfl : m = 0 := by omega
    obtain rfl : n = 0 := by omega
    exact Int.le_refl _
  · rw [nearest_neg_natCast, nearest_natCast]
    omega
  · rw [nearest_neg_natCast, nearest_neg_natCast]
    have hmono : nearestNat n ≤ nearestNat m := nearestNat_mono (by omega)
    omega

theorem nearest_of_natAbs_le {n : Int} (h : n.natAbs ≤ 2 ^ 53) : nearest n = n := by
  rw [nearest, nearestNat_of_le h]
  split <;> omega

/-- An integer of 64 bits is at most `2 ^ 10` away from what it is read as. -/
theorem nearest_error {n : Int} (h : n.natAbs < 2 ^ 64) :
    nearest n ≤ n + 1024 ∧ n ≤ nearest n + 1024 := by
  obtain ⟨hlow, hhigh⟩ := nearestNat_error h
  rw [nearest]
  split <;> omega

end

/-! ## Reading an integer -/

section

variable {x y : Binary64} {v w : Int}

/-- The value of a number is an integer, whatever the units it is expressed in. -/
def HasValue (x : Binary64) (v : Int) : Prop :=
  ∀ place : Int, place ≤ x.exponent → place ≤ 0 → x.inUnits place = v * Nat.pow 2 (-place).toNat

/-- The coarsest units that are no larger than 1 decide. -/
theorem hasValue_of_inUnits
    (h : x.inUnits (min x.exponent 0) = v * Nat.pow 2 (-(min x.exponent 0)).toNat) :
    x.HasValue v := by
  intro place hexp hzero
  have hplace : place ≤ min x.exponent 0 := by omega
  have hsum : (-place).toNat = (-(min x.exponent 0)).toNat + (min x.exponent 0 - place).toNat := by
    omega
  rw [inUnits_of_le hplace (by omega), h, hsum, Int.mul_assoc]
  congr 1
  exact_mod_cast (Nat.pow_add 2 _ _).symm

/-- One value is below another exactly if it is so in units that are fine enough for both. -/
theorem lt_iff_inUnits {place : Int} (hx : place ≤ x.exponent) (hy : place ≤ y.exponent) :
    x.lt y = true ↔ x.inUnits place < y.inUnits place := by
  let coarse := min x.exponent y.exponent
  have hlt : x.lt y = true ↔ x.inUnits coarse < y.inUnits coarse := by
    simp [lt, compare, coarse, Int.compare_eq_lt]
  have hx' : x.inUnits place = x.inUnits coarse * Nat.pow 2 (coarse - place).toNat :=
    inUnits_of_le (by omega) (by omega)
  have hy' : y.inUnits place = y.inUnits coarse * Nat.pow 2 (coarse - place).toNat :=
    inUnits_of_le (by omega) (by omega)
  have hpos : 0 < ((Nat.pow 2 (coarse - place).toNat : Nat) : Int) := by
    have hpow : 0 < Nat.pow 2 (coarse - place).toNat := Nat.two_pow_pos _
    omega
  rw [hlt, hx', hy']
  exact (Int.mul_lt_mul_right hpos).symm

theorem HasValue.lt_iff (hx : x.HasValue v) (hy : y.HasValue w) : x.lt y = true ↔ v < w := by
  let place := min (min x.exponent y.exponent) 0
  have hpos : 0 < ((Nat.pow 2 (-place).toNat : Nat) : Int) := by
    have hpow : 0 < Nat.pow 2 (-place).toNat := Nat.two_pow_pos _
    omega
  have hlt : x.lt y = true ↔ x.inUnits place < y.inUnits place :=
    lt_iff_inUnits (by omega) (by omega)
  rw [hlt, hx place (by omega) (by omega), hy place (by omega) (by omega)]
  exact Int.mul_lt_mul_right hpos

theorem HasValue.toInt? (hx : x.HasValue v) : x.toInt? = some v := by
  unfold Binary64.toInt? magnitude
  by_cases hexp : 0 ≤ x.exponent
  · have hvalue : x.inUnits 0 = v := by simpa using hx 0 hexp (Int.le_refl 0)
    rw [inUnits, Int.sub_zero] at hvalue
    simp only [if_pos hexp, Nat.mod_one, if_true, Nat.div_one]
    exact congrArg some hvalue
  · let d := Nat.pow 2 (-x.exponent).toNat
    have hd : 0 < d := Nat.two_pow_pos _
    have hvalue : (if x.negative then -(x.significand : Int) else x.significand) = v * d := by
      simpa [inUnits, d] using hx x.exponent (Int.le_refl _) (by omega)
    have hsign : (x.negative = true → v ≤ 0) ∧ (x.negative = false → 0 ≤ v) := by
      have hd' : (0 : Int) < d := by omega
      constructor
      · intro hneg
        rw [if_pos hneg] at hvalue
        by_contra hv
        have hprod : 0 < v * (d : Int) := Int.mul_pos (by omega) hd'
        omega
      · intro hneg
        rw [hneg, if_neg Bool.false_ne_true] at hvalue
        by_contra hv
        have hprod : v * (d : Int) < 0 := Int.mul_neg_of_neg_of_pos (by omega) hd'
        omega
    have hsig : x.significand = v.natAbs * d := by
      have habs := congrArg Int.natAbs hvalue
      rw [Int.natAbs_mul, Int.natAbs_natCast] at habs
      rw [← habs]
      split <;> simp
    simp only [if_neg hexp]
    change (if x.significand % d = 0 then _ else _) = _
    rw [hsig, Nat.mul_mod_left, if_pos rfl, Nat.mul_div_cancel _ hd]
    cases hneg : x.negative with
    | true =>
      have hle := hsign.1 hneg
      simp only [if_true]
      congr 1
      omega
    | false =>
      have hle := hsign.2 hneg
      simp only [Bool.false_eq_true, if_false]
      congr 1
      omega

/-! ### Integers that are read -/

theorem log2Ratio_one {n : Nat} (h : n ≠ 0) : log2Ratio n 1 = n.log2 := by
  have hle : ¬ n < 2 ^ n.log2 := Nat.not_lt.2 (Nat.log2_self_le h)
  have hone : Nat.log2 1 = 0 := by decide
  simp [log2Ratio, shifted, hone, hle]

theorem hasValue_zero (negative : Bool) : (zero negative).HasValue 0 := by
  intro place _ _
  cases negative <;> simp [zero, inUnits]

/-- The units of a value are those of its magnitude, with the sign. -/
theorem hasValue_of_magnitude {m : Nat} (h : x.significand *
    Nat.pow 2 (x.exponent - min x.exponent 0).toNat = m * Nat.pow 2 (-(min x.exponent 0)).toNat) :
    x.HasValue (if x.negative then -(m : Int) else m) := by
  apply hasValue_of_inUnits
  rw [inUnits, h]
  split
  · rw [Int.neg_mul]
    rfl
  · rfl

theorem hasValue_mk (negative : Bool) (m k : Nat) :
    (Binary64.mk negative m k).HasValue
      (if negative then -((m * Nat.pow 2 k : Nat) : Int) else (m * Nat.pow 2 k : Nat)) := by
  apply hasValue_of_magnitude (x := ⟨negative, m, k⟩)
  dsimp only
  rw [Int.min_eq_right (Int.natCast_nonneg k), Int.sub_zero, Int.toNat_natCast]
  exact (Nat.mul_one _).symm

theorem hasValue_mk_neg (negative : Bool) (m k : Nat) :
    (Binary64.mk negative (m * Nat.pow 2 k) (-(k : Int))).HasValue
      (if negative then -(m : Int) else m) := by
  apply hasValue_of_magnitude (x := ⟨negative, m * Nat.pow 2 k, -(k : Int)⟩)
  dsimp only
  rw [Int.min_eq_left (Int.neg_nonpos_of_nonneg (Int.natCast_nonneg k)), Int.sub_self, Int.neg_neg,
    Int.toNat_natCast]
  exact Nat.mul_one _

/-- What a natural number is read as, with a sign. -/
def signed (negative : Bool) (n : Nat) : Int :=
  if negative then -(nearestNat n : Int) else nearestNat n

/-- Of a number with 53 digits or more, those from the unit on are kept. -/
theorem hasValue_ofRatio_of_le (negative : Bool) {n : Nat} (hn : n ≠ 0) (hlog : 52 ≤ n.log2) :
    (ofRatio negative n 1).HasValue (signed negative n) := by
  have hplace : max minExponent ((n.log2 : Int) - 52) = (n.log2 - 52 : Nat) := by
    rw [minExponent]
    omega
  have hshift : shifted n 1 (n.log2 - 52 : Nat) = (n, unit n) := by
    simp [shifted, unit]
  have hround : nearestNat n = roundHalfEven n (unit n) * Nat.pow 2 (n.log2 - 52) := rfl
  have hne : roundHalfEven n (unit n) ≠ 0 := by
    intro hzero
    have hle := two_pow_log2_le_nearestNat hn
    rw [hround, hzero, Nat.zero_mul] at hle
    exact Nat.not_le_of_lt (Nat.two_pow_pos _) hle
  unfold ofRatio signed
  rw [if_neg hn, log2Ratio_one hn]
  simp only [hplace, hshift, if_neg hne]
  split
  · next hcarry =>
    -- rounded up to a power of two, which has one digit more
    have hsame : nearestNat n = Nat.pow 2 52 * Nat.pow 2 (n.log2 - 52 + 1) := by
      rw [hround, hcarry]
      have hfront : Nat.pow 2 53 = Nat.pow 2 52 * 2 := rfl
      have hback : Nat.pow 2 (n.log2 - 52 + 1) = Nat.pow 2 (n.log2 - 52) * 2 := rfl
      rw [hfront, hback, Nat.mul_assoc, Nat.mul_comm 2]
    rw [hsame]
    exact hasValue_mk negative (Nat.pow 2 52) (n.log2 - 52 + 1)
  · rw [hround]
    exact hasValue_mk negative _ _

/-- Of a number with fewer digits all are kept, with zeros behind them. -/
theorem hasValue_ofRatio_of_lt (negative : Bool) {n : Nat} (hn : n ≠ 0) (hlog : n.log2 < 52) :
    (ofRatio negative n 1).HasValue (signed negative n) := by
  have hlt : n < 2 ^ (n.log2 + 1) := Nat.lt_log2_self
  have hsmall : n < 2 ^ 53 :=
    Nat.lt_of_lt_of_le hlt (Nat.pow_le_pow_right (by decide) (by omega))
  have hplace : max minExponent ((n.log2 : Int) - 52) = -((52 - n.log2 : Nat) : Int) := by
    rw [minExponent]
    omega
  have hshift : shifted n 1 (-((52 - n.log2 : Nat) : Int)) =
      (n * Nat.pow 2 (52 - n.log2), 1) := by
    rw [shifted, if_neg (by omega), Int.neg_neg, Int.toNat_natCast]
  have hround : roundHalfEven (n * Nat.pow 2 (52 - n.log2)) 1 = n * Nat.pow 2 (52 - n.log2) := by
    simpa using roundHalfEven_mul_self (n * Nat.pow 2 (52 - n.log2)) Nat.one_pos
  have hpos : 0 < n * Nat.pow 2 (52 - n.log2) :=
    Nat.mul_pos (Nat.pos_of_ne_zero hn) (Nat.two_pow_pos _)
  have hbound : n * Nat.pow 2 (52 - n.log2) < Nat.pow 2 53 := by
    have hsum : 53 = n.log2 + 1 + (52 - n.log2) := by omega
    calc n * Nat.pow 2 (52 - n.log2) < 2 ^ (n.log2 + 1) * 2 ^ (52 - n.log2) :=
          Nat.mul_lt_mul_of_pos_right hlt (Nat.two_pow_pos _)
      _ = 2 ^ 53 := by rw [← Nat.pow_add, ← hsum]
  unfold ofRatio signed
  rw [if_neg hn, log2Ratio_one hn]
  simp only [hplace, hshift, hround, if_neg (Nat.ne_of_gt hpos), if_neg (Nat.ne_of_lt hbound)]
  rw [nearestNat_of_le (Nat.le_of_lt hsmall)]
  exact hasValue_mk_neg negative n _

/-- A natural number with a sign is read as the nearest one of 53 digits with that sign. -/
theorem hasValue_ofRatio (negative : Bool) (n : Nat) :
    (ofRatio negative n 1).HasValue (signed negative n) := by
  by_cases hn : n = 0
  · subst hn
    have hzero : nearestNat 0 = 0 := nearestNat_of_le (Nat.zero_le _)
    rw [signed, hzero]
    simpa [ofRatio] using hasValue_zero negative
  · rcases Nat.lt_or_ge n.log2 52 with hlog | hlog
    · exact hasValue_ofRatio_of_lt negative hn hlog
    · exact hasValue_ofRatio_of_le negative hn hlog

theorem hasValue_ofInt (n : Int) : (ofInt n).HasValue (nearest n) := by
  have h := hasValue_ofRatio (decide (n < 0)) n.natAbs
  simpa [ofInt, nearest, signed] using h

theorem toInt?_ofInt (n : Int) : (ofInt n).toInt? = some (nearest n) := (hasValue_ofInt n).toInt?

theorem lt_ofInt (m n : Int) : (ofInt m).lt (ofInt n) = true ↔ nearest m < nearest n :=
  (hasValue_ofInt m).lt_iff (hasValue_ofInt n)

end

end Guardrail.Binary64
