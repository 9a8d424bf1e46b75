import Guardrail.Json.Basic

/-!
# Equality of JSON values

Two JSON values are compared member by member and item by item, and their numbers by kind and value.
The two zeros of binary64 are equal and different, so this is coarser than being the same; but it is
an equivalence, as numbers of three different exponents can all be read in units that are small
enough for each of them.

Results:
* `Binary64.inUnits_of_le`, `Binary64.beq_iff`: values are equal if they are in any small units.
* `Json.beq_self`, `Json.beq_symm`, `Json.beq_trans`: equality of values is an equivalence.
-/

namespace Guardrail

/-! ## Numbers -/

namespace Binary64

variable {x y z : Binary64} {place finer : Int}

/-- A value in finer units. -/
theorem inUnits_of_le (hfiner : finer ≤ place) (hplace : place ≤ x.exponent) :
    x.inUnits finer = x.inUnits place * Nat.pow 2 (place - finer).toNat := by
  have hpow : Nat.pow 2 (x.exponent - finer).toNat =
      Nat.pow 2 (x.exponent - place).toNat * Nat.pow 2 (place - finer).toNat := by
    have hsum : (x.exponent - finer).toNat =
        (x.exponent - place).toNat + (place - finer).toNat := by omega
    rw [hsum]
    exact Nat.pow_add 2 _ _
  unfold inUnits
  simp only [hpow]
  split
  · push_cast
    rw [Int.neg_mul, Int.mul_assoc]
  · push_cast
    rw [Int.mul_assoc]

/-- Two values are equal exactly if they are in units that are fine enough for both. -/
theorem beq_iff (hx : place ≤ x.exponent) (hy : place ≤ y.exponent) :
    (x == y) = true ↔ x.inUnits place = y.inUnits place := by
  let coarse := min x.exponent y.exponent
  have hbeq : (x == y) = true ↔ x.inUnits coarse = y.inUnits coarse := by
    show (compare x y == Ordering.eq) = true ↔ _
    simp [compare, coarse]
  have hx' : x.inUnits place = x.inUnits coarse * Nat.pow 2 (coarse - place).toNat :=
    inUnits_of_le (by omega) (by omega)
  have hy' : y.inUnits place = y.inUnits coarse * Nat.pow 2 (coarse - place).toNat :=
    inUnits_of_le (by omega) (by omega)
  have hpos : ((Nat.pow 2 (coarse - place).toNat : Nat) : Int) ≠ 0 := by
    have hpow : 0 < Nat.pow 2 (coarse - place).toNat := Nat.two_pow_pos _
    omega
  rw [hbeq, hx', hy']
  constructor
  · intro h
    rw [h]
  · intro h
    exact Int.eq_of_mul_eq_mul_right hpos h

theorem beq_self (x : Binary64) : (x == x) = true :=
  (beq_iff (Int.le_refl _) (Int.le_refl _)).2 rfl

theorem beq_symm (h : (x == y) = true) : (y == x) = true := by
  have hx : min x.exponent y.exponent ≤ x.exponent := by omega
  have hy : min x.exponent y.exponent ≤ y.exponent := by omega
  exact (beq_iff hy hx).2 ((beq_iff hx hy).1 h).symm

theorem beq_trans (hxy : (x == y) = true) (hyz : (y == z) = true) : (x == z) = true := by
  -- the units are fine enough for all three
  let place := min x.exponent (min y.exponent z.exponent)
  have hx : place ≤ x.exponent := by omega
  have hy : place ≤ y.exponent := by omega
  have hz : place ≤ z.exponent := by omega
  exact (beq_iff hx hz).2 (((beq_iff hx hy).1 hxy).trans ((beq_iff hy hz).1 hyz))

end Binary64

namespace Number

variable {x y z : Number}

theorem beq_self (x : Number) : x.beq x = true := by
  cases x with
  | int n => exact beq_self_eq_true n
  | float x => exact Binary64.beq_self x

theorem beq_symm (h : x.beq y = true) : y.beq x = true := by
  cases x <;> cases y
  · simp_all [beq]
  · cases h
  · cases h
  · exact Binary64.beq_symm h

theorem beq_trans (hxy : x.beq y = true) (hyz : y.beq z = true) : x.beq z = true := by
  cases x <;> cases y <;> cases z <;> first | cases hxy | cases hyz | skip
  · simp_all [beq]
  · exact Binary64.beq_trans hxy hyz

end Number

/-! ## Values -/

namespace Json

mutual

theorem beq_self (j : Json) : j.beq j = true := by
  cases j with
  | null => simp [beq]
  | bool b => simp [beq]
  | num x =>
    rw [beq]
    exact x.beq_self
  | str s => simp [beq]
  | arr items =>
    rw [beq]
    exact beqItems_self items
  | obj members =>
    rw [beq]
    exact beqMembers_self members

theorem beqItems_self : ∀ items : List Json, beqItems items items = true
  | [] => by simp [beqItems]
  | x :: xs => by simp [beqItems, beq_self x, beqItems_self xs]

theorem beqMembers_self : ∀ members : List (String × Json), beqMembers members members = true
  | [] => by simp [beqMembers]
  | (k, x) :: xs => by simp [beqMembers, beq_self x, beqMembers_self xs]

end

mutual

theorem beq_symm : ∀ {a b : Json}, a.beq b = true → b.beq a = true
  | .null, b, h => by cases b <;> simp [beq] at h ⊢
  | .bool p, b, h => by
    cases b <;> simp [beq] at h ⊢
    exact h.symm
  | .num x, b, h => by
    cases b <;> simp only [beq, Bool.false_eq_true] at h ⊢
    exact Number.beq_symm h
  | .str s, b, h => by
    cases b <;> simp [beq] at h ⊢
    exact h.symm
  | .arr xs, b, h => by
    cases b <;> simp only [beq, Bool.false_eq_true] at h ⊢
    exact beqItems_symm h
  | .obj xs, b, h => by
    cases b <;> simp only [beq, Bool.false_eq_true] at h ⊢
    exact beqMembers_symm h

theorem beqItems_symm : ∀ {xs ys : List Json}, beqItems xs ys = true → beqItems ys xs = true
  | [], ys, h => by cases ys <;> simp [beqItems] at h ⊢
  | x :: xs, ys, h => by
    cases ys <;> simp only [beqItems, Bool.false_eq_true, Bool.and_eq_true] at h ⊢
    exact ⟨beq_symm h.1, beqItems_symm h.2⟩

theorem beqMembers_symm :
    ∀ {xs ys : List (String × Json)}, beqMembers xs ys = true → beqMembers ys xs = true
  | [], ys, h => by cases ys <;> simp [beqMembers] at h ⊢
  | (k, x) :: xs, ys, h => by
    cases ys <;> simp only [beqMembers, Bool.false_eq_true, Bool.and_eq_true, beq_iff_eq] at h ⊢
    exact ⟨⟨h.1.1.symm, beq_symm h.1.2⟩, beqMembers_symm h.2⟩

end

mutual

theorem beq_trans : ∀ {a b c : Json}, a.beq b = true → b.beq c = true → a.beq c = true
  | .null, b, c, hab, hbc => by
    cases b <;> simp only [beq, Bool.false_eq_true] at hab
    exact hbc
  | .bool p, b, c, hab, hbc => by
    cases b <;> simp only [beq, Bool.false_eq_true, beq_iff_eq] at hab
    rwa [hab]
  | .num x, b, c, hab, hbc => by
    cases b <;> simp only [beq, Bool.false_eq_true] at hab
    cases c <;> simp only [beq, Bool.false_eq_true] at hbc ⊢
    exact Number.beq_trans hab hbc
  | .str s, b, c, hab, hbc => by
    cases b <;> simp only [beq, Bool.false_eq_true, beq_iff_eq] at hab
    rwa [hab]
  | .arr xs, b, c, hab, hbc => by
    cases b <;> simp only [beq, Bool.false_eq_true] at hab
    cases c <;> simp only [beq, Bool.false_eq_true] at hbc ⊢
    exact beqItems_trans hab hbc
  | .obj xs, b, c, hab, hbc => by
    cases b <;> simp only [beq, Bool.false_eq_true] at hab
    cases c <;> simp only [beq, Bool.false_eq_true] at hbc ⊢
    exact beqMembers_trans hab hbc

theorem beqItems_trans : ∀ {xs ys zs : List Json},
    beqItems xs ys = true → beqItems ys zs = true → beqItems xs zs = true
  | [], ys, zs, hxy, hyz => by
    cases ys <;> simp only [beqItems, Bool.false_eq_true] at hxy
    exact hyz
  | x :: xs, ys, zs, hxy, hyz => by
    cases ys <;> simp only [beqItems, Bool.false_eq_true, Bool.and_eq_true] at hxy
    cases zs <;> simp only [beqItems, Bool.false_eq_true, Bool.and_eq_true] at hyz ⊢
    exact ⟨beq_trans hxy.1 hyz.1, beqItems_trans hxy.2 hyz.2⟩

theorem beqMembers_trans : ∀ {xs ys zs : List (String × Json)},
    beqMembers xs ys = true → beqMembers ys zs = true → beqMembers xs zs = true
  | [], ys, zs, hxy, hyz => by
    cases ys <;> simp only [beqMembers, Bool.false_eq_true] at hxy
    exact hyz
  | (k, x) :: xs, ys, zs, hxy, hyz => by
    cases ys <;> simp only [beqMembers, Bool.false_eq_true, Bool.and_eq_true, beq_iff_eq] at hxy
    cases zs <;>
      simp only [beqMembers, Bool.false_eq_true, Bool.and_eq_true, beq_iff_eq] at hyz ⊢
    exact ⟨⟨hxy.1.1.trans hyz.1.1, beq_trans hxy.1.2 hyz.1.2⟩, beqMembers_trans hxy.2 hyz.2⟩

end

end Json
end Guardrail
