import Mathlib.Algebra.Order.Field.Power
import Mathlib.Data.Rat.Floor
import Mathlib.Tactic.FieldSimp
import Mathlib.Tactic.Linarith
import Mathlib.Tactic.Positivity
import Memberwise.Number.Binary64
import Memberwise.Number.Decimal

/-! # Rounding of rational numbers

Binary and decimal numbers denote rationals.  Both are rounded to the integer within half a unit
of what they denote, and of two such integers to the even one.
-/

namespace Memberwise

/-- Whether an integer is the nearest one to a rational: it is off by half a unit at most, and it
is even if it is off by that much. -/
structure IsNearestEven (x : ℚ) (n : ℤ) : Prop where
  near : |x - n| ≤ 1 / 2
  even : |x - n| = 1 / 2 → Even n

namespace IsNearestEven

variable {x y : ℚ} {m n : ℤ}

theorem of_lt (h : |x - n| < 1 / 2) : IsNearestEven x n :=
  ⟨h.le, fun htie => absurd htie h.ne⟩

theorem of_even (h : |x - n| ≤ 1 / 2) (heven : Even n) : IsNearestEven x n :=
  ⟨h, fun _ => heven⟩

theorem of_int (n : ℤ) : IsNearestEven n n := of_lt (by norm_num)

theorem neg (h : IsNearestEven x n) : IsNearestEven (-x) (-n : ℤ) := by
  have hdistance : |-x - ((-n : ℤ) : ℚ)| = |x - n| := by
    rw [← abs_neg]
    congr 1
    push_cast
    ring
  exact ⟨hdistance.trans_le h.near, fun htie => (h.even (hdistance.symm.trans htie)).neg⟩

/-- Two integers that are both nearest to a rational are a unit apart at most, and both even if
they are. -/
theorem unique (hn : IsNearestEven x n) (hm : IsNearestEven x m) : n = m := by
  have hn' := abs_le.mp hn.near
  have hm' := abs_le.mp hm.near
  have hupper : (n : ℚ) - m ≤ 1 := by linarith
  have hlower : (m : ℚ) - n ≤ 1 := by linarith
  have hupper : n - m ≤ 1 := by exact_mod_cast hupper
  have hlower : m - n ≤ 1 := by exact_mod_cast hlower
  by_contra hne
  have hapart : n = m + 1 ∨ m = n + 1 := by omega
  have hties : |x - n| = 1 / 2 ∧ |x - m| = 1 / 2 := by
    rcases hapart with rfl | rfl
    · push_cast at hn' ⊢
      have hx : x = m + 1 / 2 := by linarith
      subst hx
      constructor
      · rw [abs_of_nonpos] <;> linarith
      · rw [abs_of_nonneg] <;> linarith
    · push_cast at hm' ⊢
      have hx : x = n + 1 / 2 := by linarith
      subst hx
      constructor
      · rw [abs_of_nonneg] <;> linarith
      · rw [abs_of_nonpos] <;> linarith
  obtain ⟨i, hi⟩ := hn.even hties.1
  obtain ⟨j, hj⟩ := hm.even hties.2
  omega

/-- Rounding keeps the order of what is rounded. -/
theorem mono (hxy : x ≤ y) (hn : IsNearestEven x n) (hm : IsNearestEven y m) : n ≤ m := by
  by_contra hlt
  have hstep : m + 1 ≤ n := by omega
  have hstep : (m : ℚ) + 1 ≤ n := by exact_mod_cast hstep
  have hn' := abs_le.mp hn.near
  have hm' := abs_le.mp hm.near
  -- Between the two integers there is room for one rational only, so both are nearest to it.
  have heq : x = y := by linarith
  exact hlt (hn.unique (heq ▸ hm)).le

end IsNearestEven

/-! ## Quotients -/

/-- A quotient is its whole part and what the remainder is of the divisor. -/
theorem div_eq_whole_add (num : ℕ) {den : ℕ} (positive : 0 < den) :
    (num : ℚ) / den = (num / den : ℕ) + ((num % den : ℕ) : ℚ) / den := by
  have hden : (den : ℚ) ≠ 0 := by exact_mod_cast positive.ne'
  have hsplit : (num : ℚ) = den * (num / den : ℕ) + (num % den : ℕ) := by
    exact_mod_cast (Nat.div_add_mod num den).symm
  rw [div_eq_iff hden, add_mul, div_mul_cancel₀ _ hden, mul_comm _ (den : ℚ)]
  exact hsplit

theorem isNearestEven_nearestEven (num : ℕ) {den : ℕ} (positive : 0 < den) :
    IsNearestEven ((num : ℚ) / den) (nearestEven num den) := by
  have hden : (0 : ℚ) < den := by exact_mod_cast positive
  have hrest : (num % den : ℕ) < (den : ℚ) := by exact_mod_cast Nat.mod_lt num positive
  rw [div_eq_whole_add num positive]
  unfold nearestEven
  generalize num / den = q
  generalize num % den = r at hrest ⊢
  have hnonneg : (0 : ℚ) ≤ (r : ℚ) / den := by positivity
  have hbelow : (r : ℚ) / den < 1 := (div_lt_one hden).mpr hrest
  dsimp only
  split
  · rename_i hsmall
    have hsmall : (r : ℚ) / den < 1 / 2 := by
      rw [div_lt_iff₀ hden]
      have : 2 * (r : ℚ) < den := by exact_mod_cast hsmall
      linarith
    refine .of_lt (abs_lt.mpr ⟨?_, ?_⟩) <;> push_cast <;> linarith
  · split
    · rename_i hlarge
      have hlarge : 1 / 2 < (r : ℚ) / den := by
        rw [lt_div_iff₀ hden]
        have : (den : ℚ) < 2 * r := by exact_mod_cast hlarge
        linarith
      refine .of_lt (abs_lt.mpr ⟨?_, ?_⟩) <;> push_cast <;> linarith
    · have htie : (r : ℚ) / den = 1 / 2 := by
        rw [div_eq_iff hden.ne']
        have : (den : ℚ) = 2 * r := by
          have : den = 2 * r := by omega
          exact_mod_cast this
        linarith
      rw [htie]
      have heven : Even ((q + q % 2 : ℕ) : ℤ) :=
        (Int.even_coe_nat _).mpr (Nat.even_iff.mpr (by omega))
      refine .of_even (abs_le.mpr ?_) heven
      rcases Nat.mod_two_eq_zero_or_one q with hq | hq <;> rw [hq] <;> push_cast <;>
        constructor <;> linarith

theorem IsNearestEven.signed {x : ℚ} {n : ℕ} (negative : Bool) (h : IsNearestEven x n) :
    IsNearestEven (if negative then -x else x) (Memberwise.signed negative n) := by
  cases negative with
  | false => exact h
  | true => exact h.neg

/-! ## Binary and decimal numbers -/

/-- The rational that a binary number denotes, if it is finite. -/
def Binary64.toRat? : Binary64 → Option ℚ
  | .finite negative significand exponent _ =>
    some (if negative then -(significand * 2 ^ exponent) else significand * 2 ^ exponent)
  | _ => none

/-- The rational that a decimal number denotes, if it is finite. -/
def Decimal.toRat? : Decimal → Option ℚ
  | .finite negative coefficient exponent =>
    some (if negative then -(coefficient * 10 ^ exponent) else coefficient * 10 ^ exponent)
  | _ => none

theorem zpow_of_nonneg (base : ℚ) {e : ℤ} (h : 0 ≤ e) : base ^ e = base ^ e.toNat := by
  rw [← zpow_natCast, Int.toNat_of_nonneg h]

theorem zpow_of_neg (base : ℚ) {e : ℤ} (h : e < 0) : base ^ e = (base ^ e.natAbs)⁻¹ := by
  rw [← zpow_natCast, ← zpow_neg]
  congr 1
  omega

theorem Binary64.isNearestEven_round (negative : Bool) (significand : ℕ) (exponent : ℤ) :
    IsNearestEven
      (if negative then -((significand : ℚ) * 2 ^ exponent) else significand * 2 ^ exponent)
      (round negative significand exponent) := by
  unfold round ratio scale
  by_cases h : 0 ≤ exponent
  · rw [if_pos h]
    have hnear := isNearestEven_nearestEven (significand * Nat.pow 2 exponent.toNat) one_pos
    refine IsNearestEven.signed negative ?_
    rw [zpow_of_nonneg 2 h]
    simpa using hnear
  · rw [if_neg h]
    have hpow : 0 < 1 * Nat.pow 2 exponent.natAbs := by
      rw [one_mul]
      exact Nat.pow_pos (by decide)
    have hnear := isNearestEven_nearestEven significand hpow
    refine IsNearestEven.signed negative ?_
    rw [zpow_of_neg 2 (not_le.mp h), ← div_eq_mul_inv]
    simpa using hnear

/-- A coefficient with fewer digits than places behind the point is nearest to zero. -/
theorem Decimal.isNearestEven_zero {coefficient places : ℕ}
    (h : digitCount coefficient < places) :
    IsNearestEven ((coefficient : ℚ) / (10 ^ places : ℕ)) (0 : ℕ) := by
  have hbound : coefficient < 10 ^ digitCount coefficient :=
    (Nat.length_toDigits_le_iff (by decide) (digitCount_pos coefficient)).mp (Nat.le_refl _)
  have hsmall : 10 * coefficient < 10 ^ places := by
    calc 10 * coefficient < 10 * 10 ^ digitCount coefficient := by omega
      _ = 10 ^ (digitCount coefficient + 1) := by rw [Nat.pow_succ, Nat.mul_comm]
      _ ≤ 10 ^ places := Nat.pow_le_pow_right (by decide) h
  have hden : (0 : ℚ) < (10 ^ places : ℕ) := by positivity
  have hvalue : (coefficient : ℚ) / (10 ^ places : ℕ) < 1 / 2 := by
    rw [div_lt_iff₀ hden]
    have : (10 : ℚ) * coefficient < (10 ^ places : ℕ) := by exact_mod_cast hsmall
    linarith
  have hnonneg : (0 : ℚ) ≤ (coefficient : ℚ) / (10 ^ places : ℕ) := by positivity
  refine .of_lt (abs_lt.mpr ⟨?_, ?_⟩) <;> push_cast at * <;> linarith

theorem Decimal.isNearestEven_round (negative : Bool) (coefficient : ℕ) (exponent : ℤ) :
    IsNearestEven
      (if negative then -((coefficient : ℚ) * 10 ^ exponent) else coefficient * 10 ^ exponent)
      (round negative coefficient exponent) := by
  refine IsNearestEven.signed negative ?_
  by_cases h : 0 ≤ exponent
  · rw [if_pos h, zpow_of_nonneg 10 h]
    have hexact := IsNearestEven.of_int (coefficient * Nat.pow 10 exponent.toNat : ℕ)
    simpa using hexact
  · rw [if_neg h, zpow_of_neg 10 (not_le.mp h), ← div_eq_mul_inv]
    split
    · rename_i hfew
      have hzero := isNearestEven_zero hfew
      simpa using hzero
    · have hnear := isNearestEven_nearestEven coefficient
        (Nat.pow_pos (n := exponent.natAbs) (show 0 < 10 by decide))
      simpa using hnear

end Memberwise
