import Mathlib.Algebra.Order.Field.Power
import Mathlib.Data.Rat.Cast.Order
import Mathlib.Tactic.Linarith
import Mathlib.Tactic.Positivity
import Mathlib.Tactic.Ring
import Placard.Number.Double

/-!
# Rounding keeps the order

A fraction is rounded to a number of the grid, the multiples of the powers of two that take at most
53 bits. What lies on the grid and is not above the fraction is not above the rounded number either,
and the same from above. `ofRatio_eq` says so of the one place where numbers are rounded.
-/

namespace Placard.Number

open Double

/-! ## Powers of two -/

theorem two_zpow_pos (e : Int) : (0 : ℚ) < 2 ^ e :=
  zpow_pos (by norm_num) e

theorem two_zpow_lt {e f : Int} (h : e < f) : (2 : ℚ) ^ e < 2 ^ f :=
  zpow_lt_zpow_right₀ (by norm_num) h

/-- A power with the negative part of its exponent moved to the other side. -/
theorem two_pow_toNat (e : Int) : (2 : ℚ) ^ e.toNat = 2 ^ e * 2 ^ (-e).toNat := by
  rw [← zpow_natCast, ← zpow_natCast, ← zpow_add₀ (by norm_num)]
  congr 1
  omega

/-- The comparison of a fraction with a power of two in whole numbers. -/
theorem mul_two_pow_le_iff (num den : Nat) (e : Int) :
    den * Nat.pow 2 e.toNat ≤ num * Nat.pow 2 (-e).toNat ↔ (2 : ℚ) ^ e * den ≤ num := by
  have hpos : (0 : ℚ) < 2 ^ (-e).toNat := by positivity
  have hcast : (den * Nat.pow 2 e.toNat ≤ num * Nat.pow 2 (-e).toNat) ↔
      (den : ℚ) * 2 ^ e.toNat ≤ num * 2 ^ (-e).toNat := by
    exact_mod_cast Iff.rfl
  rw [hcast, two_pow_toNat e, ← mul_assoc, mul_le_mul_iff_left₀ hpos, mul_comm]

/-- The binary logarithm of a fraction, rounded down. -/
theorem floorLog2_spec {num den : Nat} (hnum : num ≠ 0) (hden : den ≠ 0) :
    (2 : ℚ) ^ floorLog2 num den * den ≤ num ∧ (num : ℚ) < 2 ^ (floorLog2 num den + 1) * den := by
  have hbounds {n : Nat} (hn : n ≠ 0) :
      (2 : ℚ) ^ (n.log2 : Int) ≤ n ∧ (n : ℚ) < 2 ^ ((n.log2 : Int) + 1) := by
    rw [← Nat.cast_succ, zpow_natCast, zpow_natCast]
    exact ⟨mod_cast Nat.log2_self_le hn, mod_cast Nat.lt_log2_self⟩
  obtain ⟨hlow, hhigh⟩ := hbounds hnum
  obtain ⟨hlow', hhigh'⟩ := hbounds hden
  unfold floorLog2
  dsimp only
  generalize (num.log2 : Int) = a at hlow hhigh ⊢
  generalize (den.log2 : Int) = b at hlow' hhigh' ⊢
  split
  · next hle =>
    refine ⟨(mul_two_pow_le_iff num den _).mp hle, lt_of_lt_of_le hhigh ?_⟩
    calc (2 : ℚ) ^ (a + 1) = 2 ^ (a - b + 1) * 2 ^ b := by
          rw [← zpow_add₀ (by norm_num)]; congr 1; ring
      _ ≤ 2 ^ (a - b + 1) * den := mul_le_mul_of_nonneg_left hlow' (two_zpow_pos _).le
  · next hlt =>
    rw [mul_two_pow_le_iff, not_le] at hlt
    refine ⟨le_trans ?_ hlow, by rwa [sub_add_cancel]⟩
    calc (2 : ℚ) ^ (a - b - 1) * den ≤ 2 ^ (a - b - 1) * 2 ^ (b + 1) :=
          mul_le_mul_of_nonneg_left hhigh'.le (two_zpow_pos _).le
      _ = 2 ^ a := by rw [← zpow_add₀ (by norm_num)]; congr 1; ring

/-! ## The grid -/

/-- Whether a number that is not negative takes at most 53 bits and is a multiple of the least
power of two. -/
def OnGrid (v : ℚ) : Prop :=
  ∃ (m : Nat) (e : Int), m < 2 ^ 53 ∧ minExponent ≤ e ∧ v = m * 2 ^ e

theorem onGrid_zero : OnGrid 0 :=
  ⟨0, minExponent, by norm_num, le_refl _, by simp⟩

/-- Powers of two are on the grid. -/
theorem onGrid_two_zpow {e : Int} (h : minExponent ≤ e) : OnGrid (2 ^ e) :=
  ⟨1, e, by norm_num, h, by simp⟩

/-- `m * 2 ^ q` is the number of the grid to which `num / den` is rounded. -/
structure IsNearest (num den m : Nat) (q : Int) : Prop where
  bits : m < 2 ^ 53
  exponent : minExponent ≤ q
  /-- what is on the grid and not above the fraction is not above the number -/
  above : ∀ v, OnGrid v → v * den ≤ num → v ≤ m * 2 ^ q
  /-- what is on the grid and not below the fraction is not below the number -/
  below : ∀ v, OnGrid v → num ≤ v * den → m * 2 ^ q ≤ v
  /-- an exponent that is too large for a finite number has a reason -/
  huge : maxExponent < q → (2 : ℚ) ^ (1023 : Int) * den ≤ num

/-- The nearest whole number is on the same side of every whole number. -/
theorem le_roundDiv {num den k : Nat} (hden : 0 < den) (h : k * den ≤ num) :
    k ≤ roundDiv num den := by
  obtain ⟨hnear, -⟩ := roundDiv_near num den hden
  have htwice : 2 * k * den ≤ (2 * roundDiv num den + 1) * den := by linarith
  have := Nat.le_of_mul_le_mul_right htwice hden
  omega

theorem roundDiv_le {num den k : Nat} (hden : 0 < den) (h : num ≤ k * den) :
    roundDiv num den ≤ k := by
  obtain ⟨-, hnear⟩ := roundDiv_near num den hden
  have htwice : 2 * roundDiv num den * den ≤ (2 * k + 1) * den := by linarith
  have := Nat.le_of_mul_le_mul_right htwice hden
  omega

section

variable {num den : Nat} {q : Int}

/-- The whole number of steps `2 ^ q` that is nearest to a fraction. -/
abbrev stepsOf (num den : Nat) (q : Int) : Nat :=
  roundDiv (num * Nat.pow 2 (-q).toNat) (den * Nat.pow 2 q.toNat)

theorem le_stepsOf (hden : 0 < den) {k : Nat} (h : (k : ℚ) * 2 ^ q * den ≤ num) :
    k ≤ stepsOf num den q := by
  refine le_roundDiv (Nat.mul_pos hden (Nat.two_pow_pos _)) ?_
  rw [← Nat.mul_assoc, mul_two_pow_le_iff]
  push_cast
  linarith

theorem stepsOf_le (hden : 0 < den) {k : Nat} (h : (num : ℚ) ≤ k * 2 ^ q * den) :
    stepsOf num den q ≤ k := by
  refine roundDiv_le (Nat.mul_pos hden (Nat.two_pow_pos _)) ?_
  -- the comparison is the one of `mul_two_pow_le_iff` for the opposite exponent
  have hopposite := mul_two_pow_le_iff (k * den) num (-q)
  rw [neg_neg] at hopposite
  rw [← Nat.mul_assoc, hopposite, zpow_neg]
  push_cast
  rw [inv_mul_le_iff₀ (two_zpow_pos q)]
  linarith

/-- On the grid, what takes less than 53 bits above `2 ^ q` is a number of steps. -/
theorem eq_steps {m : Nat} {e : Int} (h : q ≤ e) :
    (m : ℚ) * 2 ^ e = ((m * 2 ^ (e - q).toNat : Nat) : ℚ) * 2 ^ q := by
  have hsplit : (2 : ℚ) ^ e = 2 ^ (e - q).toNat * 2 ^ q := by
    rw [← zpow_natCast, ← zpow_add₀ (by norm_num)]
    congr 1
    omega
  push_cast
  rw [hsplit, mul_assoc]

end

/-! ## Fractions -/

/-- The exponent of the last place that a rounded fraction has. -/
abbrev lastPlace (num den : Nat) : Int :=
  max (floorLog2 num den - 52) minExponent

theorem floorLog2_le_lastPlace (num den : Nat) : floorLog2 num den ≤ lastPlace num den + 52 := by
  unfold lastPlace
  omega

theorem minExponent_le_lastPlace (num den : Nat) : minExponent ≤ lastPlace num den :=
  le_max_right _ _

/-- Unless the fraction is very small, the last place is the 53rd one of its bits. -/
theorem lastPlace_eq {num den : Nat} (h : minExponent < lastPlace num den) :
    lastPlace num den = floorLog2 num den - 52 := by
  unfold lastPlace at h ⊢
  omega

/-- A number of the grid is a number of steps of the last place, unless it is below the power of two
under the fraction. -/
theorem OnGrid.steps_or_lt {v : ℚ} (hv : OnGrid v) (num den : Nat) :
    (∃ k : Nat, v = k * 2 ^ lastPlace num den) ∨
      lastPlace num den = floorLog2 num den - 52 ∧ v < 2 ^ floorLog2 num den := by
  obtain ⟨m, e, hm, he, rfl⟩ := hv
  by_cases hplace : lastPlace num den ≤ e
  · exact .inl ⟨_, eq_steps hplace⟩
  · have heq : lastPlace num den = floorLog2 num den - 52 := lastPlace_eq (by omega)
    refine .inr ⟨heq, ?_⟩
    calc (m : ℚ) * 2 ^ e < 2 ^ (53 : Int) * 2 ^ e :=
          mul_lt_mul_of_pos_right (by exact_mod_cast hm) (two_zpow_pos e)
      _ = 2 ^ (53 + e) := by rw [zpow_add₀ (by norm_num)]
      _ ≤ 2 ^ floorLog2 num den := zpow_le_zpow_right₀ (by norm_num) (by omega)

section

variable {num den : Nat} (hnum : num ≠ 0) (hden : 0 < den)

include hnum hden

/-- Then a fraction has 53 bits above the last place. -/
theorem two_zpow_le_steps (h : lastPlace num den = floorLog2 num den - 52) :
    (2 : ℚ) ^ floorLog2 num den ≤ stepsOf num den (lastPlace num den) * 2 ^ lastPlace num den := by
  have hsplit : (2 : ℚ) ^ floorLog2 num den = ((2 ^ 52 : Nat) : ℚ) * 2 ^ lastPlace num den := by
    rw [show floorLog2 num den = 52 + lastPlace num den by omega, zpow_add₀ (by norm_num)]
    norm_num
  have hlow := (floorLog2_spec hnum hden.ne').1
  rw [hsplit] at hlow ⊢
  refine mul_le_mul_of_nonneg_right ?_ (two_zpow_pos _).le
  exact_mod_cast le_stepsOf hden hlow

theorem le_steps {v : ℚ} (hv : OnGrid v) (hle : v * den ≤ num) :
    v ≤ stepsOf num den (lastPlace num den) * 2 ^ lastPlace num den := by
  rcases hv.steps_or_lt num den with ⟨k, rfl⟩ | ⟨hplace, hlt⟩
  · refine mul_le_mul_of_nonneg_right ?_ (two_zpow_pos _).le
    exact_mod_cast le_stepsOf hden hle
  · exact hlt.le.trans (two_zpow_le_steps hnum hden hplace)

theorem steps_le {v : ℚ} (hv : OnGrid v) (hle : num ≤ v * den) :
    stepsOf num den (lastPlace num den) * 2 ^ lastPlace num den ≤ v := by
  rcases hv.steps_or_lt num den with ⟨k, rfl⟩ | ⟨-, hlt⟩
  · refine mul_le_mul_of_nonneg_right ?_ (two_zpow_pos _).le
    exact_mod_cast stepsOf_le hden hle
  · have hden' : (0 : ℚ) < den := by exact_mod_cast hden
    have hlow := (floorLog2_spec hnum hden.ne').1
    exact absurd (mul_lt_mul_of_pos_right hlt hden') (not_lt_of_ge (hlow.trans hle))

theorem steps_le_bits : stepsOf num den (lastPlace num den) ≤ 2 ^ 53 := by
  refine stepsOf_le hden ((floorLog2_spec hnum hden.ne').2.le.trans ?_)
  refine mul_le_mul_of_nonneg_right ?_ (Nat.cast_nonneg den)
  have hplace := floorLog2_le_lastPlace num den
  calc (2 : ℚ) ^ (floorLog2 num den + 1) ≤ 2 ^ (53 + lastPlace num den) :=
        zpow_le_zpow_right₀ (by norm_num) (by omega)
    _ = _ := by rw [zpow_add₀ (by norm_num)]; norm_num

theorem two_zpow_le_of_le_lastPlace (h : maxExponent ≤ lastPlace num den) :
    (2 : ℚ) ^ (1023 : Int) * den ≤ num := by
  refine (mul_le_mul_of_nonneg_right ?_ (Nat.cast_nonneg den)).trans
    (floorLog2_spec hnum hden.ne').1
  have hmax : minExponent < maxExponent ∧ maxExponent = 971 := by decide
  have hplace : lastPlace num den = floorLog2 num den - 52 := lastPlace_eq (by omega)
  exact zpow_le_zpow_right₀ (by norm_num) (by omega)

/-- A fraction is rounded to the nearest number of the grid, and to an infinity if the exponent of
that is too large. -/
theorem ofRatio_eq (negative : Bool) : ∃ m q, IsNearest num den m q ∧ ofRatio negative num den =
    if q ≤ maxExponent then .finite negative m q else .infinite negative := by
  have hplace := minExponent_le_lastPlace num den
  have hbits := steps_le_bits hnum hden
  have habove := fun v => le_steps (v := v) hnum hden
  have hbelow := fun v => steps_le (v := v) hnum hden
  have hhuge := two_zpow_le_of_le_lastPlace hnum hden
  unfold ofRatio
  rw [if_neg hnum]
  change ∃ m q, IsNearest num den m q ∧
    (if stepsOf num den (lastPlace num den) = 2 ^ 53 then
      if lastPlace num den + 1 ≤ maxExponent then
        finite negative (2 ^ 52) (lastPlace num den + 1) else infinite negative
    else if lastPlace num den ≤ maxExponent then
      finite negative (stepsOf num den (lastPlace num den)) (lastPlace num den)
    else infinite negative) = _
  generalize stepsOf num den (lastPlace num den) = m at *
  generalize lastPlace num den = q at *
  split
  · next hcarry =>
    -- one step too many is half as many steps of twice the length
    have hvalue : ((2 ^ 52 : Nat) : ℚ) * 2 ^ (q + 1) = m * 2 ^ q := by
      rw [hcarry, zpow_add₀ (by norm_num)]
      norm_num
      ring
    refine ⟨2 ^ 52, q + 1, ⟨by norm_num, by omega, ?_, ?_, fun h => hhuge (by omega)⟩, rfl⟩
    · rw [hvalue]
      exact habove
    · rw [hvalue]
      exact hbelow
  · exact ⟨m, q, ⟨by omega, hplace, habove, hbelow, fun h => hhuge (by omega)⟩, rfl⟩

end

end Placard.Number
