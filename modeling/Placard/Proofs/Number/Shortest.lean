import Placard.Proofs.Number.Nearest
import Placard.Proofs.Text.Digit

/-!
# The shortest digits round to their number

The search for the shortest digits goes through ever finer decimal grids. On a grid whose steps are
less than half as wide as those of the binary places, the point nearest to a number lies in its
neighbourhood (`gridPoint?_isSome`), and with eighteen digits the steps are that fine. So the search
ends with digits that round to the number (`shortestDigits_contains`).
-/

namespace Placard.Number

open Text Double

/-! ## Decimal logarithms -/

theorem mul_ten_pow_le_iff (num den : Nat) (e : Int) :
    den * Nat.pow 10 e.toNat ≤ num * Nat.pow 10 (-e).toNat ↔ (10 : ℚ) ^ e * den ≤ num := by
  have hpos : (0 : ℚ) < 10 ^ (-e).toNat := by positivity
  have hcast : (den * Nat.pow 10 e.toNat ≤ num * Nat.pow 10 (-e).toNat) ↔
      (den : ℚ) * 10 ^ e.toNat ≤ num * 10 ^ (-e).toNat := by
    exact_mod_cast Iff.rfl
  rw [hcast, ten_pow_toNat e, ← mul_assoc, mul_le_mul_iff_left₀ hpos, mul_comm]

/-- The decimal logarithm of a fraction is rounded down. -/
theorem ten_zpow_floorLog10_le {num den : Nat} (hnum : num ≠ 0) (hden : den ≠ 0) :
    (10 : ℚ) ^ floorLog10 num den * den ≤ num := by
  obtain ⟨hlow, -⟩ := length_digitsOf_bounds hnum
  obtain ⟨-, hhigh⟩ := length_digitsOf_bounds hden
  unfold floorLog10
  rw [length_natText hnum, length_natText hden]
  dsimp only [timesTenPow]
  generalize (digitsOf num).length = a at *
  generalize (digitsOf den).length = b at *
  rw [neg_neg]
  split
  · next hle => exact (mul_ten_pow_le_iff num den _).mp hle
  · have hden' : (den : ℚ) ≤ 10 ^ (b : Int) := by exact_mod_cast hhigh.le
    have hnum' : (10 : ℚ) ^ ((a : Int) - 1) ≤ num := by
      refine le_trans ?_ (by exact_mod_cast hlow : ((10 ^ (a - 1) : Nat) : ℚ) ≤ num)
      push_cast
      rw [← zpow_natCast]
      exact zpow_le_zpow_right₀ (by norm_num) (by omega)
    calc (10 : ℚ) ^ ((a : Int) - b - 1) * den ≤ 10 ^ ((a : Int) - b - 1) * 10 ^ (b : Int) :=
          mul_le_mul_of_nonneg_left hden' (by positivity)
      _ = 10 ^ ((a : Int) - 1) := by
          rw [← zpow_add₀ (by norm_num)]
          congr 1
          ring
      _ ≤ num := hnum'

/-! ## Grids -/

/-- The point of a decimal grid that is nearest to a number. -/
def nearestPoint (m : Nat) (e j : Int) : Nat :=
  roundDiv (m * Nat.pow 2 e.toNat * Nat.pow 10 (-j).toNat)
    (Nat.pow 2 (-e).toNat * Nat.pow 10 (-(-j)).toNat)

/-- The nearest point is tried first, and then another one. -/
theorem gridPoint?_eq (m : Nat) (e j : Int) : ∃ far, gridPoint? m e j =
    if (Neighbourhood.of m e).holds e (nearestPoint m e j) j then some (nearestPoint m e j)
    else if (Neighbourhood.of m e).holds e far j then some far
    else none :=
  ⟨_, rfl⟩

theorem gridPoint?_contains {m n : Nat} {e j : Int} (h : gridPoint? m e j = some n) :
    (Neighbourhood.of m e).Contains e (n * 10 ^ j) := by
  obtain ⟨far, heq⟩ := gridPoint?_eq m e j
  rw [heq] at h
  split at h
  · next hnear =>
    obtain rfl := Option.some.inj h
    exact (Neighbourhood.holds_iff ..).mp hnear
  split at h
  · next hfar =>
    obtain rfl := Option.some.inj h
    exact (Neighbourhood.holds_iff ..).mp hfar
  · cases h

/-- The nearest point is at most half a step away. -/
theorem nearestPoint_near (m : Nat) (e j : Int) :
    2 * (m * 2 ^ e : ℚ) ≤ (2 * nearestPoint m e j + 1) * 10 ^ j ∧
      2 * (nearestPoint m e j * 10 ^ j : ℚ) ≤ 2 * (m * 2 ^ e) + 10 ^ j := by
  have hden : 0 < Nat.pow 2 (-e).toNat * Nat.pow 10 (-(-j)).toNat :=
    Nat.mul_pos (Nat.two_pow_pos _) (Nat.pow_pos (by decide))
  obtain ⟨hlow, hhigh⟩ :=
    roundDiv_near (m * Nat.pow 2 e.toNat * Nat.pow 10 (-j).toNat) _ hden
  change 2 * _ ≤ (2 * nearestPoint m e j + 1) * _ at hlow
  change 2 * (nearestPoint m e j * _) ≤ _ at hhigh
  generalize nearestPoint m e j = n at *
  have hpos : (0 : ℚ) < 2 ^ (-e).toNat * 10 ^ (-j).toNat := by positivity
  rw [neg_neg] at hlow hhigh
  have hnum : ((m * Nat.pow 2 e.toNat * Nat.pow 10 (-j).toNat : Nat) : ℚ) =
      m * 2 ^ e * (2 ^ (-e).toNat * 10 ^ (-j).toNat) := by
    rw [Nat.pow_eq, Nat.pow_eq]
    push_cast
    rw [two_pow_toNat e]
    ring
  have hstep : ((Nat.pow 2 (-e).toNat * Nat.pow 10 j.toNat : Nat) : ℚ) =
      10 ^ j * (2 ^ (-e).toNat * 10 ^ (-j).toNat) := by
    rw [Nat.pow_eq, Nat.pow_eq]
    push_cast
    rw [ten_pow_toNat j]
    ring
  rw [← Nat.cast_le (α := ℚ)] at hlow hhigh
  simp only [Nat.cast_mul 2, Nat.cast_mul (2 * n + 1), Nat.cast_mul n, Nat.cast_add, hnum, hstep,
    Nat.cast_ofNat, Nat.cast_one] at hlow hhigh
  constructor
  · refine le_of_mul_le_mul_right ?_ hpos
    linarith
  · refine le_of_mul_le_mul_right ?_ hpos
    linarith

/-- What is less than a quarter of a step away is in the neighbourhood. -/
theorem contains_of_near {m : Nat} {e : Int} {v : ℚ} (hm : 0 < m)
    (hlow : m * 2 ^ e - 2 ^ e / 4 < v) (hhigh : v < m * 2 ^ e + 2 ^ e / 4) :
    (Neighbourhood.of m e).Contains e v := by
  have hpos := two_zpow_pos e
  have hbelow : (Neighbourhood.of m e).low ≤ 4 * m - 1 := by
    unfold Neighbourhood.of
    dsimp only
    split <;> omega
  have hlow' : ((Neighbourhood.of m e).low : ℚ) + 1 ≤ 4 * m := by
    exact_mod_cast (by omega : (Neighbourhood.of m e).low + 1 ≤ 4 * m)
  have hhigh' : ((Neighbourhood.of m e).high : ℚ) = 4 * m + 2 := by
    simp [Neighbourhood.of]
  have hleft : (Neighbourhood.of m e).low * 2 ^ (e - 2) < v := by
    rw [two_zpow_sub_two]
    nlinarith
  have hright : v < (Neighbourhood.of m e).high * 2 ^ (e - 2) := by
    rw [two_zpow_sub_two, hhigh']
    linarith
  exact ⟨hleft.le, hright.le, fun _ => ⟨hleft, hright⟩⟩

/-- **Fine grids.** A grid with steps less than half as wide as the binary places has a point in the
neighbourhood. -/
theorem gridPoint?_isSome {m : Nat} {e j : Int} (hm : 0 < m) (h : (10 : ℚ) ^ j * 2 < 2 ^ e) :
    (gridPoint? m e j).isSome := by
  obtain ⟨hlow, hhigh⟩ := nearestPoint_near m e j
  obtain ⟨far, heq⟩ := gridPoint?_eq m e j
  rw [heq, if_pos]
  · rfl
  · exact (Neighbourhood.holds_iff ..).mpr (contains_of_near hm (by linarith) (by linarith))

/-! ## The search -/

/-- The search ends with a point of the first grid that has one. -/
theorem coarsest_spec {m : Nat} {e top : Int} {steps digits k : Nat} (hk : k < steps)
    (h : (gridPoint? m e (top + 1 - (digits + k : Nat))).isSome) :
    ∃ n j, coarsest m e top steps digits = (n, j) ∧ gridPoint? m e j = some n := by
  induction steps generalizing digits k with
  | zero => cases hk
  | succ steps ih =>
    unfold coarsest
    dsimp only
    split
    · next n hn => exact ⟨n, _, rfl, hn⟩
    · next hnone =>
      cases k with
      | zero =>
        rw [Nat.add_zero, hnone] at h
        cases h
      | succ k =>
        refine ih (k := k) (by omega) ?_
        rwa [show digits + 1 + k = digits + (k + 1) by omega]

/-- **Eighteen digits suffice.** The shortest digits of a positive number round to it. -/
theorem shortestDigits_contains {m : Nat} {e : Int} (hm : 0 < m) (hbits : m < 2 ^ 53) :
    (Neighbourhood.of m e).Contains e ((shortestDigits m e).1 * 10 ^ (shortestDigits m e).2) := by
  have hnum : m * Nat.pow 2 e.toNat ≠ 0 := (Nat.mul_pos hm (Nat.two_pow_pos _)).ne'
  have hden : Nat.pow 2 (-e).toNat ≠ 0 := (Nat.two_pow_pos _).ne'
  have htop := ten_zpow_floorLog10_le hnum hden
  obtain ⟨n, j, heq, hn⟩ : ∃ n j, shortestDigits m e = (n, j) ∧ gridPoint? m e j = some n := by
    refine coarsest_spec (k := 17) (by decide) (gridPoint?_isSome hm ?_)
    generalize floorLog10 _ _ = top at htop ⊢
    have hpos : (0 : ℚ) < 2 ^ (-e).toNat := by positivity
    have htop' : (10 : ℚ) ^ top ≤ m * 2 ^ e := by
      refine le_of_mul_le_mul_right ?_ hpos
      rw [mul_assoc, ← two_pow_toNat]
      rw [Nat.pow_eq, Nat.pow_eq] at htop
      exact_mod_cast htop
    have hm' : (m : ℚ) < 2 ^ 53 := by exact_mod_cast hbits
    have hstep : (10 : ℚ) ^ (top + 1 - (1 + 17 : Nat)) = 10 ^ top / 10 ^ 17 := by
      rw [show top + 1 - ((1 + 17 : Nat) : Int) = top - (17 : Nat) by push_cast; ring,
        zpow_sub₀ (by norm_num), zpow_natCast]
    have hplace := two_zpow_pos e
    rw [hstep, div_mul_eq_mul_div, div_lt_iff₀ (by norm_num)]
    calc (10 : ℚ) ^ top * 2 ≤ m * 2 ^ e * 2 := by linarith
      _ ≤ 2 ^ 53 * 2 ^ e * 2 := by nlinarith
      _ < 2 ^ e * 10 ^ 17 := by nlinarith
  rw [heq]
  exact gridPoint?_contains hn

end Placard.Number
