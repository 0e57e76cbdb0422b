import Mathlib.Tactic.Linarith
import Mathlib.Tactic.Positivity
import Mathlib.Tactic.Ring
import Placard.Number.Fixed
import Placard.Number.Reading
import Placard.Number.Shortest
import Placard.Proofs.Number.Rounding

/-!
# What rounds to a number

Every double has one form with the greatest mantissa that it can have (`IsCanonical`), and fractions
are rounded to numbers of that form (`isCanonical_ofRatio`). The fractions that are rounded to a
positive number are those of its neighbourhood (`ofRatio_eq_of_contains`): they reach to the middle
of the gaps beside it, and to the middles themselves if the mantissa is even. The gap below a power
of two is half as wide. Shares of few parts are far enough from such middles to be written with two
decimal places as if they had not been rounded before (`twoPlaces_ofRatio`).
-/

namespace Placard.Number

open Double

/-! ## Canonical forms -/

/-- Whether a mantissa and an exponent are those of a double: the mantissa has 53 bits, unless the
exponent is the least one. -/
structure IsCanonical (m : Nat) (e : Int) : Prop where
  bits : m < 2 ^ 53
  least : minExponent ≤ e
  greatest : e ≤ maxExponent
  full : 2 ^ 52 ≤ m ∨ e = minExponent

/-- Whether a finite number is written with the mantissa and the exponent of a double. -/
def Double.IsCanonical : Double → Prop
  | .finite _ m e => Number.IsCanonical m e
  | _ => True

/-- A fraction is rounded to a number of steps of its last place; one step too many is carried to
the next power of two. -/
theorem ofRatio_of_ne_zero {num : Nat} (hnum : num ≠ 0) (den : Nat) (s : Bool) : ofRatio s num den =
    if stepsOf num den (lastPlace num den) = 2 ^ 53 then
      if lastPlace num den + 1 ≤ maxExponent then finite s (2 ^ 52) (lastPlace num den + 1)
      else infinite s
    else if lastPlace num den ≤ maxExponent then
      finite s (stepsOf num den (lastPlace num den)) (lastPlace num den)
    else infinite s := by
  unfold ofRatio
  rw [if_neg hnum]
  rfl

theorem isCanonical_zero (s : Bool) : (zero s).IsCanonical :=
  ⟨by norm_num, le_refl _, by decide, .inr rfl⟩

/-- **Fractions are rounded to canonical numbers.** -/
theorem isCanonical_ofRatio (s : Bool) (num : Nat) {den : Nat} (hden : 0 < den) :
    (ofRatio s num den).IsCanonical := by
  by_cases hnum : num = 0
  · rw [ofRatio, if_pos hnum]
    exact isCanonical_zero s
  have hleast := minExponent_le_lastPlace num den
  have hbits := steps_le_bits hnum hden
  rw [ofRatio_of_ne_zero hnum]
  split
  · split
    · next hq => exact ⟨by norm_num, by omega, hq, .inl (le_refl _)⟩
    · trivial
  · split
    · next hq =>
      refine ⟨by omega, hleast, hq, or_iff_not_imp_right.mpr fun hne => ?_⟩
      have hplace : lastPlace num den = floorLog2 num den - 52 := lastPlace_eq (by omega)
      have hle := two_zpow_le_steps hnum hden hplace
      have hsplit : (2 : ℚ) ^ floorLog2 num den = 2 ^ 52 * 2 ^ lastPlace num den := by
        rw [show floorLog2 num den = 52 + lastPlace num den by omega, zpow_add₀ (by norm_num)]
        norm_num
      rw [hsplit, mul_le_mul_iff_left₀ (two_zpow_pos _)] at hle
      exact_mod_cast hle
    · trivial

/-- **Decimal numbers are read as canonical numbers.** -/
theorem Scientific.isCanonical_toDouble (x : Scientific) : x.toDouble.IsCanonical := by
  unfold toDouble
  dsimp only
  split
  · exact isCanonical_zero _
  split
  · trivial
  split
  · exact isCanonical_zero _
  · exact isCanonical_ofRatio _ _ (Nat.pow_pos (by decide))

/-! ## Rounding to a given number -/

/-- The nearest whole number, from the bounds of the fractions that are rounded to it. -/
theorem roundDiv_eq {num den m : Nat} (hden : 0 < den) (hlow : 2 * m * den ≤ 2 * num + den)
    (hhigh : 2 * num ≤ (2 * m + 1) * den)
    (htie : m % 2 = 1 → 2 * m * den < 2 * num + den ∧ 2 * num < (2 * m + 1) * den) :
    roundDiv num den = m := by
  have hdiv := Nat.div_add_mod num den
  have hmod := Nat.mod_lt num hden
  unfold roundDiv
  dsimp only
  generalize num / den = d at *
  generalize num % den = r at *
  subst hdiv
  have hle : m ≤ d + 1 := by
    by_contra hlt
    have : (d + 2) * den ≤ m * den := Nat.mul_le_mul_right den (by omega)
    nlinarith
  have hge : d ≤ m := by
    by_contra hlt
    have : (m + 1) * den ≤ d * den := Nat.mul_le_mul_right den (by omega)
    nlinarith
  rcases (by omega : m = d ∨ m = d + 1) with rfl | rfl
  · -- the rest is at most half, and less if the number is odd
    have hrest : 2 * r ≤ den := by nlinarith
    have hodd : m % 2 = 1 → 2 * r < den := fun h => by nlinarith [htie h]
    rw [if_neg]
    simp only [Bool.or_eq_true, decide_eq_true_eq, Bool.and_eq_true, beq_iff_eq, not_or, not_and]
    exact ⟨by omega, fun h hodd' => by have := hodd hodd'; omega⟩
  · have hrest : den ≤ 2 * r := by nlinarith
    have hodd : (d + 1) % 2 = 1 → den < 2 * r := fun h => by nlinarith [htie h]
    rw [if_pos]
    simp only [Bool.or_eq_true, decide_eq_true_eq, Bool.and_eq_true, beq_iff_eq]
    by_cases h : den < 2 * r
    · exact .inl h
    · exact .inr ⟨by omega, by by_contra heven; exact h (hodd (by omega))⟩

/-- Whether a number lies between two others, the ends belonging to it or not. -/
structure Between (low high : ℚ) (closed : Prop) (v : ℚ) : Prop where
  low_le : low ≤ v
  le_high : v ≤ high
  strict : ¬closed → low < v ∧ v < high

theorem Between.mono {low high low' high' v : ℚ} {closed : Prop} (h : Between low high closed v)
    (hlow : low' ≤ low) (hhigh : high ≤ high') : Between low' high' closed v where
  low_le := hlow.trans h.low_le
  le_high := h.le_high.trans hhigh
  strict hopen := ⟨hlow.trans_lt (h.strict hopen).1, (h.strict hopen).2.trans_le hhigh⟩

theorem stepsOf_eq {num den m : Nat} {q : Int} {v : ℚ} (hden : 0 < den) (hv : v * den = num)
    (h : Between ((m - 1 / 2) * 2 ^ q) ((m + 1 / 2) * 2 ^ q) (m % 2 = 0) v) :
    stepsOf num den q = m := by
  have hpos : (0 : ℚ) < den * 2 ^ (-q).toNat := by positivity
  have hnum : ((num * Nat.pow 2 (-q).toNat : Nat) : ℚ) = v * (den * 2 ^ (-q).toNat) := by
    rw [Nat.pow_eq]
    push_cast
    rw [← hv, mul_assoc]
  have hstep : ((den * Nat.pow 2 q.toNat : Nat) : ℚ) = 2 ^ q * (den * 2 ^ (-q).toNat) := by
    rw [Nat.pow_eq]
    push_cast
    rw [two_pow_toNat q]
    ring
  -- the bounds in units of the common factor
  have hlow (x : ℚ) : (x - 1 / 2) * 2 ^ q * (den * 2 ^ (-q).toNat) =
      (2 * x * (2 ^ q * (den * 2 ^ (-q).toNat)) - 2 ^ q * (den * 2 ^ (-q).toNat)) / 2 := by
    ring
  have hhigh (x : ℚ) : (x + 1 / 2) * 2 ^ q * (den * 2 ^ (-q).toNat) =
      (2 * x + 1) * (2 ^ q * (den * 2 ^ (-q).toNat)) / 2 := by
    ring
  refine roundDiv_eq (Nat.mul_pos hden (Nat.two_pow_pos _)) ?_ ?_ fun hodd => ?_
  · have hle := mul_le_mul_of_nonneg_right h.low_le hpos.le
    rw [hlow, ← hnum, ← hstep] at hle
    have : (2 * m * (den * Nat.pow 2 q.toNat : Nat) : ℚ) ≤
        2 * (num * Nat.pow 2 (-q).toNat : Nat) + (den * Nat.pow 2 q.toNat : Nat) := by linarith
    exact_mod_cast this
  · have hle := mul_le_mul_of_nonneg_right h.le_high hpos.le
    rw [hhigh, ← hnum, ← hstep] at hle
    have : (2 * (num * Nat.pow 2 (-q).toNat : Nat) : ℚ) ≤
        (2 * m + 1) * (den * Nat.pow 2 q.toNat : Nat) := by linarith
    exact_mod_cast this
  · obtain ⟨hlt, hlt'⟩ := h.strict (by omega)
    have hlt := mul_lt_mul_of_pos_right hlt hpos
    have hlt' := mul_lt_mul_of_pos_right hlt' hpos
    rw [hlow, ← hnum, ← hstep] at hlt
    rw [hhigh, ← hnum, ← hstep] at hlt'
    have hleft : (2 * m * (den * Nat.pow 2 q.toNat : Nat) : ℚ) <
        2 * (num * Nat.pow 2 (-q).toNat : Nat) + (den * Nat.pow 2 q.toNat : Nat) := by linarith
    have hright : (2 * (num * Nat.pow 2 (-q).toNat : Nat) : ℚ) <
        (2 * m + 1) * (den * Nat.pow 2 q.toNat : Nat) := by linarith
    exact ⟨by exact_mod_cast hleft, by exact_mod_cast hright⟩

/-! ## Neighbourhoods -/

/-- Whether a fraction is rounded to the number of a neighbourhood with last place `2 ^ e`. -/
abbrev Neighbourhood.Contains (w : Neighbourhood) (e : Int) (v : ℚ) : Prop :=
  Between (w.low * 2 ^ (e - 2)) (w.high * 2 ^ (e - 2)) (w.closed = true) v

theorem two_zpow_sub_two (e : Int) : (2 : ℚ) ^ (e - 2) = 2 ^ e / 4 := by
  rw [zpow_sub₀ (by norm_num)]
  norm_num

theorem two_zpow_add (e : Int) (k : Nat) : (2 : ℚ) ^ (e + k) = 2 ^ k * 2 ^ e := by
  rw [zpow_add₀ (by norm_num), zpow_natCast, mul_comm]

theorem ten_pow_toNat (j : Int) : (10 : ℚ) ^ j.toNat = 10 ^ j * 10 ^ (-j).toNat := by
  rw [← zpow_natCast, ← zpow_natCast, ← zpow_add₀ (by norm_num)]
  congr 1
  omega

/-- The check of a neighbourhood compares whole numbers. -/
theorem Neighbourhood.holds_iff (w : Neighbourhood) (e : Int) (n : Nat) (j : Int) :
    w.holds e n j = true ↔ w.Contains e (n * 10 ^ j) := by
  have hpos : (0 : ℚ) < 10 ^ (-j).toNat * 2 ^ (2 - e).toNat := by positivity
  have hvalue : ((n * Nat.pow 10 j.toNat * Nat.pow 2 (2 - e).toNat : Nat) : ℚ) =
      n * 10 ^ j * (10 ^ (-j).toNat * 2 ^ (2 - e).toNat) := by
    rw [Nat.pow_eq, Nat.pow_eq]
    push_cast
    rw [ten_pow_toNat j]
    ring
  have hend (k : Nat) : ((k * (Nat.pow 10 (-j).toNat * Nat.pow 2 (e - 2).toNat) : Nat) : ℚ) =
      k * 2 ^ (e - 2) * (10 ^ (-j).toNat * 2 ^ (2 - e).toNat) := by
    rw [Nat.pow_eq, Nat.pow_eq]
    push_cast
    rw [two_pow_toNat (e - 2), neg_sub]
    ring
  -- the comparison of integers is that of fractions, times the denominators of both
  have hle (k : Nat) : (k * (Nat.pow 10 (-j).toNat * Nat.pow 2 (e - 2).toNat) ≤
      n * Nat.pow 10 j.toNat * Nat.pow 2 (2 - e).toNat) ↔ (k : ℚ) * 2 ^ (e - 2) ≤ n * 10 ^ j := by
    rw [← Nat.cast_le (α := ℚ), hvalue, hend, mul_le_mul_iff_left₀ hpos]
  have hge (k : Nat) : (n * Nat.pow 10 j.toNat * Nat.pow 2 (2 - e).toNat ≤
      k * (Nat.pow 10 (-j).toNat * Nat.pow 2 (e - 2).toNat)) ↔
        (n : ℚ) * 10 ^ j ≤ k * 2 ^ (e - 2) := by
    rw [← Nat.cast_le (α := ℚ), hvalue, hend, mul_le_mul_iff_left₀ hpos]
  unfold holds
  dsimp only
  split
  · next hclosed =>
    rw [Bool.and_eq_true, decide_eq_true_iff, decide_eq_true_iff, hle, hge]
    exact ⟨fun h => ⟨h.1, h.2, fun hopen => absurd hclosed hopen⟩, fun h => ⟨h.low_le, h.le_high⟩⟩
  · next hopen =>
    rw [Bool.and_eq_true, decide_eq_true_iff, decide_eq_true_iff, ← not_le, ← not_le, hle, hge,
      not_le, not_le]
    exact ⟨fun h => ⟨h.1.le, h.2.le, fun _ => h⟩, fun h => h.strict hopen⟩

/-- A neighbourhood reaches at most half a step to both sides. -/
theorem Neighbourhood.Contains.between {m : Nat} {e : Int} {v : ℚ} (hm : 0 < m)
    (h : (Neighbourhood.of m e).Contains e v) :
    Between ((m - 1 / 2) * 2 ^ e) ((m + 1 / 2) * 2 ^ e) (m % 2 = 0) v := by
  have hpos := two_zpow_pos e
  have hlow : ((4 * m - 2 : Nat) : ℚ) ≤ (Neighbourhood.of m e).low := by
    unfold Neighbourhood.of
    dsimp only
    split
    · exact_mod_cast (by omega : 4 * m - 2 ≤ 4 * m - 1)
    · exact le_refl _
  rw [Nat.cast_sub (by omega)] at hlow
  have hclosed : ((Neighbourhood.of m e).closed = true) = (m % 2 = 0) := by
    simp [Neighbourhood.of]
  unfold Contains at h
  rw [hclosed] at h
  refine h.mono ?_ ?_
  · rw [two_zpow_sub_two]
    push_cast at hlow
    nlinarith
  · have hhigh : ((Neighbourhood.of m e).high : ℚ) = 4 * m + 2 := by
      simp [Neighbourhood.of]
    rw [two_zpow_sub_two, hhigh]
    linarith

/-- Near a number with 53 binary digits there are no more than these before the last place. -/
theorem Between.lt_two_zpow {m : Nat} {e : Int} {v : ℚ} {closed : Prop} (hbits : m < 2 ^ 53)
    (h : Between ((m - 1 / 2) * 2 ^ e) ((m + 1 / 2) * 2 ^ e) closed v) :
    v < 2 ^ (e + (53 : Nat)) := by
  have hstep := two_zpow_pos e
  have hbits' : (m : ℚ) + 1 ≤ 2 ^ 53 := by exact_mod_cast (by omega : m + 1 ≤ 2 ^ 53)
  rw [two_zpow_add]
  nlinarith [h.le_high]

/-! ## Rounding a fraction of a neighbourhood -/

section

variable {num den : Nat} {v : ℚ} (hden : 0 < den) (hv : v * den = num)

include hden hv

theorem num_ne_zero (hpos : 0 < v) : num ≠ 0 := by
  rintro rfl
  have hden' : (0 : ℚ) < den := by exact_mod_cast hden
  have := mul_pos hpos hden'
  rw [hv, Nat.cast_zero] at this
  exact lt_irrefl 0 this

theorem le_floorLog2 {f : Int} (h : (2 : ℚ) ^ f ≤ v) : f ≤ floorLog2 num den := by
  have hden' : (0 : ℚ) < den := by exact_mod_cast hden
  have hnum := num_ne_zero hden hv ((two_zpow_pos f).trans_le h)
  have hhigh := (floorLog2_spec hnum hden.ne').2
  rw [← hv] at hhigh
  have hlt := h.trans_lt (lt_of_mul_lt_mul_right hhigh hden'.le)
  rw [zpow_lt_zpow_iff_right₀ one_lt_two] at hlt
  omega

theorem floorLog2_lt (hpos : 0 < v) {g : Int} (h : v < 2 ^ g) : floorLog2 num den < g := by
  have hden' : (0 : ℚ) < den := by exact_mod_cast hden
  have hlow := (floorLog2_spec (num_ne_zero hden hv hpos) hden.ne').1
  rw [← hv] at hlow
  have hlt := (le_of_mul_le_mul_right hlow hden').trans_lt h
  rwa [zpow_lt_zpow_iff_right₀ one_lt_two] at hlt

/-- A fraction that lies less than half a step below a power of two is rounded up to it. -/
theorem ofRatio_eq_two_pow {e : Int} (hleast : minExponent < e) (hgreatest : e ≤ maxExponent)
    (hlow : (2 ^ 53 - 1 / 2) * 2 ^ (e - 1) ≤ v) (hhigh : v < 2 ^ (e + (52 : Nat))) (s : Bool) :
    ofRatio s num den = .finite s (2 ^ 52) e := by
  have hstep := two_zpow_pos e
  have hhalf : (2 : ℚ) ^ (e - 1) = 2 ^ e / 2 := by
    rw [zpow_sub_one₀ (by norm_num)]
    ring
  have hpos : 0 < v := by
    rw [hhalf] at hlow
    nlinarith
  have hplace : lastPlace num den = e - 1 := by
    have := le_floorLog2 hden hv (f := e + (51 : Nat)) (by rw [two_zpow_add]; nlinarith)
    have := floorLog2_lt hden hv hpos hhigh
    unfold lastPlace
    omega
  have hsteps : stepsOf num den (e - 1) = 2 ^ 53 := by
    refine stepsOf_eq hden hv ⟨by exact_mod_cast hlow, ?_, fun hodd => absurd rfl hodd⟩
    rw [two_zpow_add] at hhigh
    push_cast
    rw [hhalf]
    nlinarith
  rw [ofRatio_of_ne_zero (num_ne_zero hden hv hpos) den s, hplace, hsteps, if_pos rfl,
    if_pos (by omega), sub_add_cancel]

/-- Fractions that are near a number have its last place, unless the number is a power of two and the
fraction is below it. -/
theorem below_of_lastPlace_ne {m : Nat} {e : Int} (hc : IsCanonical m e)
    (h : Between ((m - 1 / 2) * 2 ^ e) ((m + 1 / 2) * 2 ^ e) (m % 2 = 0) v) (hpos : 0 < v)
    (hplace : lastPlace num den ≠ e) :
    minExponent < e ∧ m = 2 ^ 52 ∧ v < 2 ^ (e + (52 : Nat)) := by
  have hstep := two_zpow_pos e
  have habove := floorLog2_lt hden hv hpos (h.lt_two_zpow hc.bits)
  have hleast := hc.least
  have hlow : v < 2 ^ (e + (52 : Nat)) := by
    by_contra hle
    have := le_floorLog2 hden hv (not_lt.mp hle)
    unfold lastPlace at hplace
    omega
  have hnotLeast : e ≠ minExponent := by
    rintro rfl
    have := floorLog2_lt hden hv hpos hlow
    unfold lastPlace at hplace
    omega
  refine ⟨by omega, ?_, hlow⟩
  have hfull := hc.full.resolve_right hnotLeast
  rw [two_zpow_add] at hlow
  have hle : (m : ℚ) - 1 / 2 < 2 ^ 52 := by nlinarith [h.low_le]
  by_contra hne
  have : ((2 ^ 52 + 1 : Nat) : ℚ) ≤ m := by exact_mod_cast (by omega : 2 ^ 52 + 1 ≤ m)
  push_cast at this
  linarith

/-- **Rounding to a given number.** The fractions of the neighbourhood of a positive number are
rounded to it. -/
theorem ofRatio_eq_of_contains {m : Nat} {e : Int} (hc : IsCanonical m e) (hm : 0 < m)
    (h : (Neighbourhood.of m e).Contains e v) (s : Bool) :
    ofRatio s num den = .finite s m e := by
  have hbetween := h.between hm
  have hpos : 0 < v := by
    have hstep := two_zpow_pos e
    have hm' : (1 : ℚ) ≤ m := by exact_mod_cast hm
    nlinarith [hbetween.low_le]
  by_cases hplace : lastPlace num den = e
  · -- the last places agree, and the mantissa is the number of steps
    rw [ofRatio_of_ne_zero (num_ne_zero hden hv hpos) den s, hplace, stepsOf_eq hden hv hbetween,
      if_neg hc.bits.ne, if_pos hc.greatest]
  · -- the neighbourhood of a power of two reaches a quarter of its step below it
    obtain ⟨hleast, rfl, hhigh⟩ := below_of_lastPlace_ne hden hv hc hbetween hpos hplace
    refine ofRatio_eq_two_pow hden hv hleast hc.greatest ?_ hhigh s
    have hend := h.low_le
    have hvalue : (Neighbourhood.of (2 ^ 52) e).low = 2 ^ 54 - 1 := by
      simp [Neighbourhood.of, hleast.ne']
    rw [hvalue, two_zpow_sub_two] at hend
    rw [zpow_sub_one₀ (by norm_num)]
    norm_num at hend ⊢
    linarith

end

/-! ## Hundredths of a share

A share of a whole of at most 256 parts is written with two decimal places. It is rounded twice: to
a double, and from there to hundredths. The first step does not show: a share that lies between two
halves of hundredths is so far from both that a sixteenth binary place separates it from them, and
rounding to a double stays on the same side of such a number. -/

section

open Text

/-- Numbers with sixteen binary places are on the grid. -/
theorem onGrid_binaryPlaces {k : Nat} (h : k < 2 ^ 53) : OnGrid ((k : ℚ) / 2 ^ 16) := by
  refine ⟨k, -16, h, by decide, ?_⟩
  rw [zpow_neg, div_eq_mul_inv]
  norm_cast

section

variable {num den n m : Nat} {q : Int}

/-- A share that is more than half a hundredth above others is so after it was rounded. -/
theorem lt_of_isNearest (hnear : IsNearest num den m q) (hparts : den ≤ 256) (hsmall : n ≤ 100)
    (h : 2 * n * den < 200 * num + den) : 2 * (n : ℚ) < 200 * (m * 2 ^ q) + 1 := by
  by_cases hn : n = 0
  · have hpos : (0 : ℚ) ≤ m * 2 ^ q := mul_nonneg (Nat.cast_nonneg m) (two_zpow_pos q).le
    rw [hn, Nat.cast_zero]
    linarith
  · -- the first binary place behind the half of the hundredth
    obtain ⟨k, hk⟩ : ∃ k, k = (2 * n - 1) * 2 ^ 16 / 200 + 1 := ⟨_, rfl⟩
    have hlow : (2 * n - 1) * 2 ^ 16 < 200 * k := by omega
    have hhigh : 200 * k ≤ (2 * n - 1) * 2 ^ 16 + 200 := by omega
    have hbelow : 200 * (k * den) ≤ 200 * (num * 2 ^ 16) := by
      obtain ⟨j, rfl⟩ : ∃ j, n = j + 1 := ⟨n - 1, by omega⟩
      have hfactor : 2 * (j + 1) - 1 = 2 * j + 1 := by omega
      rw [hfactor] at hhigh
      nlinarith [Nat.mul_le_mul_right den hhigh]
    have hgrid : (k : ℚ) / 2 ^ 16 ≤ m * 2 ^ q := by
      refine hnear.above _ (onGrid_binaryPlaces (by omega)) ?_
      rw [div_mul_eq_mul_div, div_le_iff₀ (by positivity)]
      exact_mod_cast Nat.le_of_mul_le_mul_left hbelow (by decide)
    have hk' : ((2 * n - 1 : Nat) : ℚ) * 2 ^ 16 < 200 * k := by exact_mod_cast hlow
    rw [Nat.cast_sub (by omega), Nat.cast_mul, Nat.cast_one, Nat.cast_ofNat] at hk'
    rw [div_le_iff₀ (by positivity)] at hgrid
    linarith

/-- The same from below. -/
theorem gt_of_isNearest (hnear : IsNearest num den m q) (hparts : den ≤ 256) (hsmall : n ≤ 100)
    (h : 200 * num < (2 * n + 1) * den) : 200 * (m * 2 ^ q) < 2 * (n : ℚ) + 1 := by
  -- the last binary place before the half of the hundredth
  obtain ⟨k, hk⟩ : ∃ k, k = ((2 * n + 1) * 2 ^ 16 - 1) / 200 := ⟨_, rfl⟩
  have hhigh : 200 * k < (2 * n + 1) * 2 ^ 16 := by omega
  have hlow : (2 * n + 1) * 2 ^ 16 ≤ 200 * k + 200 := by omega
  have habove : 200 * (num * 2 ^ 16) ≤ 200 * (k * den) := by
    nlinarith [Nat.mul_le_mul_right den hlow]
  have hgrid : m * 2 ^ q ≤ (k : ℚ) / 2 ^ 16 := by
    refine hnear.below _ (onGrid_binaryPlaces (by omega)) ?_
    rw [div_mul_eq_mul_div, le_div_iff₀ (by positivity)]
    exact_mod_cast Nat.le_of_mul_le_mul_left habove (by decide)
  have hk' : 200 * (k : ℚ) < (2 * n + 1) * 2 ^ 16 := by exact_mod_cast hhigh
  rw [le_div_iff₀ (by positivity)] at hgrid
  linarith

theorem le_maxExponent_of_isNearest (hden : 0 < den) (hle : num ≤ den)
    (hnear : IsNearest num den m q) : q ≤ maxExponent := by
  by_contra hlt
  have hhuge := hnear.huge (not_le.mp hlt)
  have hone : (num : ℚ) ≤ 1 * den := by rw [one_mul]; exact_mod_cast hle
  have hden' : (0 : ℚ) < den := by exact_mod_cast hden
  have hlarge : (1 : ℚ) < 2 ^ (1023 : Int) := one_lt_zpow₀ (by norm_num) (by norm_num)
  exact absurd (le_of_mul_le_mul_right (hhuge.trans hone) hden') (not_le.mpr hlarge)

/-- The fraction whose hundredths are rounded has the value of the double. -/
theorem roundDiv_hundredths (hlow : 2 * (n : ℚ) < 200 * (m * 2 ^ q) + 1)
    (hhigh : 200 * (m * 2 ^ q) < 2 * (n : ℚ) + 1) :
    roundDiv (100 * (m * Nat.pow 2 q.toNat)) (Nat.pow 2 (-q).toNat) = n := by
  have hpos : 0 < Nat.pow 2 (-q).toNat := Nat.two_pow_pos _
  have hvalue : ((m * Nat.pow 2 q.toNat : Nat) : ℚ) = m * 2 ^ q * (Nat.pow 2 (-q).toNat : Nat) := by
    have := two_pow_toNat q
    push_cast [Nat.pow_eq]
    rw [this]
    ring
  have hpos' : (0 : ℚ) < (Nat.pow 2 (-q).toNat : Nat) := by exact_mod_cast hpos
  have hlow' := mul_lt_mul_of_pos_right hlow hpos'
  have hhigh' := mul_lt_mul_of_pos_right hhigh hpos'
  generalize Nat.pow 2 (-q).toNat = d at *
  generalize m * Nat.pow 2 q.toNat = p at *
  have hbelow : 2 * n * d < 200 * p + d := by
    have : (2 * n * d : ℚ) < 200 * p + d := by rw [hvalue]; linarith
    exact_mod_cast this
  have habove : 200 * p < (2 * n + 1) * d := by
    have : (200 * p : ℚ) < (2 * n + 1) * d := by rw [hvalue]; linarith
    exact_mod_cast this
  refine roundDiv_eq hpos ?_ ?_ fun _ => ⟨?_, ?_⟩ <;> omega

/-- **Two places of a share.** A share that is no half of a hundredth is written as the nearest
hundredth. -/
theorem twoPlaces_ofRatio (negative : Bool) (hden : 0 < den) (hparts : den ≤ 256) (hle : num ≤ den)
    (hlow : 2 * n * den < 200 * num + den) (hhigh : 200 * num < (2 * n + 1) * den) :
    twoPlaces (ofRatio negative num den) = (if negative then ['-'] else []) ++ hundredthsText n := by
  have hsmall : n ≤ 100 := by nlinarith
  by_cases hnum : num = 0
  · have hn : n = 0 := by
      subst hnum
      by_contra hpos
      have : 1 * den ≤ n * den := Nat.mul_le_mul_right den (Nat.pos_of_ne_zero hpos)
      linarith
    subst hnum hn
    have hzero (k : Nat) : roundDiv 0 (Nat.pow 2 k) = 0 :=
      Nat.le_zero.mp (roundDiv_le (Nat.two_pow_pos k) (Nat.zero_le _))
    rw [ofRatio, if_pos rfl, zero, twoPlaces, Nat.zero_mul, Nat.mul_zero, hzero]
  · obtain ⟨m, q, hnear, heq⟩ := ofRatio_eq hnum hden negative
    have hlow' := lt_of_isNearest hnear hparts hsmall hlow
    have hhigh' := gt_of_isNearest hnear hparts hsmall hhigh
    rw [heq, if_pos (le_maxExponent_of_isNearest hden hle hnear), twoPlaces,
      roundDiv_hundredths hlow' hhigh']

end

end

end Placard.Number
