import Placard.Proofs.Number.Rounding

/-!
# Values of doubles

`Double.value` is the exact value of a finite number, and `Double.AtLeast v x` says of a computed
number that it is no less than `v`, an infinity included. Sums of numbers that are not negative only
grow (`AtLeast.add`), however often they are rounded, and a quotient of at most one is rounded to at
most one (`ofRatio_le`). Products and quotients of numbers that are not negative are not negative, and
rounding to a whole number stays between whole bounds (`round?_between`).
-/

namespace Placard.Number

namespace Double

/-- The exact value of a finite number, zero for others. -/
def value : Double → ℚ
  | finite s m e => signed s m * 2 ^ e
  | _ => 0

/-- Whether a number has the form of a double: a mantissa of at most 53 bits, and an exponent that
is not too small. -/
def Fits : Double → Prop
  | finite _ m e => m < 2 ^ 53 ∧ minExponent ≤ e
  | _ => True

/-- Whether a number is a finite one that is no less than `v`, or the positive infinity. -/
def AtLeast (v : ℚ) : Double → Prop
  | finite s m e => v ≤ (finite s m e).value
  | infinite s => s = false
  | nan => False

/-! ## Forms -/

theorem fits_zero (s : Bool) : (zero s).Fits :=
  ⟨by norm_num, le_refl _⟩

theorem fits_ofRatio (s : Bool) (num : Nat) {den : Nat} (hden : 0 < den) :
    (ofRatio s num den).Fits := by
  by_cases hnum : num = 0
  · rw [ofRatio, if_pos hnum]
    exact fits_zero s
  · obtain ⟨m, q, hnearest, heq⟩ := ofRatio_eq hnum hden s
    rw [heq]
    split
    · exact ⟨hnearest.bits, hnearest.exponent⟩
    · trivial

theorem fits_ofInt (i : Int) : (ofInt i).Fits :=
  fits_ofRatio _ _ Nat.one_pos

theorem signed_nonneg_iff (s : Bool) (m : Nat) : 0 ≤ signed s m ↔ s = false ∨ m = 0 := by
  cases s <;> simp [signed]

theorem value_nonneg_iff (s : Bool) (m : Nat) (e : Int) :
    0 ≤ (finite s m e).value ↔ s = false ∨ m = 0 := by
  rw [value, mul_nonneg_iff_of_pos_right (two_zpow_pos e), Int.cast_nonneg_iff, signed_nonneg_iff]

/-- A number of this form that is not negative is on the grid. -/
theorem Fits.onGrid {x : Double} (hx : x.Fits) (h : 0 ≤ x.value) : OnGrid x.value := by
  cases x with
  | finite s m e =>
    rcases (value_nonneg_iff s m e).mp h with rfl | rfl
    · exact ⟨m, e, hx.1, hx.2, rfl⟩
    · rw [value, signed]
      simpa using onGrid_zero
  | _ => exact onGrid_zero

/-- The value in units of a smaller power of two. -/
theorem signed_steps (s : Bool) (m : Nat) {q e : Int} (h : q ≤ e) :
    (signed s (m * Nat.pow 2 (e - q).toNat) : ℚ) * 2 ^ q = (finite s m e).value := by
  have hsteps := eq_steps (m := m) h
  cases s with
  | false =>
    simp only [signed, value]
    exact_mod_cast hsteps.symm
  | true =>
    simp only [signed, value, if_true, Int.cast_neg, neg_mul, neg_inj]
    exact_mod_cast hsteps.symm

theorem Fits.scaled_eq {x : Double} (hx : x.Fits) : (x.scaled : ℚ) * 2 ^ minExponent = x.value := by
  cases x with
  | finite s m e => exact signed_steps s m hx.2
  | _ => simp [scaled, value]

theorem Fits.scaled_le_iff {x y : Double} (hx : x.Fits) (hy : y.Fits) :
    x.scaled ≤ y.scaled ↔ x.value ≤ y.value := by
  rw [← hx.scaled_eq, ← hy.scaled_eq, mul_le_mul_iff_left₀ (two_zpow_pos _), Int.cast_le]

/-! ## Rounded fractions -/

theorem atLeast_ofRatio {v : ℚ} (hv : OnGrid v) {num den : Nat} (hden : 0 < den)
    (h : v * den ≤ num) : AtLeast v (ofRatio false num den) := by
  by_cases hnum : num = 0
  · have hzero : v ≤ 0 := by
      have hden' : (0 : ℚ) < den := by exact_mod_cast hden
      rw [hnum] at h
      exact le_of_mul_le_mul_right (by simpa using h) hden'
    rw [ofRatio, if_pos hnum]
    simpa [AtLeast, zero, value, signed] using hzero
  · obtain ⟨m, q, hnearest, heq⟩ := ofRatio_eq hnum hden false
    rw [heq]
    split
    · simpa [AtLeast, value, signed] using hnearest.above v hv h
    · rfl

/-- A fraction that is not too large is rounded to a finite number, and to no more than a number of
the grid that is no less. -/
theorem ofRatio_le {v : ℚ} (hv : OnGrid v) (s : Bool) {num den : Nat} (hden : 0 < den)
    (h : num ≤ v * den) (hfinite : v < 2 ^ (1023 : Int)) :
    ∃ m q, ofRatio s num den = finite s m q ∧ m * 2 ^ q ≤ v := by
  by_cases hnum : num = 0
  · obtain ⟨k, e, -, -, rfl⟩ := hv
    rw [ofRatio, if_pos hnum]
    refine ⟨0, minExponent, rfl, ?_⟩
    rw [Nat.cast_zero, zero_mul]
    exact mul_nonneg (Nat.cast_nonneg k) (two_zpow_pos e).le
  · obtain ⟨m, q, hnearest, heq⟩ := ofRatio_eq hnum hden s
    have hden' : (0 : ℚ) < den := by exact_mod_cast hden
    have hq : q ≤ maxExponent := by
      by_contra hlt
      have hhuge := (hnearest.huge (not_le.mp hlt)).trans h
      exact absurd (mul_lt_mul_of_pos_right hfinite hden') (not_lt_of_ge hhuge)
    rw [heq, if_pos hq]
    exact ⟨m, q, rfl, hnearest.below v hv h⟩

/-- A fraction that is not negative is rounded to a number that is not negative. -/
theorem value_ofRatio_nonneg {s : Bool} {num den : Nat} (hden : 0 < den) (h : s = false ∨ num = 0) :
    0 ≤ (ofRatio s num den).value := by
  by_cases hnum : num = 0
  · rw [ofRatio, if_pos hnum, zero]
    exact (value_nonneg_iff ..).mpr (.inr rfl)
  · obtain ⟨m, q, -, heq⟩ := ofRatio_eq hnum hden s
    rw [heq]
    split
    · exact (value_nonneg_iff ..).mpr (.inl (h.resolve_right hnum))
    · exact le_refl 0

/-- The integers below a power of two far beyond those that are exact are finite. -/
theorem isFinite_ofInt {i : Int} (h : |i| ≤ 2 ^ 1000) : (ofInt i).isFinite := by
  have hgrid : OnGrid (2 ^ (1000 : Int)) := onGrid_two_zpow (by decide)
  have hbound : (i.natAbs : ℚ) ≤ 2 ^ (1000 : Int) * (1 : Nat) := by
    have habs : (i.natAbs : Int) ≤ 2 ^ 1000 := by rwa [Int.natCast_natAbs]
    rw [Nat.cast_one, mul_one]
    exact_mod_cast habs
  obtain ⟨m, q, heq, -⟩ :=
    ofRatio_le hgrid (decide (i < 0)) Nat.one_pos hbound (two_zpow_lt (by decide))
  rw [ofInt, heq]
  rfl

/-! ## Sums -/

/-- The sum of finite numbers is the rounded sum of their values. -/
theorem add_finite (s t : Bool) (m n : Nat) (e f : Int) : ∃ (total : Int) (q : Int),
    (total : ℚ) * 2 ^ q = (finite s m e).value + (finite t n f).value ∧
      (finite s m e).add (finite t n f) =
        if total = 0 then zero (s && t)
        else
          ofRatio (decide (total < 0)) (total.natAbs * Nat.pow 2 q.toNat)
            (Nat.pow 2 (-q).toNat) := by
  refine ⟨_, min e f, ?_, rfl⟩
  rw [Int.cast_add, add_mul, signed_steps s m (min_le_left e f),
    signed_steps t n (min_le_right e f)]

theorem fits_add (x y : Double) : (x.add y).Fits := by
  cases x with
  | finite s m e =>
    cases y with
    | finite t n f =>
      obtain ⟨total, q, -, heq⟩ := add_finite s t m n e f
      rw [heq]
      split
      · exact fits_zero _
      · exact fits_ofRatio _ _ (Nat.two_pow_pos _)
    | _ => trivial
  | nan => trivial
  | infinite s =>
    cases y with
    | infinite t =>
      change (if s = t then infinite s else nan).Fits
      split <;> trivial
    | _ => trivial

/-- What is no less than each of two numbers is, as a sum, no less than theirs, if theirs needs no
rounding. -/
theorem AtLeast.add {x y : Double} {a b : ℚ} (hx : AtLeast a x) (hy : AtLeast b y)
    (hgrid : OnGrid (a + b)) : AtLeast (a + b) (x.add y) := by
  cases x with
  | finite s m e =>
    cases y with
    | finite t n f =>
      obtain ⟨total, q, hvalue, heq⟩ := add_finite s t m n e f
      have hle : a + b ≤ total * 2 ^ q := hvalue ▸ add_le_add hx hy
      have hnonneg : 0 ≤ total := by
        obtain ⟨k, l, -, -, hkl⟩ := hgrid
        have hzero : (0 : ℚ) ≤ total * 2 ^ q :=
          le_trans (hkl ▸ mul_nonneg (Nat.cast_nonneg k) (two_zpow_pos l).le) hle
        exact_mod_cast nonneg_of_mul_nonneg_left hzero (two_zpow_pos q)
      -- the exact sum is rounded once, and rounding does not pass a bound on the grid
      rw [heq]
      split
      · next hzero =>
        rw [hzero] at hle
        simpa [AtLeast, zero, value, signed] using hle
      · rw [decide_eq_false (not_lt_of_ge hnonneg)]
        refine atLeast_ofRatio hgrid (Nat.two_pow_pos _) ?_
        have hscaled := mul_le_mul_of_nonneg_right hle
          (pow_nonneg (zero_le_two (α := ℚ)) (-q).toNat)
        rw [mul_assoc, ← two_pow_toNat] at hscaled
        obtain ⟨k, rfl⟩ := Int.eq_ofNat_of_zero_le hnonneg
        rw [Int.natAbs_natCast]
        exact_mod_cast hscaled
    | nan => cases hy
    | infinite t => exact hy
  | nan => cases hx
  | infinite s =>
    cases y with
    | infinite t =>
      obtain rfl : s = false := hx
      obtain rfl : t = false := hy
      rfl
    | nan => cases hy
    | finite t n f => exact hx

/-- A sum of numbers that are not negative is no less than where it starts. -/
theorem AtLeast.foldl_add {xs : List Double} (hxs : ∀ x ∈ xs, AtLeast 0 x) {a : ℚ} (ha : OnGrid a)
    {start : Double} (hstart : AtLeast a start) : AtLeast a (xs.foldl Double.add start) := by
  induction xs generalizing start with
  | nil => exact hstart
  | cons x xs ih =>
    rw [List.forall_mem_cons] at hxs
    have hsum := hstart.add hxs.1 (by rwa [add_zero])
    rw [add_zero] at hsum
    exact ih hxs.2 hsum

/-- It is no less than any of them. -/
theorem AtLeast.foldl_add_of_mem {xs : List Double} (hxs : ∀ x ∈ xs, AtLeast 0 x) {a : ℚ}
    (ha : OnGrid a) {x : Double} (hx : x ∈ xs) (hle : AtLeast a x) {start : Double}
    (hstart : AtLeast 0 start) : AtLeast a (xs.foldl Double.add start) := by
  induction xs generalizing start with
  | nil => cases hx
  | cons y xs ih =>
    rw [List.forall_mem_cons] at hxs
    rcases List.mem_cons.mp hx with rfl | hx
    · have hsum := hstart.add hle (by rwa [zero_add])
      rw [zero_add] at hsum
      exact AtLeast.foldl_add hxs.2 ha hsum
    · have hsum := hstart.add hxs.1 (by rw [add_zero]; exact onGrid_zero)
      rw [add_zero] at hsum
      exact ih hxs.2 hx hsum

theorem fits_foldl_add {start : Double} (hstart : start.Fits) (xs : List Double) :
    (xs.foldl Double.add start).Fits := by
  induction xs generalizing start with
  | nil => exact hstart
  | cons x xs ih => exact ih (fits_add start x)

/-! ## Products and quotients -/

theorem abs_value (s : Bool) (m : Nat) (e : Int) : |(finite s m e).value| = m * 2 ^ e := by
  have hpos : (0 : ℚ) ≤ m * 2 ^ e := mul_nonneg (Nat.cast_nonneg m) (two_zpow_pos e).le
  cases s with
  | false => simp [value, signed, abs_of_nonneg hpos]
  | true => simp [value, signed, abs_of_nonneg hpos]

/-- A product that is not too large is finite, and no larger than a number of the grid that the exact
one does not exceed. -/
theorem mul_le {x y : Double} (hx : x.isFinite) (hy : y.isFinite) {v : ℚ} (hv : OnGrid v)
    (h : |x.value| * |y.value| ≤ v) (hfinite : v < 2 ^ (1023 : Int)) :
    (x.mul y).isFinite ∧ |(x.mul y).value| ≤ v := by
  cases x with
  | finite s m e =>
    cases y with
    | finite t n f =>
      have hle : ((m * n : Nat) : ℚ) * 2 ^ (e + f) ≤ v := by
        rw [abs_value, abs_value] at h
        rw [zpow_add₀ (by norm_num)]
        push_cast
        linarith
      have hscaled := mul_le_mul_of_nonneg_right hle
        (pow_nonneg (zero_le_two (α := ℚ)) (-(e + f)).toNat)
      rw [mul_assoc, ← two_pow_toNat] at hscaled
      have hbound : ((m * n * Nat.pow 2 (e + f).toNat : Nat) : ℚ) ≤
          v * (Nat.pow 2 (-(e + f)).toNat : Nat) := by
        exact_mod_cast hscaled
      have hden : 0 < Nat.pow 2 (-(e + f)).toNat := Nat.two_pow_pos _
      obtain ⟨k, q, heq, hk⟩ := ofRatio_le hv (s != t) hden hbound hfinite
      have hmul : (finite s m e).mul (finite t n f) = finite (s != t) k q := heq
      rw [hmul, abs_value]
      exact ⟨rfl, hk⟩
    | nan => cases hy
    | infinite t => cases hy
  | nan => cases hx
  | infinite s => cases hx

/-- The sign of a product or a quotient of numbers that are not negative, unless one is zero. -/
theorem sign_of_nonneg {s t : Bool} {m n : Nat} (hx : s = false ∨ m = 0) (hy : t = false ∨ n = 0) :
    (s != t) = false ∨ m = 0 ∨ n = 0 := by
  rcases hx with rfl | rfl
  · exact hy.imp (fun ht => by rw [ht]; rfl) .inr
  · exact .inr (.inl rfl)

theorem value_mul_nonneg {x y : Double} (hx : 0 ≤ x.value) (hy : 0 ≤ y.value) :
    0 ≤ (x.mul y).value := by
  have hlimit (x y : Double) : 0 ≤ (if x.isZero || y.isZero then nan
      else infinite (x.isNegative != y.isNegative)).value := by
    split <;> exact le_refl 0
  cases x with
  | finite s m e =>
    cases y with
    | finite t n f =>
      refine value_ofRatio_nonneg (Nat.two_pow_pos _) ?_
      refine (sign_of_nonneg ((value_nonneg_iff s m e).mp hx)
        ((value_nonneg_iff t n f).mp hy)).imp_right fun hzero => ?_
      rcases hzero with rfl | rfl <;> simp
    | nan => exact le_refl 0
    | infinite t => exact hlimit (finite s m e) (infinite t)
  | nan => exact le_refl 0
  | infinite s =>
    cases y with
    | nan => exact le_refl 0
    | finite t n f => exact hlimit (infinite s) (finite t n f)
    | infinite t => exact hlimit (infinite s) (infinite t)

theorem value_div?_nonneg {x y z : Double} (hx : 0 ≤ x.value) (hy : 0 ≤ y.value)
    (h : x.div? y = some z) : 0 ≤ z.value := by
  unfold div? at h
  split at h
  · cases h
  next hzero =>
  cases x with
  | finite s m e =>
    cases y with
    | finite t n f =>
      have hn : n ≠ 0 := by
        rintro rfl
        exact hzero rfl
      obtain rfl := Option.some.inj h
      refine value_ofRatio_nonneg (Nat.mul_pos (Nat.pos_of_ne_zero hn) (Nat.two_pow_pos _)) ?_
      refine (sign_of_nonneg ((value_nonneg_iff s m e).mp hx)
        ((value_nonneg_iff t n f).mp hy)).imp_right fun hzero => ?_
      rw [hzero.resolve_right hn, Nat.zero_mul]
    | nan =>
      obtain rfl := Option.some.inj h
      exact le_refl 0
    | infinite t =>
      obtain rfl := Option.some.inj h
      exact (value_nonneg_iff ..).mpr (.inr rfl)
  | nan =>
    obtain rfl := Option.some.inj h
    exact le_refl 0
  | infinite s =>
    cases y with
    | _ =>
      obtain rfl := Option.some.inj h
      exact le_refl 0

/-- The quotient of a finite number by one that is no less, and no zero, is at most one. -/
theorem div?_le_one {x y : Double} (hx : x.isFinite) (hy : y.isZero = false)
    (h : AtLeast |x.value| y) : ∃ z, x.div? y = some z ∧ z.isFinite ∧ |z.value| ≤ 1 := by
  cases x with
  | finite s m e =>
    cases y with
    | finite t n f =>
      have hn : n ≠ 0 := by
        rintro rfl
        cases hy
      have hle : (m : ℚ) * 2 ^ e ≤ n * 2 ^ f := by
        rw [← abs_value s m e, ← abs_value t n f]
        exact le_trans h (le_abs_self _)
      have hratio : m * Nat.pow 2 (e - f).toNat ≤ n * Nat.pow 2 (-(e - f)).toNat := by
        rw [mul_two_pow_le_iff, zpow_sub₀ (by norm_num), div_mul_eq_mul_div,
          div_le_iff₀ (two_zpow_pos f)]
        linarith
      have hbound : ((m * Nat.pow 2 (e - f).toNat : Nat) : ℚ) ≤
          2 ^ (0 : Int) * (n * Nat.pow 2 (-(e - f)).toNat : Nat) := by
        rw [zpow_zero, one_mul]
        exact_mod_cast hratio
      obtain ⟨k, q, heq, hone⟩ := ofRatio_le (onGrid_two_zpow (by decide)) (s != t)
        (Nat.mul_pos (Nat.pos_of_ne_zero hn) (Nat.two_pow_pos _)) hbound (two_zpow_lt (by decide))
      refine ⟨finite (s != t) k q, ?_, rfl, ?_⟩
      · rw [div?, hy, if_neg (by decide)]
        exact congrArg some heq
      · rw [abs_value]
        exact hone.trans_eq (zpow_zero 2)
    | infinite t =>
      refine ⟨_, rfl, rfl, ?_⟩
      rw [zero, abs_value]
      simp
    | nan => cases h
  | nan => cases hx
  | infinite s => cases hx

/-! ## The nearest whole number -/

/-- A number between zero and a whole number is rounded to a whole number between them. -/
theorem round?_between {x : Double} (hx : x.isFinite) (hlow : 0 ≤ x.value) {n : Nat}
    (hhigh : x.value ≤ n) : ∃ i, x.round? = some i ∧ 0 ≤ i ∧ i ≤ n := by
  cases x with
  | finite s m e =>
    have hnum : m * Nat.pow 2 e.toNat ≤ n * Nat.pow 2 (-e).toNat := by
      rw [mul_two_pow_le_iff, mul_comm, ← abs_value s m e, abs_of_nonneg hlow]
      exact hhigh
    have hle := roundDiv_le (Nat.two_pow_pos _) hnum
    refine ⟨_, rfl, ?_⟩
    rcases (value_nonneg_iff s m e).mp hlow with rfl | rfl
    · exact ⟨Int.natCast_nonneg _, Int.ofNat_le.mpr hle⟩
    · have hzero : roundDiv (0 * Nat.pow 2 e.toNat) (Nat.pow 2 (-e).toNat) = 0 :=
        Nat.le_zero.mp (roundDiv_le (Nat.two_pow_pos _) (by simp))
      rw [hzero]
      cases s <;> exact ⟨le_refl _, Int.natCast_nonneg n⟩
  | nan => cases hx
  | infinite s => cases hx

/-! ## Comparisons -/

theorem value_ofInt_zero : (ofInt 0).value = 0 := by
  simp [ofInt, ofRatio, zero, value, signed]

/-- The value of a number that is not below zero. -/
theorem value_nonneg {x : Double} (hx : x.Fits) (h : lt x (ofInt 0) = false) : 0 ≤ x.value := by
  cases x with
  | finite s m e =>
    have hle : (ofInt 0).scaled ≤ (finite s m e).scaled := not_lt.mp (of_decide_eq_false h)
    rwa [(fits_ofInt 0).scaled_le_iff hx, value_ofInt_zero] at hle
  | _ => exact le_refl 0

/-- What a number is at least, a number that it does not exceed is at least. -/
theorem AtLeast.of_not_lt {v : ℚ} {x y : Double} (hx : AtLeast v x) (hxfits : x.Fits)
    (hyfits : y.Fits) (hy : y.isFinite) (h : lt y x = false) : v ≤ y.value := by
  cases y with
  | finite t n f =>
    cases x with
    | finite s m e =>
      have hle : (finite s m e).scaled ≤ (finite t n f).scaled := not_lt.mp (of_decide_eq_false h)
      exact le_trans hx ((hxfits.scaled_le_iff hyfits).mp hle)
    | infinite s =>
      obtain rfl : s = false := hx
      cases h
    | nan => cases hx
  | nan => cases hy
  | infinite t => cases hy

theorem ofInt_one : ofInt 1 = finite false (2 ^ 52) (-52) := by
  decide

/-- What exceeds one is not zero. -/
theorem isZero_of_one_lt {x : Double} (h : lt (ofInt 1) x = true) : x.isZero = false := by
  cases x with
  | finite s m e =>
    cases m with
    | zero =>
      have hlt : (ofInt 1).scaled < (finite s 0 e).scaled := of_decide_eq_true h
      have hzero : (finite s 0 e).scaled = 0 := by
        rw [scaled, Nat.zero_mul]
        cases s <;> rfl
      rw [hzero, ofInt_one] at hlt
      exact absurd (Int.natCast_nonneg _) (not_le_of_gt hlt)
    | succ m => rfl
  | _ => rfl

/-- A finite number is at least its value. -/
theorem atLeast_value {x : Double} (hx : x.isFinite) : AtLeast x.value x := by
  cases x with
  | finite s m e => exact le_refl (finite s m e).value
  | nan => cases hx
  | infinite s => cases hx

/-- What is at least a number that is not negative is not negative. -/
theorem AtLeast.value_nonneg {v : ℚ} {x : Double} (h : AtLeast v x) (hv : 0 ≤ v) : 0 ≤ x.value := by
  cases x with
  | finite s m e => exact le_trans hv h
  | _ => exact le_refl 0

theorem AtLeast.mono {a b : ℚ} {x : Double} (h : AtLeast b x) (hle : a ≤ b) : AtLeast a x := by
  cases x with
  | finite s m e => exact le_trans hle h
  | nan => cases h
  | infinite s => exact h

end Double

end Placard.Number
