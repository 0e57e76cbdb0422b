/-!
# Numbers of double precision

A double is a mantissa below `2 ^ 53` times a power of two, an infinity, or no number. The exact
value is kept, so that every operation is stated in whole-number arithmetic:

* `roundDiv`: division to the nearest whole number, a half going to the even neighbour;
* `Double.ofRatio`: the double nearest to a fraction, the single place where precision is lost;
* the operations compute the exact result as a fraction and round it once.
-/

namespace Placard.Number

/-- The whole number nearest to `num / den`; of two equally near ones, the even one. -/
def roundDiv (num den : Nat) : Nat :=
  let d := num / den
  let r := num % den
  if den < 2 * r || (2 * r == den && d % 2 == 1) then d + 1 else d

/-- A number of double precision. A finite one is `mantissa * 2 ^ exponent`, with a sign of its own
for zero. -/
inductive Double where
  | nan
  | infinite (negative : Bool)
  | finite (negative : Bool) (mantissa : Nat) (exponent : Int)
deriving DecidableEq, Inhabited

namespace Double

/-- The least exponent, shared by zero and the numbers too small for a full mantissa. -/
def minExponent : Int := -1074

/-- The greatest exponent of a finite number. -/
def maxExponent : Int := 971

/-- Zero with a sign. -/
def zero (negative : Bool) : Double :=
  finite negative 0 minExponent

/-- The greatest `e` with `2 ^ e ≤ num / den`, for a positive fraction. -/
def floorLog2 (num den : Nat) : Int :=
  let e : Int := (Nat.log2 num : Int) - (Nat.log2 den : Int)
  if den * Nat.pow 2 e.toNat ≤ num * Nat.pow 2 (-e).toNat then e else e - 1

/-- The double nearest to `num / den`, ties to the even mantissa, beyond the greatest finite number
an infinity. -/
def ofRatio (negative : Bool) (num den : Nat) : Double :=
  if num = 0 then zero negative
  else
    let q := max (floorLog2 num den - 52) minExponent
    let m := roundDiv (num * Nat.pow 2 (-q).toNat) (den * Nat.pow 2 q.toNat)
    if m = Nat.pow 2 53 then
      if q + 1 ≤ maxExponent then finite negative (Nat.pow 2 52) (q + 1) else infinite negative
    else if q ≤ maxExponent then finite negative m q
    else infinite negative

/-- The double nearest to an integer. -/
def ofInt (i : Int) : Double :=
  ofRatio (decide (i < 0)) i.natAbs 1

/-- The exact value of a finite double as a signed numerator over a power of two. -/
def signed (negative : Bool) (n : Nat) : Int :=
  if negative then -(n : Int) else n

/-- Whether the number is finite. -/
def isFinite : Double → Bool
  | finite .. => true
  | _ => false

/-- Whether the number is a zero of either sign. -/
def isZero : Double → Bool
  | finite _ 0 _ => true
  | _ => false

/-- Whether the sign is negative; no number has none. -/
def isNegative : Double → Bool
  | nan => false
  | infinite s => s
  | finite s _ _ => s

/-- The magnitude of a finite number as a fraction, zero for others. -/
def magnitude : Double → Nat × Nat
  | finite _ m e => (m * Nat.pow 2 e.toNat, Nat.pow 2 (-e).toNat)
  | _ => (0, 1)

/-- The sum. -/
def add : Double → Double → Double
  | nan, _ => nan
  | _, nan => nan
  | infinite s, infinite t => if s = t then infinite s else nan
  | infinite s, _ => infinite s
  | _, infinite t => infinite t
  | finite s m e, finite t n f =>
    let q := min e f
    let total :=
      signed s (m * Nat.pow 2 (e - q).toNat) + signed t (n * Nat.pow 2 (f - q).toNat)
    if total = 0 then zero (s && t)
    else
      ofRatio (decide (total < 0)) (total.natAbs * Nat.pow 2 q.toNat) (Nat.pow 2 (-q).toNat)

/-- The product. -/
def mul (x y : Double) : Double :=
  match x, y with
  | nan, _ => nan
  | _, nan => nan
  | finite s m e, finite t n f =>
    ofRatio (s != t) (m * n * Nat.pow 2 (e + f).toNat) (Nat.pow 2 (-(e + f)).toNat)
  | _, _ => if x.isZero || y.isZero then nan else infinite (x.isNegative != y.isNegative)

/-- The quotient; there is none by zero. -/
def div? (x y : Double) : Option Double :=
  if y.isZero then none
  else
    match x, y with
    | nan, _ => some nan
    | _, nan => some nan
    | infinite _, infinite _ => some nan
    | infinite s, finite t _ _ => some (infinite (s != t))
    | finite s _ _, infinite t => some (zero (s != t))
    | finite s m e, finite t n f =>
      let d := e - f
      some (ofRatio (s != t) (m * Nat.pow 2 d.toNat) (n * Nat.pow 2 (-d).toNat))

/-- The exact value of a finite number times the power of two that makes every double whole. -/
def scaled : Double → Int
  | finite s m e => signed s (m * Nat.pow 2 (e - minExponent).toNat)
  | _ => 0

/-- Whether `x` is less than `y`; false when one is no number. -/
def lt (x y : Double) : Bool :=
  match x, y with
  | nan, _ => false
  | _, nan => false
  | infinite s, infinite t => s && !t
  | infinite s, _ => s
  | _, infinite t => !t
  | _, _ => decide (x.scaled < y.scaled)

/-- Numerical equality: the zeros are equal, and no number equals nothing. -/
def same (x y : Double) : Bool :=
  match x, y with
  | nan, _ => false
  | _, nan => false
  | infinite s, infinite t => s == t
  | finite .., finite .. => x.scaled == y.scaled
  | _, _ => false

/-- The value of a finite number that is whole. -/
def toInt? : Double → Option Int
  | finite s m e =>
    let num := m * Nat.pow 2 e.toNat
    let den := Nat.pow 2 (-e).toNat
    if num % den = 0 then some (signed s (num / den)) else none
  | _ => none

/-- The integer nearest to a finite number, a half going to the even neighbour. -/
def round? : Double → Option Int
  | finite s m e =>
    some (signed s (roundDiv (m * Nat.pow 2 e.toNat) (Nat.pow 2 (-e).toNat)))
  | _ => none

end Double

/-! ## The nearest whole number -/

/-- The nearest whole number is within half a unit. -/
theorem roundDiv_near (num den : Nat) (h : 0 < den) :
    2 * num ≤ (2 * roundDiv num den + 1) * den ∧ 2 * (roundDiv num den * den) ≤ 2 * num + den := by
  have hdiv := Nat.div_add_mod num den
  have hmod := Nat.mod_lt num h
  have e1 : den * (num / den) = num / den * den := Nat.mul_comm ..
  unfold roundDiv
  simp only
  split
  · rename_i hc
    simp only [Bool.or_eq_true, decide_eq_true_eq, Bool.and_eq_true, beq_iff_eq] at hc
    constructor
    · have : (2 * (num / den + 1) + 1) * den = 2 * (num / den * den) + 3 * den := by
        simp only [Nat.add_mul, Nat.mul_add, Nat.mul_assoc]; omega
      omega
    · have : (num / den + 1) * den = num / den * den + den := by
        simp only [Nat.add_mul]; omega
      omega
  · rename_i hc
    simp only [Bool.or_eq_true, decide_eq_true_eq, Bool.and_eq_true, beq_iff_eq, not_or] at hc
    constructor
    · have : (2 * (num / den) + 1) * den = 2 * (num / den * den) + den := by
        simp only [Nat.add_mul, Nat.mul_assoc]; omega
      omega
    · omega

end Placard.Number
