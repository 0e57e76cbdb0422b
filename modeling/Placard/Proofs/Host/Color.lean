import Placard.Host.Color
import Placard.Proofs.Number.Nearest
import Placard.Proofs.Number.Reading
import Placard.Proofs.Text.Blank
import Placard.Proofs.Text.Digit

/-!
# What counts as a colour

A sharp sign and four pairs are a colour if each pair writes a number. Two digits of base 16 do, and
then the colour has four bytes (`cssColor_spec`). But so does a single digit with a sign or white
space beside it, and a digit may be one of any script; a text of this kind is no `#AARRGGBB`, and yet
it is not left as it is (`cssColor_signed`).
-/

namespace Placard.Host

open Text Number

/-! ## Pairs -/

/-- The value of a digit of base 16, where the digits below ten may be those of any script. -/
def digitOf? (c : Char) : Option Nat :=
  match digitValue? c with
  | some d => some d
  | none => hexValue? c

/-- What a pair of characters writes. -/
inductive Pair : Char → Char → Int → Prop
  | digits {a b : Char} {x y : Nat} (first : digitOf? a = some x) (second : digitOf? b = some y) :
    Pair a b (16 * x + y)
  | plus {b : Char} {y : Nat} (digit : digitOf? b = some y) : Pair '+' b y
  | minus {b : Char} {y : Nat} (digit : digitOf? b = some y) : Pair '-' b (-y)
  | blankBefore {a b : Char} {y : Nat} (blank : isWhiteSpace a = true)
    (digit : digitOf? b = some y) : Pair a b y
  | blankBehind {a b : Char} {x : Nat} (digit : digitOf? a = some x)
    (blank : isWhiteSpace b = true) : Pair a b x

/-- Two digits of base 16 write a byte. -/
inductive Byte : Char → Char → Int → Prop
  | intro {a b : Char} {x y : Nat} (first : hexValue? a = some x) (second : hexValue? b = some y) :
    Byte a b (16 * x + y)

theorem hexValue?_lt {c : Char} {x : Nat} (h : hexValue? c = some x) : x < 16 := by
  unfold hexValue? at h
  dsimp only at h
  split at h
  · next hc =>
    obtain rfl := Option.some.inj h
    simp only [Bool.and_eq_true, decide_eq_true_eq] at hc
    omega
  split at h
  · next hc =>
    obtain rfl := Option.some.inj h
    simp only [Bool.and_eq_true, decide_eq_true_eq] at hc
    omega
  split at h
  · next hc =>
    obtain rfl := Option.some.inj h
    simp only [Bool.and_eq_true, decide_eq_true_eq] at hc
    omega
  · cases h

theorem Byte.bounds {a b : Char} {i : Int} (h : Byte a b i) : 0 ≤ i ∧ i ≤ 255 := by
  obtain ⟨hx, hy⟩ := h
  have := hexValue?_lt hx
  have := hexValue?_lt hy
  omega

/-- White space and signs. -/
def besideRanges : List (Nat × Nat) :=
  [(0x9, 0xd), (0x20, 0x20), (0x2b, 0x2b), (0x2d, 0x2d), (0x85, 0x85), (0xa0, 0xa0),
    (0x1680, 0x1680), (0x2000, 0x200a), (0x2028, 0x2029), (0x202f, 0x202f), (0x205f, 0x205f),
    (0x3000, 0x3000)]

theorem digitOf?_eq_none {c : Char} (h : inRanges besideRanges c.toNat = true) :
    digitOf? c = none := by
  have hapart : besideRanges.all (fun r =>
      zeros.all fun z => decide (z + 9 < r.1 ∨ r.2 < z)) = true := by decide
  have hhex : ∀ r ∈ besideRanges, r.2 < 48 ∨ 102 < r.1 := by decide
  obtain ⟨r, hr, hrange⟩ := List.any_eq_true.mp h
  have hzeros := List.all_eq_true.mp hapart r hr
  have hhex := hhex r hr
  simp only [Bool.and_eq_true, decide_eq_true_eq] at hrange
  have hdigit : digitValue? c = none := by
    unfold digitValue?
    rw [List.find?_eq_none.mpr]
    intro z hz
    have := of_decide_eq_true (List.all_eq_true.mp hzeros z hz)
    simp only [Bool.and_eq_true, decide_eq_true_eq]
    omega
  rw [digitOf?, hdigit]
  dsimp only
  unfold hexValue?
  dsimp only
  rw [if_neg, if_neg, if_neg]
  all_goals
    simp only [Bool.and_eq_true, decide_eq_true_eq]
    omega

theorem digitOf?_of_isWhiteSpace {c : Char} (h : isWhiteSpace c = true) : digitOf? c = none := by
  refine digitOf?_eq_none ?_
  unfold isWhiteSpace at h
  simp only [Bool.or_eq_true, Bool.and_eq_true, decide_eq_true_eq, beq_iff_eq] at h
  simp only [inRanges, besideRanges, List.any_cons, List.any_nil, Bool.or_false, Bool.or_eq_true,
    Bool.and_eq_true, decide_eq_true_eq]
  omega

/-- The digit of ASCII that a digit is read as; other characters are kept. -/
def asciiDigit (c : Char) : Char :=
  match digitValue? c with
  | some d => digitChar d
  | none => c

theorem asciiDigits_eq (cs : List Char) : asciiDigits cs = cs.map asciiDigit := rfl

theorem hexValue?_asciiDigit (c : Char) :
    (hexValue? (asciiDigit c)).filter (· < 16) = digitOf? c := by
  have hdigit : ∀ d ≤ 9, hexValue? (digitChar d) = some d := by decide
  unfold asciiDigit digitOf?
  cases hvalue : digitValue? c with
  | some d =>
    have hd := digitValue?_le hvalue
    dsimp only
    rw [hdigit d hd, Option.filter_some, if_pos (by simpa using by omega)]
  | none =>
    dsimp only
    cases hhex : hexValue? c with
    | none => rfl
    | some x => rw [Option.filter_some, if_pos (by simpa using hexValue?_lt hhex)]

/-- No digit is read as a sign. -/
theorem asciiDigit_eq_sign {c s : Char} (hs : s = '+' ∨ s = '-') : asciiDigit c = s ↔ c = s := by
  have hdigit : ∀ d ≤ 9, digitChar d ≠ '+' ∧ digitChar d ≠ '-' := by decide
  have hsign : digitValue? '+' = none ∧ digitValue? '-' = none := by decide
  unfold asciiDigit
  cases hvalue : digitValue? c with
  | some d =>
    have hd := hdigit d (digitValue?_le hvalue)
    dsimp only
    constructor
    · rintro rfl
      rcases hs with hs | hs
      · exact absurd hs hd.1
      · exact absurd hs hd.2
    · rintro rfl
      rcases hs with rfl | rfl
      · rw [hsign.1] at hvalue
        cases hvalue
      · rw [hsign.2] at hvalue
        cases hvalue
  | none => exact Iff.rfl

/-- The number that digits of base 16 write behind a sign; there has to be one. -/
def behindSign (negative : Bool) (cs : List Char) : Option Int :=
  if cs.isEmpty then none
  else (cs.mapM digitOf?).map fun ds => Double.signed negative (ofDigits 16 ds)

theorem signedDigits?_cons (c : Char) (cs : List Char) :
    signedDigits? 16 (asciiDigits (c :: cs)) =
      if c = '-' then behindSign true cs
      else if c = '+' then behindSign false cs else behindSign false (c :: cs) := by
  have hmap (cs : List Char) :
      (asciiDigits cs).mapM (fun c => (hexValue? c).filter (· < 16)) = cs.mapM digitOf? := by
    rw [asciiDigits_eq, List.mapM_map]
    exact congrArg (cs.mapM ·) (funext hexValue?_asciiDigit)
  have hwritten (negative : Bool) (cs : List Char) :
      (if (asciiDigits cs).isEmpty then none
        else ((asciiDigits cs).mapM fun c => (hexValue? c).filter (· < 16)).map fun ds =>
          Double.signed negative (ofDigits 16 ds)) = behindSign negative cs := by
    rw [hmap, asciiDigits_eq, List.isEmpty_map]
    rfl
  have hcons : asciiDigits (c :: cs) = asciiDigit c :: asciiDigits cs := rfl
  rw [signedDigits?, hcons, spanSign_cons]
  by_cases hminus : c = '-'
  · rw [if_pos hminus, if_pos ((asciiDigit_eq_sign (.inr rfl)).mpr hminus)]
    exact hwritten true cs
  rw [if_neg hminus, if_neg fun h => hminus ((asciiDigit_eq_sign (.inr rfl)).mp h)]
  by_cases hplus : c = '+'
  · rw [if_pos hplus, if_pos ((asciiDigit_eq_sign (.inl rfl)).mpr hplus)]
    exact hwritten false cs
  rw [if_neg hplus, if_neg fun h => hplus ((asciiDigit_eq_sign (.inl rfl)).mp h)]
  exact hwritten false (c :: cs)

theorem behindSign_one (negative : Bool) (b : Char) :
    behindSign negative [b] = (digitOf? b).map (Double.signed negative) := by
  unfold behindSign
  cases hb : digitOf? b with
  | none => simp [hb]
  | some y => simp [hb, ofDigits]

theorem behindSign_two (a b : Char) : behindSign false [a, b] =
    (digitOf? a).bind fun (x : Nat) => (digitOf? b).map fun (y : Nat) => (16 * x + y : Int) := by
  unfold behindSign
  cases ha : digitOf? a with
  | none => simp [ha]
  | some x =>
    cases hb : digitOf? b with
    | none => simp [ha, hb]
    | some y => simp [ha, hb, ofDigits, Double.signed, Int.mul_comm]

/-- A digit alone; a sign alone writes nothing. -/
theorem signedDigits?_one (c : Char) :
    signedDigits? 16 (asciiDigits [c]) = (digitOf? c).map (Double.signed false) := by
  have hsigns : digitOf? '+' = none ∧ digitOf? '-' = none := by decide
  rw [signedDigits?_cons, behindSign_one]
  split
  · next h =>
    rw [h, hsigns.2]
    rfl
  split
  · next h =>
    rw [h, hsigns.1]
    rfl
  · rfl

/-- White space is trimmed off a pair, and then its first character may be a sign. -/
theorem pair?_eq (a b : Char) : pair? a b =
    if isWhiteSpace a then (digitOf? b).map (Double.signed false)
    else if isWhiteSpace b then (digitOf? a).map (Double.signed false)
    else if a = '-' then (digitOf? b).map (Double.signed true)
    else if a = '+' then (digitOf? b).map (Double.signed false)
    else (digitOf? a).bind fun (x : Nat) => (digitOf? b).map fun (y : Nat) => (16 * x + y : Int) := by
  unfold pair?
  by_cases ha : isWhiteSpace a = true
  · rw [if_pos ha]
    by_cases hb : isWhiteSpace b = true
    · rw [digitOf?_of_isWhiteSpace hb]
      have htrim : trimBy isWhiteSpace [a, b] = [] := trimBy_of_forall (by simp [ha, hb])
      rw [htrim]
      rfl
    · have htrim : trimBy isWhiteSpace ([a] ++ [b] ++ []) = [b] :=
        trimBy_padded (by simpa using ha) nofun (List.cons_ne_nil _ _) (by simpa using hb)
          (by simpa using hb)
      rw [← signedDigits?_one]
      exact congrArg (fun cs => signedDigits? 16 (asciiDigits cs)) htrim
  · rw [if_neg ha]
    by_cases hb : isWhiteSpace b = true
    · have htrim : trimBy isWhiteSpace ([] ++ [a] ++ [b]) = [a] :=
        trimBy_padded nofun (by simpa using hb) (List.cons_ne_nil _ _) (by simpa using ha)
          (by simpa using ha)
      rw [if_pos hb, ← signedDigits?_one]
      exact congrArg (fun cs => signedDigits? 16 (asciiDigits cs)) htrim
    · have htrim : trimBy isWhiteSpace [a, b] = [a, b] :=
        trimBy_eq_self (List.cons_ne_nil _ _) (by simpa using ha) (by simpa using hb)
      rw [if_neg hb, htrim, signedDigits?_cons, behindSign_one, behindSign_one, behindSign_two]

theorem pair_of_pair? {a b : Char} {i : Int} (h : pair? a b = some i) : Pair a b i := by
  rw [pair?_eq] at h
  split at h
  · next ha =>
    obtain ⟨y, hy, rfl⟩ := Option.map_eq_some_iff.mp h
    exact .blankBefore ha hy
  split at h
  · next hb =>
    obtain ⟨x, hx, rfl⟩ := Option.map_eq_some_iff.mp h
    exact .blankBehind hx hb
  split at h
  · next ha =>
    obtain ⟨y, hy, rfl⟩ := Option.map_eq_some_iff.mp h
    exact ha ▸ .minus hy
  split at h
  · next ha =>
    obtain ⟨y, hy, rfl⟩ := Option.map_eq_some_iff.mp h
    exact ha ▸ .plus hy
  · obtain ⟨x, hx, hrest⟩ := Option.bind_eq_some_iff.mp h
    obtain ⟨y, hy, rfl⟩ := Option.map_eq_some_iff.mp hrest
    exact .digits hx hy

theorem Pair.pair? {a b : Char} {i : Int} (h : Pair a b i) : pair? a b = some i := by
  have hblank {c : Char} {x : Nat} (h : digitOf? c = some x) : ¬isWhiteSpace c = true := fun hc => by
    rw [digitOf?_of_isWhiteSpace hc] at h
    cases h
  have hsign {c : Char} {x : Nat} (h : digitOf? c = some x) : c ≠ '-' ∧ c ≠ '+' := by
    have hnone : digitOf? '-' = none ∧ digitOf? '+' = none := by decide
    constructor <;> rintro rfl
    · exact absurd h (by simp [hnone.1])
    · exact absurd h (by simp [hnone.2])
  rw [pair?_eq]
  cases h with
  | digits hx hy =>
    rw [if_neg (hblank hx), if_neg (hblank hy), if_neg (hsign hx).1, if_neg (hsign hx).2, hx, hy]
    rfl
  | plus hy =>
    rw [if_neg (by decide), if_neg (hblank hy), if_neg (by decide), if_pos rfl, hy]
    rfl
  | minus hy =>
    rw [if_neg (by decide), if_neg (hblank hy), if_pos rfl, hy]
    rfl
  | blankBefore ha hy =>
    rw [if_pos ha, hy]
    rfl
  | blankBehind hx hb =>
    rw [if_neg (hblank hx), if_pos hb, hx]
    rfl

/-- **What a pair writes.** -/
theorem pair?_eq_some_iff {a b : Char} {i : Int} : pair? a b = some i ↔ Pair a b i :=
  ⟨pair_of_pair?, Pair.pair?⟩

/-! ## Colours -/

/-- A sharp sign and four pairs that write these numbers: the opacity, red, green and blue. -/
inductive IsColor (P : Char → Char → Int → Prop) : List Char → Int → Int → Int → Int → Prop
  | intro {a a' r r' g g' b b' : Char} {i j k l : Int} (opacity : P a a' i) (red : P r r' j)
    (green : P g g' k) (blue : P b b' l) : IsColor P ['#', a, a', r, r', g, g', b, b'] i j k l

namespace IsColor

variable {P Q : Char → Char → Int → Prop} {cs : List Char} {i j k l : Int}

/-- What makes one pair another makes one colour another. -/
theorem imp (h : IsColor P cs i j k l) (hpair : ∀ a ∈ cs, ∀ b ∈ cs, ∀ n, P a b n → Q a b n) :
    IsColor Q cs i j k l := by
  obtain ⟨hi, hj, hk, hl⟩ := h
  exact .intro (hpair _ (by simp) _ (by simp) _ hi) (hpair _ (by simp) _ (by simp) _ hj)
    (hpair _ (by simp) _ (by simp) _ hk) (hpair _ (by simp) _ (by simp) _ hl)

/-- What holds of the numbers of all pairs holds of those of a colour. -/
theorem forall_numbers {p : Int → Prop} (h : IsColor P cs i j k l) (hpair : ∀ a b n, P a b n → p n) :
    ∀ n ∈ [i, j, k, l], p n := by
  obtain ⟨hi, hj, hk, hl⟩ := h
  simp [hpair _ _ _ hi, hpair _ _ _ hj, hpair _ _ _ hk, hpair _ _ _ hl]

end IsColor

theorem channels?_eq_some_iff {cs : List Char} {alpha red green blue : Int} :
    channels? cs = some (alpha, red, green, blue) ↔ IsColor Pair cs alpha red green blue := by
  constructor
  · intro h
    unfold channels? at h
    split at h
    · simp only [Option.bind_eq_bind, Option.bind_eq_some_iff, Option.pure_def, Option.some.injEq,
        Prod.mk.injEq] at h
      obtain ⟨_, ha, _, hr, _, hg, _, hb, rfl, rfl, rfl, rfl⟩ := h
      exact .intro (pair?_eq_some_iff.mp ha) (pair?_eq_some_iff.mp hr) (pair?_eq_some_iff.mp hg)
        (pair?_eq_some_iff.mp hb)
    · cases h
  · rintro ⟨ha, hr, hg, hb⟩
    simp [channels?, pair?_eq_some_iff.mpr ha, pair?_eq_some_iff.mpr hr, pair?_eq_some_iff.mpr hg,
      pair?_eq_some_iff.mpr hb]

/-- The text of a colour in CSS. The opacity is that of 255 parts, with two decimal places. -/
def rgbaText (alpha red green blue : Int) : List Char :=
  "rgba(".toList ++ intText red ++ [',', ' '] ++ intText green ++ [',', ' '] ++ intText blue ++
    [',', ' '] ++ ((if alpha < 0 then ['-'] else []) ++
      hundredthsText (roundDiv (100 * alpha.natAbs) 255)) ++ [')']

/-- No number of 255th parts is half of a hundredth. -/
theorem opacityText_eq {alpha : Int} (h : alpha.natAbs ≤ 255) : opacityText alpha =
    (if alpha < 0 then ['-'] else []) ++ hundredthsText (roundDiv (100 * alpha.natAbs) 255) := by
  obtain ⟨hlow, hhigh⟩ := roundDiv_near (100 * alpha.natAbs) 255 (by decide)
  unfold opacityText
  rw [twoPlaces_ofRatio (decide (alpha < 0)) (by decide) (by decide) h
    (n := roundDiv (100 * alpha.natAbs) 255) (by omega) (by omega)]
  simp

theorem Pair.natAbs_le {a b : Char} {i : Int} (h : Pair a b i) : i.natAbs ≤ 255 := by
  have hdigit {c : Char} {x : Nat} (h : digitOf? c = some x) : x < 16 := by
    rw [← hexValue?_asciiDigit, Option.filter_eq_some_iff] at h
    exact of_decide_eq_true h.2
  cases h with
  | digits hx hy =>
    have := hdigit hx
    have := hdigit hy
    omega
  | plus hy =>
    have := hdigit hy
    omega
  | minus hy =>
    have := hdigit hy
    omega
  | blankBefore _ hy =>
    have := hdigit hy
    omega
  | blankBehind hx _ =>
    have := hdigit hx
    omega

/-- A character that is no sign, no white space and no digit of a script other than ASCII. -/
structure IsPlain (c : Char) : Prop where
  plus : c ≠ '+'
  minus : c ≠ '-'
  blank : isWhiteSpace c = false
  digit : isAsciiDigit c = false → digitValue? c = none

theorem digitOf?_of_ascii {c : Char} (h : c.toNat < 128) : digitOf? c = hexValue? c := by
  have hall : ∀ n < 128, digitOf? (Char.ofNat n) = hexValue? (Char.ofNat n) := by decide +kernel
  have hc := hall c.toNat h
  rwa [Char.ofNat_toNat] at hc

theorem IsPlain.digitOf?_eq {c : Char} (h : IsPlain c) : digitOf? c = hexValue? c := by
  cases hascii : isAsciiDigit c with
  | true => exact of_isAsciiDigit (P := fun c => digitOf? c = hexValue? c) (by decide) hascii
  | false => rw [digitOf?, h.digit hascii]

/-- Two digits of base 16 are a pair. -/
theorem Byte.pair {a b : Char} {i : Int} (h : Byte a b i) : Pair a b i := by
  have hdigit {c : Char} {x : Nat} (hc : hexValue? c = some x) : digitOf? c = some x := by
    rw [digitOf?_of_ascii, hc]
    by_contra hlarge
    unfold hexValue? at hc
    dsimp only at hc
    rw [if_neg, if_neg, if_neg] at hc
    · cases hc
    all_goals
      simp only [Bool.and_eq_true, decide_eq_true_eq]
      omega
  obtain ⟨hx, hy⟩ := h
  exact .digits (hdigit hx) (hdigit hy)

/-- Plain characters are no pair but for two digits. -/
theorem Pair.byte {a b : Char} {i : Int} (ha : IsPlain a) (hb : IsPlain b) (h : Pair a b i) :
    Byte a b i := by
  cases h with
  | digits hx hy => exact .intro (ha.digitOf?_eq ▸ hx) (hb.digitOf?_eq ▸ hy)
  | plus => exact absurd rfl ha.plus
  | minus => exact absurd rfl ha.minus
  | blankBefore hblank => exact absurd hblank (by simp [ha.blank])
  | blankBehind _ hblank => exact absurd hblank (by simp [hb.blank])

theorem cssColor_of_isColor {s : String} {i j k l : Int} (h : IsColor Pair s.toList i j k l) :
    (cssColor s).toList = rgbaText i j k l := by
  have hopacity : i.natAbs ≤ 255 :=
    h.forall_numbers (fun _ _ _ hpair => hpair.natAbs_le) i List.mem_cons_self
  unfold cssColor rgbaText
  rw [channels?_eq_some_iff.mpr h, ← opacityText_eq hopacity]
  exact String.toList_ofList

theorem cssColor_of_not_isColor {s : String} (h : ∀ i j k l, ¬IsColor Pair s.toList i j k l) :
    cssColor s = s := by
  unfold cssColor
  split
  · next i j k l hsome => exact absurd (channels?_eq_some_iff.mp hsome) (h i j k l)
  · rfl

/-- **What is taken for a colour.** A sharp sign and eight digits of base 16 are a colour, whose four
bytes are given as CSS has them. Among the texts without signs, white space and digits of other
scripts it is only these, and all others are left as they are. In general each two of the eight
characters may be a `Pair`, and what is no sharp sign with four pairs is left as it is. -/
theorem cssColor_spec (s : String) :
    (∀ i j k l, IsColor Byte s.toList i j k l →
      (∀ byte ∈ [i, j, k, l], 0 ≤ byte ∧ byte ≤ 255) ∧ (cssColor s).toList = rgbaText i j k l) ∧
    ((∀ c ∈ s.toList, IsPlain c) → (∀ i j k l, ¬IsColor Byte s.toList i j k l) →
      cssColor s = s) ∧
    (∀ i j k l, IsColor Pair s.toList i j k l → (cssColor s).toList = rgbaText i j k l) ∧
    ((∀ i j k l, ¬IsColor Pair s.toList i j k l) → cssColor s = s) := by
  refine ⟨fun i j k l h => ?_, fun hplain hbytes => ?_, fun i j k l => cssColor_of_isColor,
    cssColor_of_not_isColor⟩
  · have hpairs : IsColor Pair s.toList i j k l := h.imp fun _ _ _ _ _ hbyte => hbyte.pair
    exact ⟨h.forall_numbers fun _ _ _ hbyte => hbyte.bounds, cssColor_of_isColor hpairs⟩
  · refine cssColor_of_not_isColor fun i j k l h => hbytes i j k l ?_
    exact h.imp fun a ha b hb _ hpair => hpair.byte (hplain a ha) (hplain b hb)

/-- A shade with half its opacity, a colour with three digits, and one with a sign, a blank and
digits of another script in its pairs. -/
theorem cssColor_spec_shades :
    (IsColor Byte "#80Ff000a".toList 128 255 0 10 ∧
      (cssColor "#80Ff000a").toList = rgbaText 128 255 0 10 ∧
      rgbaText 128 255 0 10 = "rgba(255, 0, 10, 0.50)".toList) ∧
    ((∀ c ∈ "#abc".toList, IsPlain c) ∧ (∀ i j k l, ¬IsColor Byte "#abc".toList i j k l) ∧
      cssColor "#abc" = "#abc") ∧
    (IsColor Pair "#-f+f f\u0661\u0662".toList (-15) 15 15 18 ∧
      (cssColor "#-f+f f\u0661\u0662").toList = rgbaText (-15) 15 15 18) ∧
    ((∀ i j k l, ¬IsColor Pair "#0_f0f0f0".toList i j k l) ∧ cssColor "#0_f0f0f0" = "#0_f0f0f0") := by
  have hshade : IsColor Byte "#80Ff000a".toList 128 255 0 10 :=
    .intro (.intro (x := 8) (y := 0) rfl rfl) (.intro (x := 15) (y := 15) rfl rfl)
      (.intro (x := 0) (y := 0) rfl rfl) (.intro (x := 0) (y := 10) rfl rfl)
  have hplain : ∀ c ∈ "#abc".toList, IsPlain c := by
    intro c hc
    have hall : ∀ c ∈ "#abc".toList, c ≠ '+' ∧ c ≠ '-' ∧ isWhiteSpace c = false ∧
        digitValue? c = none := forall_mem_of_all (by decide)
    obtain ⟨hplus, hminus, hblank, hdigit⟩ := hall c hc
    exact ⟨hplus, hminus, hblank, fun _ => hdigit⟩
  have hshort : ∀ i j k l, ¬IsColor Byte "#abc".toList i j k l := by
    intro i j k l h
    cases h
  have hodd : IsColor Pair "#-f+f f\u0661\u0662".toList (-15) 15 15 18 :=
    .intro (.minus (y := 15) (by decide)) (.plus (y := 15) (by decide))
      (.blankBefore (y := 15) (by decide) (by decide))
      (.digits (x := 1) (y := 2) (by decide) (by decide))
  have hline : ∀ i j k l, ¬IsColor Pair "#0_f0f0f0".toList i j k l := by
    intro i j k l h
    have hnone : channels? "#0_f0f0f0".toList = none := by decide
    rw [channels?_eq_some_iff.mpr h] at hnone
    cases hnone
  exact ⟨⟨hshade, ((cssColor_spec _).1 _ _ _ _ hshade).2, by decide +kernel⟩,
    ⟨hplain, hshort, (cssColor_spec _).2.1 hplain hshort⟩,
    ⟨hodd, (cssColor_spec _).2.2.1 _ _ _ _ hodd⟩, hline, (cssColor_spec _).2.2.2 hline⟩

/-- **No digits, and yet a colour.** A sign in front of one digit counts as a pair. -/
theorem cssColor_signed : (∀ i j k l, ¬IsColor Byte "#+f+f+f+f".toList i j k l) ∧
    cssColor "#+f+f+f+f" = "rgba(15, 15, 15, 0.06)" := by
  refine ⟨fun i j k l h => ?_, by decide +kernel⟩
  cases h with
  | intro h =>
    obtain ⟨hsign, -⟩ := h
    have hnone : hexValue? '+' = none := by decide
    exact nomatch hnone.symm.trans hsign

end Placard.Host
