import Placard.Number.Reading
import Mathlib.Data.List.TakeWhile
import Placard.Proofs.Number.Value
import Placard.Proofs.Text.Blank
import Placard.Proofs.Text.Digit
import Placard.Proofs.Text.Utf8

/-!
# Numbers that are read

What the readers of numbers give are doubles of the usual form (`fits_looseDouble?`), and the case
of letters does not matter to them: a text in small letters gives the number that the text itself
gives (`looseDouble?_of_lower`). For the only letter of a number is that of its exponent, and no
other letter has a small one that can stand in a number.

White space around a whole number makes no difference to what is read (`looseInt?_append`). What
gives a whole number consists of white space, signs, low lines and digits (`isWhole_of_looseInt?`):
no point, and none of the blanks that are no white space.
-/

namespace Placard.Number

open Text

/-! ## Forms -/

theorem Scientific.fits_toDouble (x : Scientific) : x.toDouble.Fits := by
  unfold Scientific.toDouble
  dsimp only
  split
  · exact Double.fits_zero _
  split
  · trivial
  split
  · exact Double.fits_zero _
  · exact Double.fits_ofRatio _ _ (Nat.pow_pos (by decide))

theorem fits_literal? {cs : List Char} {x : Double} (h : literal? cs = some x) : x.Fits := by
  unfold literal? at h
  dsimp only at h
  split at h
  · obtain rfl := Option.some.inj h
    trivial
  split at h
  · obtain rfl := Option.some.inj h
    trivial
  · obtain ⟨y, -, rfl⟩ := Option.map_eq_some_iff.mp h
    exact y.fits_toDouble

theorem fits_looseDouble? {cs : List Char} {x : Double} (h : looseDouble? cs = some x) :
    x.Fits := by
  obtain ⟨ds, -, h⟩ := Option.bind_eq_some_iff.mp h
  exact fits_literal? h

/-! ## The letter of an exponent

The case of the letter of an exponent makes no difference. -/

/-- The character, with the letter of an exponent made small. -/
def smallExponent (c : Char) : Char :=
  if c = 'E' then 'e' else c

/-- What does not tell the two letters apart does not see the change. -/
theorem apply_smallExponent {α : Type} {f : Char → α} (h : f 'e' = f 'E') (c : Char) :
    f (smallExponent c) = f c := by
  unfold smallExponent
  split
  · next hc => rw [hc, h]
  · rfl

theorem smallExponent_eq_iff {k : Char} (h : k ≠ 'e') (h' : k ≠ 'E') (c : Char) :
    smallExponent c = k ↔ c = k := by
  unfold smallExponent
  split
  · next hc => rw [hc]; exact iff_of_false h.symm h'.symm
  · rfl

theorem dropWhile_map_smallExponent {p : Char → Bool} (h : p 'e' = p 'E') (cs : List Char) :
    (cs.map smallExponent).dropWhile p = (cs.dropWhile p).map smallExponent := by
  rw [List.dropWhile_map, show p ∘ smallExponent = p from funext (apply_smallExponent h)]

theorem trimBy_map_smallExponent {p : Char → Bool} (h : p 'e' = p 'E') (cs : List Char) :
    trimBy p (cs.map smallExponent) = (trimBy p cs).map smallExponent := by
  unfold trimBy dropLeading dropTrailing
  rw [dropWhile_map_smallExponent h, ← List.map_reverse, dropWhile_map_smallExponent h,
    List.map_reverse]

/-- The value of a digit is below ten. -/
theorem digitValue?_le {c : Char} {d : Nat} (h : digitValue? c = some d) : d ≤ 9 := by
  unfold digitValue? at h
  split at h
  · next z hz =>
    obtain rfl := Option.some.inj h
    have hle := List.find?_some hz
    simp only [Bool.and_eq_true, decide_eq_true_eq] at hle
    omega
  · cases h

theorem asciiDigits_map_smallExponent (cs : List Char) :
    asciiDigits (cs.map smallExponent) = (asciiDigits cs).map smallExponent := by
  have hdigit : ∀ d ≤ 9, smallExponent (digitChar d) = digitChar d := by decide
  unfold asciiDigits
  rw [List.map_map, List.map_map]
  refine List.map_congr_left fun c _ => ?_
  rw [Function.comp_apply, Function.comp_apply, apply_smallExponent (f := digitValue?) (by decide)]
  cases hvalue : digitValue? c with
  | none => rfl
  | some d => exact (hdigit d (digitValue?_le hvalue)).symm

theorem withoutLowLines_go_map_smallExponent (before : Option Char) (cs : List Char) :
    withoutLowLines?.go (before.map smallExponent) (cs.map smallExponent) =
      (withoutLowLines?.go before cs).map (List.map smallExponent) := by
  have hline (before : Option Char) :
      before.map smallExponent = some '_' ↔ before = some '_' := by
    cases before with
    | none => rfl
    | some c =>
      rw [Option.map_some, Option.some_inj, Option.some_inj,
        smallExponent_eq_iff (by decide) (by decide)]
  have hdigit (before : Option Char) :
      (before.map smallExponent).any isAsciiDigit = before.any isAsciiDigit := by
    cases before with
    | none => rfl
    | some c => exact apply_smallExponent (f := isAsciiDigit) (by decide) c
  induction cs generalizing before with
  | nil =>
    unfold withoutLowLines?.go
    simp only [List.map_nil, hline]
    split <;> rfl
  | cons c cs ih =>
    have hnext := ih (some c)
    rw [Option.map_some] at hnext
    unfold withoutLowLines?.go
    simp only [List.map_cons, hline, hdigit, hnext,
      smallExponent_eq_iff (k := '_') (by decide) (by decide),
      apply_smallExponent (f := isAsciiDigit) (by decide)]
    split
    · split <;> rfl
    split
    · rfl
    · cases withoutLowLines?.go (some c) cs <;> rfl

theorem spanSign_cons (c : Char) (cs : List Char) : spanSign (c :: cs) =
    if c = '-' then (true, cs) else if c = '+' then (false, cs) else (false, c :: cs) := by
  unfold spanSign
  split
  · next h => obtain ⟨rfl, rfl⟩ := List.cons.inj h; rfl
  · next h => obtain ⟨rfl, rfl⟩ := List.cons.inj h; rfl
  · next hminus hplus =>
    rw [if_neg fun hc => hminus cs (by rw [hc]), if_neg fun hc => hplus cs (by rw [hc])]

theorem spanSign_map_smallExponent (cs : List Char) : spanSign (cs.map smallExponent) =
    ((spanSign cs).1, (spanSign cs).2.map smallExponent) := by
  cases cs with
  | nil => rfl
  | cons c cs =>
    rw [List.map_cons, spanSign_cons, spanSign_cons]
    simp only [smallExponent_eq_iff (k := '-') (by decide) (by decide),
      smallExponent_eq_iff (k := '+') (by decide) (by decide)]
    split
    · rfl
    split <;> rfl

theorem spanDigits_map_smallExponent (cs : List Char) : spanDigits (cs.map smallExponent) =
    ((spanDigits cs).1, (spanDigits cs).2.map smallExponent) := by
  unfold spanDigits
  rw [dropWhile_map_smallExponent (by decide), List.takeWhile_map, List.filterMap_map,
    show isAsciiDigit ∘ smallExponent = isAsciiDigit from funext (apply_smallExponent (by decide)),
    show asciiDigit? ∘ smallExponent = asciiDigit? from funext (apply_smallExponent (by decide))]

theorem exponent?_map_smallExponent (cs : List Char) :
    exponent? (cs.map smallExponent) = exponent? cs := by
  cases cs with
  | nil => rfl
  | cons c cs =>
    have hletter : (smallExponent c = 'e' || smallExponent c = 'E') = (c = 'e' || c = 'E') :=
      apply_smallExponent (f := fun c => decide (c = 'e') || decide (c = 'E')) (by decide) c
    rw [List.map_cons]
    unfold exponent?
    simp only [hletter, spanSign_map_smallExponent, spanDigits_map_smallExponent]
    split
    · obtain ⟨ds, rest⟩ := spanDigits (spanSign cs).2
      cases ds <;> cases rest <;> rfl
    · rfl

/-- The digits after a point, if there is one, and the rest. -/
def spanFraction (cs : List Char) : List Nat × List Char :=
  match cs with
  | '.' :: more => spanDigits more
  | _ => ([], cs)

theorem spanFraction_cons (c : Char) (cs : List Char) :
    spanFraction (c :: cs) = if c = '.' then spanDigits cs else ([], c :: cs) := by
  unfold spanFraction
  split
  · next h => obtain ⟨rfl, rfl⟩ := List.cons.inj h; rfl
  · next hpoint => rw [if_neg fun hc => hpoint cs (by rw [hc])]

/-- The parts of a number, in their order. -/
theorem scientific?_eq (cs : List Char) : scientific? cs =
    if (spanDigits (spanSign cs).2).1.isEmpty &&
        (spanFraction (spanDigits (spanSign cs).2).2).1.isEmpty then none
    else
      (exponent? (spanFraction (spanDigits (spanSign cs).2).2).2).map fun e =>
        { negative := (spanSign cs).1
          digits := ofDigits 10 ((spanDigits (spanSign cs).2).1 ++
            (spanFraction (spanDigits (spanSign cs).2).2).1)
          exponent := e - (spanFraction (spanDigits (spanSign cs).2).2).1.length } := rfl

theorem spanFraction_map_smallExponent (cs : List Char) : spanFraction (cs.map smallExponent) =
    ((spanFraction cs).1, (spanFraction cs).2.map smallExponent) := by
  cases cs with
  | nil => rfl
  | cons c cs =>
    rw [List.map_cons, spanFraction_cons, spanFraction_cons]
    simp only [smallExponent_eq_iff (k := '.') (by decide) (by decide)]
    split
    · exact spanDigits_map_smallExponent cs
    · rfl

theorem scientific?_map_smallExponent (cs : List Char) :
    scientific? (cs.map smallExponent) = scientific? cs := by
  simp only [scientific?_eq, spanSign_map_smallExponent, spanDigits_map_smallExponent,
    spanFraction_map_smallExponent, exponent?_map_smallExponent]

theorem literal?_map_smallExponent (cs : List Char) :
    literal? (cs.map smallExponent) = literal? cs := by
  unfold literal?
  rw [spanSign_map_smallExponent, scientific?_map_smallExponent]
  dsimp only
  have hlower : asciiLower ∘ smallExponent = asciiLower := funext (apply_smallExponent (by decide))
  rw [List.map_map, hlower]

/-- **The case of the letter of an exponent makes no difference.** -/
theorem looseDouble?_map_smallExponent (cs : List Char) :
    looseDouble? (cs.map smallExponent) = looseDouble? cs := by
  have hgo := withoutLowLines_go_map_smallExponent none (asciiDigits (trimBy isWhiteSpace cs))
  rw [Option.map_none] at hgo
  unfold looseDouble? withoutLowLines?
  rw [trimBy_map_smallExponent (by decide), asciiDigits_map_smallExponent, hgo]
  cases withoutLowLines?.go none (asciiDigits (trimBy isWhiteSpace cs)) with
  | none => rfl
  | some ds => exact literal?_map_smallExponent ds

/-! ## Characters that are passed over

What holds of all characters that are left of a text, and of those that can be passed over, holds of
all of its characters. -/

section

variable {P : Char → Prop} {cs : List Char}

theorem forall_mem_of_withoutLowLines? {ds : List Char} (hline : P '_')
    (h : withoutLowLines? cs = some ds) (hds : ∀ c ∈ ds, P c) : ∀ c ∈ cs, P c := by
  have hgo {before : Option Char} {cs ds : List Char}
      (h : withoutLowLines?.go before cs = some ds) (hds : ∀ c ∈ ds, P c) : ∀ c ∈ cs, P c := by
    induction cs generalizing before ds with
    | nil => exact fun _ hc => absurd hc List.not_mem_nil
    | cons c cs ih =>
      unfold withoutLowLines?.go at h
      dsimp only at h
      split at h
      · next hc =>
        split at h
        · exact List.forall_mem_cons.mpr ⟨by rwa [hc], ih h hds⟩
        · cases h
      split at h
      · cases h
      · obtain ⟨es, hes, rfl⟩ := Option.map_eq_some_iff.mp h
        rw [List.forall_mem_cons] at hds ⊢
        exact ⟨hds.1, ih hes hds.2⟩
  exact hgo h hds

theorem forall_mem_of_asciiDigits (hdigit : ∀ c d, digitValue? c = some d → P c)
    (h : ∀ c ∈ asciiDigits cs, P c) : ∀ c ∈ cs, P c := by
  intro c hc
  have hself := h _ (List.mem_map_of_mem hc)
  cases hvalue : digitValue? c with
  | some d => exact hdigit c d hvalue
  | none => rwa [hvalue] at hself

theorem forall_mem_of_spanSign (hplus : P '+') (hminus : P '-')
    (h : ∀ c ∈ (spanSign cs).2, P c) : ∀ c ∈ cs, P c := by
  cases cs with
  | nil => exact h
  | cons c cs =>
    rw [spanSign_cons] at h
    split at h
    · next hc => exact List.forall_mem_cons.mpr ⟨by rwa [hc], h⟩
    split at h
    · next hc => exact List.forall_mem_cons.mpr ⟨by rwa [hc], h⟩
    · exact h

end

/-! ## Characters of numbers -/

/-- The characters that can stand in a text that gives a finite number: white space, signs, the
point, the letter of an exponent, the low line and digits. -/
def numericRanges : List (Nat × Nat) :=
  [(0x9, 0xd), (0x20, 0x20), (0x2b, 0x2b), (0x2d, 0x2e), (0x45, 0x45), (0x5f, 0x5f), (0x65, 0x65),
    (0x85, 0x85), (0xa0, 0xa0), (0x1680, 0x1680), (0x2000, 0x200a), (0x2028, 0x2029),
    (0x202f, 0x202f), (0x205f, 0x205f), (0x3000, 0x3000)] ++ zeros.map fun z => (z, z + 9)

/-- Whether a character is one of them. -/
def isNumeric (c : Char) : Bool :=
  inRanges numericRanges c.toNat

theorem isNumeric_of_isWhiteSpace {c : Char} (h : isWhiteSpace c = true) : isNumeric c = true := by
  unfold isWhiteSpace at h
  unfold isNumeric inRanges numericRanges
  simp only [Bool.or_eq_true, Bool.and_eq_true, decide_eq_true_eq, beq_iff_eq] at h
  rw [List.any_append, Bool.or_eq_true]
  refine .inl ?_
  simp only [List.any_cons, Bool.or_eq_true, Bool.and_eq_true, decide_eq_true_eq]
  omega

theorem isNumeric_of_digitValue? {c : Char} {d : Nat} (h : digitValue? c = some d) :
    isNumeric c = true := by
  unfold digitValue? at h
  split at h
  · next z hz =>
    have hrange := List.find?_some hz
    refine List.any_eq_true.mpr ⟨(z, z + 9), ?_, hrange⟩
    exact List.mem_append_right _ (List.mem_map_of_mem (List.mem_of_find?_eq_some hz))
  · cases h

theorem isNumeric_of_isAsciiDigit {c : Char} (h : isAsciiDigit c = true) : isNumeric c = true := by
  refine List.any_eq_true.mpr ⟨(0x30, 0x39), by decide, ?_⟩
  unfold isAsciiDigit asciiDigit? at h
  split at h
  · next hrange => simpa using hrange
  · cases h

theorem isNumeric_of_spanDigits {cs : List Char} (h : ∀ c ∈ (spanDigits cs).2, isNumeric c = true) :
    ∀ c ∈ cs, isNumeric c = true := by
  intro c hc
  rw [← List.takeWhile_append_dropWhile (p := isAsciiDigit) (l := cs)] at hc
  rcases List.mem_append.mp hc with hc | hc
  · exact isNumeric_of_isAsciiDigit (List.mem_takeWhile_imp hc)
  · exact h c hc

theorem isNumeric_of_spanFraction {cs : List Char}
    (h : ∀ c ∈ (spanFraction cs).2, isNumeric c = true) : ∀ c ∈ cs, isNumeric c = true := by
  cases cs with
  | nil => exact h
  | cons c cs =>
    rw [spanFraction_cons] at h
    split at h
    · next hc => exact List.forall_mem_cons.mpr ⟨by rw [hc]; decide, isNumeric_of_spanDigits h⟩
    · exact h

theorem isNumeric_of_exponent? {cs : List Char} {e : Int} (h : exponent? cs = some e) :
    ∀ c ∈ cs, isNumeric c = true := by
  cases cs with
  | nil => exact fun _ hc => absurd hc List.not_mem_nil
  | cons c cs =>
    unfold exponent? at h
    dsimp only at h
    split at h
    · next hletter =>
      have hc : isNumeric c = true := by
        simp only [Bool.or_eq_true, decide_eq_true_eq] at hletter
        rcases hletter with rfl | rfl <;> decide
      refine List.forall_mem_cons.mpr
        ⟨hc, forall_mem_of_spanSign rfl rfl (isNumeric_of_spanDigits ?_)⟩
      split at h
      · cases h
      · next ds hne heq =>
        rw [heq]
        exact fun _ hc => absurd hc List.not_mem_nil
      · cases h
    · cases h

theorem isNumeric_of_scientific? {cs : List Char} {x : Scientific} (h : scientific? cs = some x) :
    ∀ c ∈ cs, isNumeric c = true := by
  rw [scientific?_eq] at h
  split at h
  · cases h
  · obtain ⟨e, he, -⟩ := Option.map_eq_some_iff.mp h
    exact forall_mem_of_spanSign rfl rfl (isNumeric_of_spanDigits
      (isNumeric_of_spanFraction (isNumeric_of_exponent? he)))

theorem isNumeric_of_literal? {cs : List Char} {x : Double} (h : literal? cs = some x)
    (hx : x.isFinite) : ∀ c ∈ cs, isNumeric c = true := by
  unfold literal? at h
  dsimp only at h
  split at h
  · obtain rfl := Option.some.inj h
    cases hx
  split at h
  · obtain rfl := Option.some.inj h
    cases hx
  · obtain ⟨y, hy, -⟩ := Option.map_eq_some_iff.mp h
    exact isNumeric_of_scientific? hy

/-- A text that gives a finite number consists of characters of numbers. -/
theorem isNumeric_of_looseDouble? {cs : List Char} {x : Double} (h : looseDouble? cs = some x)
    (hx : x.isFinite) : ∀ c ∈ cs, isNumeric c = true := by
  obtain ⟨ds, hds, hx'⟩ := Option.bind_eq_some_iff.mp h
  have hdigit (c : Char) (d : Nat) (hvalue : digitValue? c = some d) : isNumeric c = true :=
    isNumeric_of_digitValue? hvalue
  exact forall_mem_of_trimBy (fun c => isNumeric_of_isWhiteSpace) (forall_mem_of_asciiDigits hdigit
    (forall_mem_of_withoutLowLines? rfl hds (isNumeric_of_literal? hx' hx)))

/-! ## Small letters -/

/-- No capital letter beyond ASCII has a small one that can stand in a number. -/
theorem smallLetterRuns_apart : (smallLetterRuns.all fun r => numericRanges.all fun z =>
    decide ((r.2.1 : Int) + r.2.2.2 < z.1) || decide ((z.2 : Int) < r.1 + r.2.2.2)) = true := by
  decide +kernel

theorem isNumeric_smallLetter {r : Nat × Nat × Nat × Int} (hr : r ∈ smallLetterRuns) {n : Nat}
    (hlow : r.1 ≤ n) (hhigh : n ≤ r.2.1) :
    isNumeric (Char.ofNat (Int.toNat (n + r.2.2.2))) = false := by
  have hpos : ∀ z ∈ numericRanges, 0 < z.1 := by decide
  rw [Bool.eq_false_iff]
  intro h
  obtain ⟨z, hz, hrange⟩ := List.any_eq_true.mp h
  have hapart := List.all_eq_true.mp (List.all_eq_true.mp smallLetterRuns_apart r hr) z hz
  have hzpos := hpos z hz
  simp only [Bool.and_eq_true, Bool.or_eq_true, decide_eq_true_eq] at hrange hapart
  rcases toNat_ofNat_cases (Int.toNat (n + r.2.2.2)) with hchar | hchar <;> omega

theorem asciiLower_of_isNumeric : ∀ n < 128, isNumeric (asciiLower (Char.ofNat n)) = true →
    asciiLower (Char.ofNat n) = smallExponent (Char.ofNat n) := by
  decide +kernel

theorem lowerChar_of_isNumeric {c : Char} (h : isNumeric (lowerChar c) = true) :
    lowerChar c = smallExponent c := by
  unfold lowerChar at h ⊢
  dsimp only at h ⊢
  split
  · next hascii =>
    rw [if_pos hascii] at h
    have hlower := asciiLower_of_isNumeric c.toNat hascii
    rw [Char.ofNat_toNat] at hlower
    exact hlower h
  · next hascii =>
    rw [if_neg hascii] at h
    split
    · next r hr =>
      rw [hr] at h
      have hrange := List.find?_some hr
      simp only [Bool.and_eq_true, decide_eq_true_eq] at hrange
      have hnot := isNumeric_smallLetter (List.mem_of_find?_eq_some hr) hrange.1.1 hrange.1.2
      exact absurd h (Bool.eq_false_iff.mp hnot)
    · rw [smallExponent, if_neg]
      rintro rfl
      exact hascii (by decide)

theorem lower_of_isNumeric {cs : List Char} (h : ∀ c ∈ lower cs, isNumeric c = true) :
    lower cs = cs.map smallExponent := by
  have hgo (cs before : List Char) (h : ∀ c ∈ lower.go before cs, isNumeric c = true) :
      lower.go before cs = cs.map smallExponent := by
    induction cs generalizing before with
    | nil => rfl
    | cons c cs ih =>
      unfold lower.go at h ⊢
      dsimp only at h ⊢
      rw [List.forall_mem_append] at h
      rw [ih (c :: before) h.2, List.map_cons]
      have hsmall := h.1
      split at hsmall
      · exact absurd (hsmall 'i' List.mem_cons_self) (by decide)
      split at hsmall
      · rw [List.forall_mem_singleton] at hsmall
        split at hsmall
        · exact absurd hsmall (by decide)
        · exact absurd hsmall (by decide)
      · next hdot hsigma =>
        rw [if_neg hdot, if_neg hsigma, lowerChar_of_isNumeric (hsmall _ List.mem_cons_self)]
        rfl
  exact hgo cs [] h

/-- **The case of letters does not matter to a number.** -/
theorem looseDouble?_of_lower {cs : List Char} {x : Double} (h : looseDouble? (lower cs) = some x)
    (hx : x.isFinite) : looseDouble? cs = some x := by
  rwa [lower_of_isNumeric (isNumeric_of_looseDouble? h hx), looseDouble?_map_smallExponent] at h

/-! ## Whole numbers -/

/-- Whether a character can stand in a text that gives a whole number. -/
def isWhole (c : Char) : Bool :=
  isWhiteSpace c || (digitValue? c).isSome || ['+', '-', '_'].contains c

theorem isWhole_of_hexValue? {c : Char} {x : Nat} (h : hexValue? c = some x) (hx : x < 10) :
    isWhole c = true := by
  have hdigits : ∀ d < 10, isWhole (digitChar d) = true := by decide
  refine of_isAsciiDigit (P := fun c => isWhole c = true) hdigits ?_
  unfold hexValue? at h
  dsimp only at h
  split at h
  · next hc => rw [isAsciiDigit, asciiDigit?, if_pos hc, Option.isSome_some]
  split at h
  · next hc =>
    obtain rfl := Option.some.inj h
    simp only [Bool.and_eq_true, decide_eq_true_eq] at hc
    omega
  split at h
  · next hc =>
    obtain rfl := Option.some.inj h
    simp only [Bool.and_eq_true, decide_eq_true_eq] at hc
    omega
  · cases h

theorem isWhole_of_signedDigits? {cs : List Char} {i : Int} (h : signedDigits? 10 cs = some i) :
    ∀ c ∈ cs, isWhole c = true := by
  refine forall_mem_of_spanSign rfl rfl ?_
  unfold signedDigits? at h
  dsimp only at h
  split at h
  · cases h
  obtain ⟨ds, hds, -⟩ := Option.map_eq_some_iff.mp h
  generalize (spanSign cs).2 = rest at hds
  induction rest generalizing ds with
  | nil => exact nofun
  | cons c rest ih =>
    rw [List.mapM_cons] at hds
    obtain ⟨x, hx, hds⟩ := Option.bind_eq_some_iff.mp hds
    obtain ⟨xs, hxs, -⟩ := Option.bind_eq_some_iff.mp hds
    obtain ⟨hvalue, hlt⟩ := Option.filter_eq_some_iff.mp hx
    refine List.forall_mem_cons.mpr ⟨isWhole_of_hexValue? hvalue (of_decide_eq_true hlt), ?_⟩
    exact ih xs hxs

/-- A text that gives a whole number consists of characters of whole numbers. -/
theorem isWhole_of_looseInt? {cs : List Char} {i : Int} (h : looseInt? cs = some i) :
    ∀ c ∈ cs, isWhole c = true := by
  obtain ⟨ds, hds, hi⟩ := Option.bind_eq_some_iff.mp h
  have hwhite (c : Char) (hc : isWhiteSpace c = true) : isWhole c = true := by
    simp [isWhole, hc]
  have hdigit (c : Char) (d : Nat) (hc : digitValue? c = some d) : isWhole c = true := by
    simp [isWhole, hc]
  exact forall_mem_of_trimBy hwhite (forall_mem_of_asciiDigits hdigit
    (forall_mem_of_withoutLowLines? rfl hds (isWhole_of_signedDigits? hi)))

/-- Blanks beside a whole number are white space. -/
theorem isWhiteSpace_of_isWhole {c : Char} (h : isWhole c = true) (hblank : isBlank c = true) :
    isWhiteSpace c = true := by
  have hseparators : ∀ n < 32, 28 ≤ n → isWhole (Char.ofNat n) = false := by decide +kernel
  rcases Bool.or_eq_true_iff.mp hblank with hwhite | hseparator
  · exact hwhite
  · simp only [Bool.and_eq_true, decide_eq_true_eq] at hseparator
    have hnot := hseparators c.toNat (by omega) hseparator.1
    rw [Char.ofNat_toNat, h] at hnot
    cases hnot

/-- White space behind a whole number makes no difference. -/
theorem looseInt?_append {after : List Char} (hafter : ∀ c ∈ after, isWhiteSpace c = true)
    (cs : List Char) : looseInt? (cs ++ after) = looseInt? cs := by
  rw [looseInt?, trimBy_append_right hafter, ← looseInt?]

end Placard.Number
