import Placard.Proofs.Json.Decimal
import Placard.Proofs.Number.Shortest

/-!
# Doubles in JSON

The text of a double is its shortest digits, positional or with an exponent. Either way they are the
parts of a number with the value of the digits (`isPartsOf_numberText`), and the shortest digits
round to the double; so the double is read back (`number?_numberText`).
-/

namespace Placard.Number

open Text Double

/-- The exact value of a decimal number without its sign. -/
def Scientific.value (x : Scientific) : ℚ :=
  x.digits * 10 ^ x.exponent

/-- The number of digits and the exponent tell the powers of ten around a decimal number. -/
theorem Scientific.value_bounds {x : Scientific} (h : x.digits ≠ 0) :
    (10 : ℚ) ^ (x.exponent + (natText x.digits).length - 1) ≤ x.value ∧
      x.value < 10 ^ (x.exponent + (natText x.digits).length) := by
  obtain ⟨hlow, hhigh⟩ := length_digitsOf_bounds h
  rw [length_natText h, value]
  have hten := zpow_pos (show (0 : ℚ) < 10 by norm_num) x.exponent
  have hlow' : (10 : ℚ) ^ (((digitsOf x.digits).length : Int) - 1) ≤ x.digits := by
    calc (10 : ℚ) ^ (((digitsOf x.digits).length : Int) - 1)
        ≤ 10 ^ (((digitsOf x.digits).length - 1 : Nat) : Int) :=
          zpow_le_zpow_right₀ (by norm_num) (by omega)
      _ ≤ x.digits := by
          rw [zpow_natCast]
          exact_mod_cast hlow
  have hhigh' : (x.digits : ℚ) < 10 ^ ((digitsOf x.digits).length : Int) := by
    rw [zpow_natCast]
    exact_mod_cast hhigh
  rw [add_comm, add_sub_right_comm, zpow_add₀ (by norm_num), zpow_add₀ (by norm_num)]
  exact ⟨mul_le_mul_of_nonneg_right hlow' hten.le, mul_lt_mul_of_pos_right hhigh' hten⟩

/-- The powers of ten beyond which numbers are not computed are beyond all doubles. -/
theorem two_zpow_lt_ten_zpow : (2 : ℚ) ^ (1075 : Int) < 10 ^ (400 : Int) := by
  calc (2 : ℚ) ^ (1075 : Int) < 2 ^ (1200 : Int) := two_zpow_lt (by norm_num)
    _ = (2 ^ 3) ^ 400 := by rw [← pow_mul]; rfl
    _ ≤ 10 ^ 400 := pow_le_pow_left₀ (by norm_num) (by norm_num) 400

/-- A decimal number in the neighbourhood of a double is read as the double. -/
theorem Scientific.toDouble_eq_of_contains {x : Scientific} {m : Nat} {e : Int}
    (hc : IsCanonical m e) (hm : 0 < m) (h : (Neighbourhood.of m e).Contains e x.value) :
    x.toDouble = .finite x.negative m e := by
  have hbetween := h.between hm
  have hplace := two_zpow_pos e
  have hlow : (2 : ℚ) ^ (-1075 : Int) ≤ x.value := by
    have hm' : (1 : ℚ) ≤ m := by exact_mod_cast hm
    have hhalf : (2 : ℚ) ^ (e - 1) = 2 ^ e / 2 := zpow_sub_one₀ (by norm_num) e
    calc (2 : ℚ) ^ (-1075 : Int) ≤ 2 ^ (e - 1) :=
          zpow_le_zpow_right₀ one_le_two (by have := hc.least; unfold minExponent at this; omega)
      _ ≤ x.value := by nlinarith [hbetween.low_le]
  have hhigh : x.value ≤ 2 ^ (1075 : Int) :=
    (hbetween.lt_two_zpow hc.bits).le.trans (zpow_le_zpow_right₀ one_le_two
      (by have := hc.greatest; unfold maxExponent at this; omega))
  -- far from both ends of the range, the value is rounded and not replaced
  have hdigits : x.digits ≠ 0 := by
    intro hzero
    rw [value, hzero, Nat.cast_zero, zero_mul] at hlow
    exact absurd (two_zpow_pos _) (not_lt.mpr hlow)
  obtain ⟨hless, hmore⟩ := value_bounds hdigits
  have hten := two_zpow_lt_ten_zpow
  unfold toDouble
  dsimp only
  rw [if_neg hdigits, if_neg, if_neg]
  · refine ofRatio_eq_of_contains (v := x.value) (Nat.pow_pos (by decide)) ?_ hc hm h _
    rw [value, Nat.pow_eq, Nat.cast_mul, Nat.cast_pow, Nat.cast_pow, Nat.cast_ofNat,
      ten_pow_toNat x.exponent, mul_assoc]
  · intro hsmall
    have hcompare : (10 : ℚ) ^ (-400 : Int) < 2 ^ (-1075 : Int) := by
      rw [zpow_neg, zpow_neg]
      exact inv_strictAnti₀ (two_zpow_pos _) hten
    have := zpow_le_zpow_right₀ (show (1 : ℚ) ≤ 10 by norm_num) hsmall.le
    exact absurd hlow (not_le.mpr (hmore.trans (this.trans_lt hcompare)))
  · intro hlarge
    have := zpow_le_zpow_right₀ (show (1 : ℚ) ≤ 10 by norm_num) (Int.le_sub_one_of_lt hlarge)
    exact absurd hhigh (not_le.mpr (hten.trans_le (this.trans hless)))

/-! ## Digits -/

/-- The zeros that are left out stand at the end. -/
theorem exists_eq_append_zeros (ds : List Nat) :
    ∃ k, ds = withoutTrailingZeros ds ++ List.replicate k 0 := by
  have hzeros : ∀ d ∈ ds.reverse.takeWhile (· == 0), d = 0 := by
    intro d hd
    simpa using List.mem_takeWhile_imp hd
  refine ⟨(ds.reverse.takeWhile (· == 0)).length, ?_⟩
  have hsplit := List.takeWhile_append_dropWhile (p := (· == 0)) (l := ds.reverse)
  rw [List.eq_replicate_iff.mpr ⟨rfl, hzeros⟩] at hsplit
  have hreverse := congrArg List.reverse hsplit
  rw [List.reverse_append, List.reverse_reverse, List.reverse_replicate] at hreverse
  exact hreverse.symm

end Placard.Number

namespace Placard.Json

open Text Number Data Double

/-! ## The parts of a double -/

/-- Whether a text is that of parts with a sign and a value. -/
def IsPartsOf (cs : List Char) (negative : Bool) (v : ℚ) : Prop :=
  ∃ p : Parts, p.IsRegular ∧ p.text = cs ∧ p.negative = negative ∧ p.scientific.value = v

section

variable {ds : List Nat} {top : Int} (hdigits : ∀ d ∈ ds, d < 10)
  (hhead : ∃ d more, ds = d :: more ∧ d ≠ 0) (s : Bool)

include hdigits hhead

theorem isPartsOf_withExponent : IsPartsOf (minusText s ++ withExponent ds top) s
    (ofDigits 10 ds * 10 ^ (top + 1 - ds.length)) := by
  obtain ⟨d, more, rfl, hd⟩ := hhead
  rw [List.forall_mem_cons] at hdigits
  obtain ⟨es, hes, hne, htext, hvalue⟩ := exists_digits_paddedText 2 top.natAbs
  refine ⟨⟨s, [d], more, some (decide (top < 0), es)⟩,
    ⟨⟨by simp [hdigits.1], .inr ⟨d, [], rfl, hd⟩⟩, hdigits.2, by rintro _ ⟨⟩; exact ⟨hes, hne⟩,
      .inr (by simp)⟩, ?_, rfl, ?_⟩
  · simp only [Parts.text, Parts.fractionText, Parts.exponentText, withExponent, htext, signOf,
      Option.elim_some, decide_eq_true_eq]
    cases more <;> simp
  · simp only [Parts.scientific, Scientific.value, Option.elim_some, hvalue, signed_natAbs,
      List.length_cons, List.singleton_append]
    congr 2
    push_cast
    ring

omit hdigits hhead in
theorem lt_ten_of_mem_zeros {k d : Nat} (hd : d ∈ List.replicate k 0) : d < 10 := by
  rw [List.eq_of_mem_replicate hd]
  decide

/-- All digits stand behind the point, and zeros before them. -/
theorem isPartsOf_positional_behind (htop : top < 0) :
    IsPartsOf (minusText s ++ positional ds top) s (ofDigits 10 ds * 10 ^ (top + 1 - ds.length)) := by
  have hne : ds ≠ [] := by
    obtain ⟨d, more, rfl, -⟩ := hhead
    exact List.cons_ne_nil d more
  rw [positional, if_pos htop]
  refine ⟨⟨s, [0], List.replicate ((-top).toNat - 1) 0 ++ ds, none⟩, ⟨⟨by simp, .inl rfl⟩,
    List.forall_mem_append.mpr ⟨fun d => lt_ten_of_mem_zeros, hdigits⟩, by simp,
    .inl (by simp [hne])⟩, ?_, rfl, ?_⟩
  · simp [Parts.text, Parts.fractionText, Parts.exponentText, hne, digitText, digitChar]
  · have hvalue : ofDigits 10 ([0] ++ (List.replicate ((-top).toNat - 1) 0 ++ ds)) =
        ofDigits 10 ds := by
      rw [ofDigits_append, ofDigits_append, ofDigits_replicate]
      simp [ofDigits]
    simp only [Parts.scientific, Scientific.value, Option.elim_none, hvalue, List.length_append,
      List.length_replicate]
    congr 2
    push_cast
    omega

/-- All digits stand before the point, and zeros behind them. -/
theorem isPartsOf_positional_before (htop : 0 ≤ top) (hlong : ds.length ≤ top.toNat + 1) :
    IsPartsOf (minusText s ++ positional ds top) s (ofDigits 10 ds * 10 ^ (top + 1 - ds.length)) := by
  obtain ⟨d, more, hds, hd⟩ := hhead
  rw [positional, if_neg (not_lt.mpr htop)]
  dsimp only
  rw [List.take_of_length_le hlong, List.drop_of_length_le hlong]
  refine ⟨⟨s, ds ++ List.replicate (top.toNat + 1 - ds.length) 0, [0], none⟩,
    ⟨⟨List.forall_mem_append.mpr ⟨hdigits, fun d => lt_ten_of_mem_zeros⟩,
      .inr ⟨d, _, by rw [hds]; rfl, hd⟩⟩, by simp, by simp, .inl (by simp)⟩, ?_, rfl, ?_⟩
  · simp [Parts.text, Parts.fractionText, Parts.exponentText, digitText, digitChar]
  · have hvalue : ofDigits 10 (ds ++ List.replicate (top.toNat + 1 - ds.length) 0 ++ [0]) =
        ofDigits 10 ds * 10 ^ (top.toNat + 1 - ds.length + 1) := by
      rw [ofDigits_snoc, ofDigits_append, ofDigits_replicate, List.length_replicate]
      ring
    simp only [Parts.scientific, Scientific.value, Option.elim_none, hvalue, List.length_singleton]
    push_cast
    rw [mul_assoc, ← zpow_natCast, ← zpow_add₀ (by norm_num)]
    congr 2
    push_cast [hlong]
    omega

/-- The point stands among the digits. -/
theorem isPartsOf_positional_among (htop : 0 ≤ top) (hshort : top.toNat + 1 < ds.length) :
    IsPartsOf (minusText s ++ positional ds top) s (ofDigits 10 ds * 10 ^ (top + 1 - ds.length)) := by
  obtain ⟨d, more, hds, hd⟩ := hhead
  have hlength : (ds.take (top.toNat + 1)).length = top.toNat + 1 := by
    rw [List.length_take]
    omega
  have hrest : ds.drop (top.toNat + 1) ≠ [] := by
    rw [Ne, List.drop_eq_nil_iff]
    exact not_le.mpr hshort
  rw [positional, if_neg (not_lt.mpr htop)]
  refine ⟨⟨s, ds.take (top.toNat + 1), ds.drop (top.toNat + 1), none⟩,
    ⟨⟨fun d hd => hdigits d (List.mem_of_mem_take hd), .inr ⟨d, _, by rw [hds]; rfl, hd⟩⟩,
      (fun d hd => hdigits d (List.mem_of_mem_drop hd)), by simp, .inl hrest⟩, ?_, rfl, ?_⟩
  · dsimp only
    rw [hlength, Nat.sub_self]
    simp [Parts.text, Parts.fractionText, Parts.exponentText, digitText, hrest]
  · simp only [Parts.scientific, Scientific.value, Option.elim_none, List.take_append_drop,
      List.length_drop]
    congr 2
    omega

theorem isPartsOf_positional : IsPartsOf (minusText s ++ positional ds top) s
    (ofDigits 10 ds * 10 ^ (top + 1 - ds.length)) := by
  rcases lt_or_ge top 0 with htop | htop
  · exact isPartsOf_positional_behind hdigits hhead s htop
  rcases le_or_gt ds.length (top.toNat + 1) with hlong | hshort
  · exact isPartsOf_positional_before hdigits hhead s htop hlong
  · exact isPartsOf_positional_among hdigits hhead s htop hshort

end

/-- **The shortest digits are the parts of a number.** -/
theorem isPartsOf_numberText (s : Bool) {m : Nat} {e : Int} (hm : m ≠ 0) {n : Nat} {j : Int}
    (h : shortestDigits m e = (n, j)) (hn : n ≠ 0) :
    IsPartsOf (numberText (.finite s m e)) s (n * 10 ^ j) := by
  obtain ⟨k, hk⟩ := exists_eq_append_zeros (digitsOf n)
  have hdigits : ∀ d ∈ withoutTrailingZeros (digitsOf n), d < 10 := by
    intro d hd
    refine lt_of_mem_digitsOf (n := n) ?_
    rw [hk]
    exact List.mem_append_left _ hd
  have hhead : ∃ d more, withoutTrailingZeros (digitsOf n) = d :: more ∧ d ≠ 0 := by
    obtain ⟨d, more, heq, hd⟩ := head_digitsOf hn
    rw [heq] at hk ⊢
    cases hbody : withoutTrailingZeros (d :: more) with
    | nil =>
      rw [hbody, List.nil_append] at hk
      exact absurd (List.eq_of_mem_replicate (hk ▸ List.mem_cons_self)) hd
    | cons d' more' =>
      rw [hbody, List.cons_append] at hk
      exact ⟨d', more', rfl, (List.cons.inj hk).1 ▸ hd⟩
  -- the exponent makes up for the zeros that were cut off
  have hvalue (top : Int) (htop : top = j + (digitsOf n).length - 1) :
      (ofDigits 10 (withoutTrailingZeros (digitsOf n)) : ℚ) *
        10 ^ (top + 1 - (withoutTrailingZeros (digitsOf n)).length) = n * 10 ^ j := by
    have hlength := congrArg List.length hk
    rw [List.length_append, List.length_replicate] at hlength
    have hn' := congrArg (ofDigits 10) hk
    rw [ofDigits_digitsOf, ofDigits_append, ofDigits_replicate, List.length_replicate] at hn'
    generalize withoutTrailingZeros (digitsOf n) = body at *
    have hplaces : top + 1 - body.length = (k : Int) + j := by omega
    rw [hplaces, zpow_add₀ (by norm_num), zpow_natCast, ← mul_assoc, hn', add_zero]
    push_cast
    rfl
  unfold numberText
  dsimp only
  rw [if_neg hm, h, ← hvalue _ rfl]
  change IsPartsOf (minusText s ++ _) s _
  split
  · exact isPartsOf_positional hdigits hhead s
  · exact isPartsOf_withExponent hdigits hhead s

/-- **The text of a double is that of parts that are read as the double.** -/
theorem exists_parts_of_isCanonical {s : Bool} {m : Nat} {e : Int} (hc : IsCanonical m e) :
    ∃ p : Parts, p.IsRegular ∧ p.text = numberText (.finite s m e) ∧
      p.scientific.toDouble = .finite s m e := by
  by_cases hm : m = 0
  · obtain rfl := hm
    obtain rfl := hc.full.resolve_left (by decide)
    exact ⟨⟨s, [0], [0], none⟩, ⟨⟨by simp, .inl rfl⟩, by simp, by simp, .inl (by simp)⟩,
      by cases s <;> rfl, rfl⟩
  have hpos := Nat.pos_of_ne_zero hm
  obtain ⟨n, j, h⟩ : ∃ n j, shortestDigits m e = (n, j) := ⟨_, _, rfl⟩
  have hcontains := shortestDigits_contains (e := e) hpos hc.bits
  rw [h] at hcontains
  have hn : n ≠ 0 := by
    rintro rfl
    have hlow := (hcontains.between hpos).low_le
    have hm' : (1 : ℚ) ≤ m := by exact_mod_cast hpos
    rw [Nat.cast_zero, zero_mul] at hlow
    nlinarith [two_zpow_pos e]
  obtain ⟨p, hp, htext, rfl, hvalue⟩ := isPartsOf_numberText s hm h hn
  rw [← hvalue] at hcontains
  exact ⟨p, hp, htext, Scientific.toDouble_eq_of_contains hc hpos hcontains⟩

/-- **Doubles are read back.** -/
theorem number?_numberText {s : Bool} {m : Nat} {e : Int} (hc : IsCanonical m e)
    {rest : List Char} (hrest : Stops rest) :
    number? (numberText (.finite s m e) ++ rest) = some (.float (.finite s m e), rest) := by
  obtain ⟨p, hp, htext, hvalue⟩ := exists_parts_of_isCanonical (s := s) hc
  rw [← htext, number?_text hp hrest, hvalue]

end Placard.Json
