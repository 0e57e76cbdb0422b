import Mathlib.Algebra.Group.Nat.Defs
import Mathlib.Data.List.Induction
import Placard.Text.Digit

/-!
# Decimal texts

The decimal text of a number consists of digits and reads back as the number (`ofDigits_natText`).
So the text of an integer belongs to no other integer. The number of digits tells the powers of ten
around a number (`length_digitsOf_bounds`).
-/

namespace Placard.Text

theorem asciiDigit?_digitChar : ∀ d < 10, asciiDigit? (digitChar d) = some d := by
  decide

theorem isAsciiDigit_digitChar : ∀ d < 10, isAsciiDigit (digitChar d) = true := by
  decide

/-- What holds of the ten digits holds of every character that is one. -/
theorem of_isAsciiDigit {P : Char → Prop} (hdigits : ∀ d < 10, P (digitChar d)) {c : Char}
    (hc : isAsciiDigit c = true) : P c := by
  have hrange : 48 ≤ c.toNat ∧ c.toNat ≤ 57 := by
    simpa [isAsciiDigit, asciiDigit?] using hc
  have hdigit := hdigits (c.toNat - 48) (by omega)
  rwa [digitChar, Nat.add_sub_cancel' hrange.1, Char.ofNat_toNat] at hdigit

theorem ofDigits_snoc (base : Nat) (ds : List Nat) (d : Nat) :
    ofDigits base (ds ++ [d]) = ofDigits base ds * base + d := by
  rw [ofDigits, ofDigits, List.foldl_append, List.foldl_cons, List.foldl_nil]

theorem lt_of_mem_digitsOf {n d : Nat} (h : d ∈ digitsOf n) : d < 10 := by
  fun_induction digitsOf n with
  | case1 => cases h
  | case2 n _ ih =>
    rcases List.mem_append.mp h with h | h
    · exact ih h
    · rw [List.mem_singleton.mp h]
      exact Nat.mod_lt n (by decide)

theorem ofDigits_digitsOf (n : Nat) : ofDigits 10 (digitsOf n) = n := by
  fun_induction digitsOf n with
  | case1 => rfl
  | case2 n _ ih =>
    rw [ofDigits_snoc, ih]
    omega

theorem mapM_digitsOf {ds : List Nat} (h : ∀ d ∈ ds, d < 10) :
    (ds.map digitChar).mapM asciiDigit? = some ds := by
  induction ds with
  | nil => rfl
  | cons d ds ih =>
    rw [List.forall_mem_cons] at h
    rw [List.map_cons, List.mapM_cons, asciiDigit?_digitChar d h.1, ih h.2]
    rfl

/-- The text of a number consists of its digits. -/
theorem exists_digits_natText (n : Nat) : ∃ ds, (∀ d ∈ ds, d < 10) ∧ ds ≠ [] ∧
    natText n = ds.map digitChar ∧ ofDigits 10 ds = n := by
  unfold natText
  split
  · next hn => exact ⟨[0], by decide, by decide, rfl, hn.symm⟩
  · next hn =>
    refine ⟨digitsOf n, fun d => lt_of_mem_digitsOf, fun hnil => hn ?_, rfl, ofDigits_digitsOf n⟩
    rw [← ofDigits_digitsOf n, hnil]
    rfl

theorem isAsciiDigit_of_mem_natText {n : Nat} {c : Char} (h : c ∈ natText n) :
    isAsciiDigit c = true := by
  obtain ⟨ds, hds, -, htext, -⟩ := exists_digits_natText n
  rw [htext] at h
  obtain ⟨d, hd, rfl⟩ := List.mem_map.mp h
  exact isAsciiDigit_digitChar d (hds d hd)

theorem natText_ne_nil (n : Nat) : natText n ≠ [] := by
  obtain ⟨ds, -, hne, htext, -⟩ := exists_digits_natText n
  rw [htext]
  exact fun h => hne (List.map_eq_nil_iff.mp h)

theorem isAsciiDigit_of_mem_paddedText {width n : Nat} {c : Char} (h : c ∈ paddedText width n) :
    isAsciiDigit c = true := by
  rcases List.mem_append.mp h with h | h
  · rw [List.eq_of_mem_replicate h]
    decide
  · exact isAsciiDigit_of_mem_natText h

/-- **Reading a number back.** The text of a number consists of digits that write the number. -/
theorem ofDigits_natText (n : Nat) : ((natText n).mapM asciiDigit?).map (ofDigits 10) = some n := by
  unfold natText
  split
  · next hn =>
    rw [hn]
    rfl
  · rw [mapM_digitsOf fun d => lt_of_mem_digitsOf, Option.map_some, ofDigits_digitsOf]

theorem natText_injective {m n : Nat} (h : natText m = natText n) : m = n := by
  have hm := ofDigits_natText m
  rw [h, ofDigits_natText n] at hm
  exact (Option.some.inj hm).symm

/-- No number begins with a sign. -/
theorem natText_ne_sign (n : Nat) (cs : List Char) : natText n ≠ '-' :: cs := by
  intro h
  have hread := ofDigits_natText n
  rw [h, List.mapM_cons] at hread
  cases hread

theorem intText_injective {i j : Int} (h : intText i = intText j) : i = j := by
  unfold intText at h
  split at h <;> split at h
  · have := natText_injective (List.cons.inj h).2
    omega
  · exact absurd h.symm (natText_ne_sign _ _)
  · exact absurd h (natText_ne_sign _ _)
  · have := natText_injective h
    omega

/-! ## How many digits -/

theorem ofDigits_append (ds es : List Nat) :
    ofDigits 10 (ds ++ es) = ofDigits 10 ds * 10 ^ es.length + ofDigits 10 es := by
  induction es using List.reverseRecOn with
  | nil => simp [ofDigits]
  | append_singleton es e ih =>
    rw [← List.append_assoc, ofDigits_snoc, ih, ofDigits_snoc, List.length_append,
      List.length_singleton, Nat.pow_succ, Nat.add_mul, Nat.mul_assoc, Nat.add_assoc]

theorem ofDigits_replicate (k : Nat) : ofDigits 10 (List.replicate k 0) = 0 := by
  induction k with
  | zero => rfl
  | succ k ih => rw [List.replicate_succ', ofDigits_snoc, ih]

/-- The number of digits of a number tells the powers of ten around it. -/
theorem length_digitsOf_bounds {n : Nat} (hn : n ≠ 0) :
    10 ^ ((digitsOf n).length - 1) ≤ n ∧ n < 10 ^ (digitsOf n).length := by
  fun_induction digitsOf n with
  | case1 => exact absurd rfl hn
  | case2 n h ih =>
    rw [List.length_append, List.length_singleton, Nat.add_sub_cancel, Nat.pow_succ]
    by_cases hfew : n / 10 = 0
    · rw [hfew, digitsOf, if_pos rfl, List.length_nil]
      omega
    · obtain ⟨hlow, hhigh⟩ := ih hfew
      have hpos : 0 < (digitsOf (n / 10)).length := by
        by_contra hzero
        rw [Nat.eq_zero_of_not_pos hzero] at hhigh
        omega
      obtain ⟨k, hk⟩ := Nat.exists_eq_succ_of_ne_zero (Nat.ne_of_gt hpos)
      rw [hk, Nat.succ_sub_one] at hlow
      rw [hk, Nat.pow_succ] at hhigh ⊢
      omega

theorem length_natText {n : Nat} (hn : n ≠ 0) : (natText n).length = (digitsOf n).length := by
  rw [natText, if_neg hn, List.length_map]

theorem exists_digits_paddedText (width n : Nat) : ∃ ds, (∀ d ∈ ds, d < 10) ∧ ds ≠ [] ∧
    paddedText width n = ds.map digitChar ∧ ofDigits 10 ds = n := by
  obtain ⟨ds, hdigits, hne, htext, hvalue⟩ := exists_digits_natText n
  refine ⟨List.replicate (width - (natText n).length) 0 ++ ds,
    List.forall_mem_append.mpr ⟨fun d hd => ?_, hdigits⟩, by simp [hne], ?_, ?_⟩
  · rw [List.eq_of_mem_replicate hd]
    decide
  · rw [paddedText, List.map_append, List.map_replicate, ← htext]
    rfl
  · rw [ofDigits_append, ofDigits_replicate, Nat.zero_mul, Nat.zero_add, hvalue]

/-- A number with no more digits than fit is padded to the width. -/
theorem length_paddedText {width n : Nat} (hwidth : 0 < width) (hn : n < 10 ^ width) :
    (paddedText width n).length = width := by
  have hlength : (natText n).length ≤ width := by
    by_cases hzero : n = 0
    · rw [hzero]
      exact hwidth
    · rw [length_natText hzero]
      have hlow := (length_digitsOf_bounds hzero).1
      have hlt := (Nat.pow_lt_pow_iff_right (by decide)).mp (Nat.lt_of_le_of_lt hlow hn)
      omega
  rw [paddedText, List.length_append, List.length_replicate]
  omega

end Placard.Text
