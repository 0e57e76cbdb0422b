import Mathlib.Data.List.Forall2
import Placard.Proofs.Text.Utf8
import Placard.Text.Case

/-!
# Small letters

The small-letter form of a text does not depend on the case of its ASCII letters (`lower_congr`):
they count as letters with case in either, so that a sigma among them ends a word or does not. Of
the letters beyond ASCII only the Kelvin sign becomes an ASCII letter on its own
(`toNat_lowerChar`).
-/

namespace Placard.Text

/-- The texts differ at most in the case of ASCII letters. -/
abbrev SameLetters : List Char → List Char → Prop :=
  List.Forall₂ fun c d => asciiLower c = asciiLower d

theorem sameLetters_self (cs : List Char) : SameLetters cs cs :=
  List.forall₂_same.mpr fun _ _ => rfl

/-! ## Letters that differ in case -/

/-- Two characters with one small letter are the same character, or ASCII letters. -/
theorem eq_or_isAsciiLetter {c d : Char} (h : asciiLower c = asciiLower d) :
    c = d ∨ isAsciiLetter c = true ∧ isAsciiLetter d = true := by
  have hcapital (c : Char) (hc : 65 ≤ c.toNat ∧ c.toNat ≤ 90) :
      (Char.ofNat (c.toNat + 32)).toNat = c.toNat + 32 := toNat_ofNat (.inl (by omega))
  unfold asciiLower at h
  simp only [Bool.and_eq_true, decide_eq_true_eq] at h
  simp only [isAsciiLetter, Bool.or_eq_true, Bool.and_eq_true, decide_eq_true_eq]
  split at h
  · next hc =>
    split at h
    · next hd => exact .inr ⟨.inr hc, .inr hd⟩
    · next hd =>
      have hsmall := hcapital c hc
      rw [h] at hsmall
      exact .inr ⟨.inr hc, .inl (by omega)⟩
  · next hc =>
    split at h
    · next hd =>
      have hsmall := hcapital d hd
      rw [← h] at hsmall
      exact .inr ⟨.inl (by omega), .inr hd⟩
    · exact .inl h

/-- What holds of every ASCII letter, as a check of the letters says. -/
theorem of_isAsciiLetter {P : Char → Prop} [DecidablePred P]
    (h : ∀ n < 128, isAsciiLetter (Char.ofNat n) = true → P (Char.ofNat n)) {c : Char}
    (hc : isAsciiLetter c = true) : P c := by
  have hrange : c.toNat < 128 := by
    simp only [isAsciiLetter, Bool.or_eq_true, Bool.and_eq_true, decide_eq_true_eq] at hc
    omega
  have hletter := h c.toNat hrange
  rw [Char.ofNat_toNat] at hletter
  exact hletter hc

theorem isCased_of_isAsciiLetter {c : Char} (h : isAsciiLetter c = true) : isCased c = true :=
  of_isAsciiLetter (P := fun c => isCased c = true) (by decide +kernel) h

theorem not_passedOver_of_isAsciiLetter {c : Char} (h : isAsciiLetter c = true) :
    inRanges passedOverRanges c.toNat = false :=
  of_isAsciiLetter (P := fun c => inRanges passedOverRanges c.toNat = false) (by decide +kernel) h

/-- An ASCII letter has its small letter for itself. -/
theorem lowerChar_of_isAsciiLetter {c : Char} (h : isAsciiLetter c = true) :
    c ≠ '\u0130' ∧ c ≠ '\u03a3' ∧ lowerChar c = asciiLower c :=
  of_isAsciiLetter (P := fun c => c ≠ '\u0130' ∧ c ≠ '\u03a3' ∧ lowerChar c = asciiLower c)
    (by decide +kernel) h

/-! ## Texts that differ in case -/

theorem meetsCased_congr {cs ds : List Char} (h : SameLetters cs ds) :
    meetsCased cs = meetsCased ds := by
  induction h with
  | nil => rfl
  | @cons c d cs ds hcd hrest ih =>
    unfold meetsCased at ih ⊢
    rcases eq_or_isAsciiLetter hcd with rfl | ⟨hc, hd⟩
    · rw [List.dropWhile_cons, List.dropWhile_cons]
      split
      · exact ih
      · rfl
    · rw [List.dropWhile_cons_of_neg (by simp [not_passedOver_of_isAsciiLetter hc]),
        List.dropWhile_cons_of_neg (by simp [not_passedOver_of_isAsciiLetter hd])]
      exact (isCased_of_isAsciiLetter hc).trans (isCased_of_isAsciiLetter hd).symm

theorem endsWord_congr {before after before' after' : List Char}
    (hbefore : SameLetters before before') (hafter : SameLetters after after') :
    endsWord before after = endsWord before' after' := by
  unfold endsWord
  rw [meetsCased_congr hbefore, meetsCased_congr hafter]

/-- **The case of ASCII letters does not show in small letters.** -/
theorem lower_congr {cs ds : List Char} (h : SameLetters cs ds) : lower cs = lower ds := by
  have hgo (before before' : List Char) (hbefore : SameLetters before before') :
      lower.go before cs = lower.go before' ds := by
    induction h generalizing before before' with
    | nil => rfl
    | @cons c d cs ds hcd hrest ih =>
      rw [lower.go, lower.go, ih (c :: before) (d :: before') (.cons hcd hbefore)]
      rcases eq_or_isAsciiLetter hcd with rfl | ⟨hc, hd⟩
      · rw [endsWord_congr hbefore hrest]
      · obtain ⟨hdot, hsigma, hlower⟩ := lowerChar_of_isAsciiLetter hc
        obtain ⟨hdot', hsigma', hlower'⟩ := lowerChar_of_isAsciiLetter hd
        rw [if_neg hdot, if_neg hsigma, if_neg hdot', if_neg hsigma', hlower, hlower', hcd]
  exact hgo [] [] .nil

/-! ## Letters beyond ASCII -/

/-- Of the letters beyond ASCII only the Kelvin sign has its small letter in ASCII. -/
theorem smallLetterRuns_beyondAscii : (smallLetterRuns.all fun r =>
    r == (0x212a, 0x212a, 1, -8383) || decide (128 ≤ (r.1 : Int) + r.2.2.2)) = true := by
  decide +kernel

/-- A letter beyond ASCII stays beyond it in small letters, unless it is the Kelvin sign. -/
theorem toNat_lowerChar {c : Char} (hascii : 128 ≤ c.toNat) (hkelvin : c ≠ '\u212a') :
    128 ≤ (lowerChar c).toNat ∨ (lowerChar c).toNat = 0 := by
  unfold lowerChar
  dsimp only
  rw [if_neg (by omega)]
  split
  · next r hr =>
    have hrange := List.find?_some hr
    have hrun := List.all_eq_true.mp smallLetterRuns_beyondAscii r (List.mem_of_find?_eq_some hr)
    simp only [Bool.and_eq_true, Bool.or_eq_true, decide_eq_true_eq, beq_iff_eq] at hrange hrun
    rcases hrun with rfl | hrun
    · -- this run holds the Kelvin sign alone
      have hsign : c.toNat = 0x212a := Nat.le_antisymm hrange.1.2 hrange.1.1
      exact absurd (Char.toNat_inj.mp hsign) hkelvin
    · refine (toNat_ofNat_cases (Int.toNat (c.toNat + r.2.2.2))).imp_left fun hchar => ?_
      omega
  · exact .inl hascii

end Placard.Text
