import Placard.Json.Reader
import Placard.Json.Writer

/-!
# Strings written and read back

A string is written in its quotes with an escape for every character that is not printable ASCII,
and reading gives it back (`string_writeString`). A character beyond U+FFFF is written as two
halves, and the reader joins them only where a high half meets a low one, so no escape changes the
meaning of its neighbours.
-/

namespace Placard.Json

open Placard.Text

/-! ## Numbers of characters -/

theorem hexValue?_hexChar : ∀ d < 16, hexValue? (hexChar d) = some d := by
  decide

/-- Four digits read back as the number they were written for. -/
theorem fourHex?_hexText {n : Nat} (hn : n < 0x10000) (rest : List Char) :
    fourHex? (hexText 4 n ++ rest) = some (n, rest) := by
  have hdigit (m : Nat) : hexValue? (hexChar (m % 16)) = some (m % 16) :=
    hexValue?_hexChar _ (Nat.mod_lt m (by decide))
  have hvalue : ofDigits 16 [n / 16 / 16 / 16 % 16, n / 16 / 16 % 16, n / 16 % 16, n % 16] = n := by
    simp only [ofDigits, List.foldl_cons, List.foldl_nil]
    omega
  change fourHex? (hexChar (n / 16 / 16 / 16 % 16) :: hexChar (n / 16 / 16 % 16) ::
    hexChar (n / 16 % 16) :: hexChar (n % 16) :: rest) = _
  simp only [fourHex?, hdigit, hvalue]

/-! ## Escapes -/

/-- What is read behind `\u` and four digits that write a number. -/
def escapeOf (high : Nat) (rest : List Char) : Reading Char :=
  match rest with
  | '\\' :: 'u' :: more =>
    if isHighHalf high && 5 ≤ more.length then
      match fourHex? more with
      | none => refuse .unicodeEscape (more.length + 1)
      | some (low, after) =>
        if isLowHalf low then .ok (joinHalves high low, after) else .ok (charOf high, rest)
    else .ok (charOf high, rest)
  | _ => .ok (charOf high, rest)

theorem unicodeEscape_eq {n : Nat} (hn : n < 0x10000) {rest : List Char} (hrest : rest ≠ []) :
    unicodeEscape (hexText 4 n ++ rest) = escapeOf n rest := by
  have hfour := fourHex?_hexText hn rest
  obtain ⟨r, rs, rfl⟩ := List.exists_cons_of_ne_nil hrest
  unfold unicodeEscape
  rw [hfour]
  rfl

/-- A number that is no half is read as its character. -/
theorem unicodeEscape_hexText {n : Nat} (hn : n < 0x10000) (hhigh : isHighHalf n = false)
    {rest : List Char} (hrest : rest ≠ []) :
    unicodeEscape (hexText 4 n ++ rest) = .ok (charOf n, rest) := by
  rw [unicodeEscape_eq hn hrest]
  unfold escapeOf
  rw [hhigh]
  split <;> rfl

/-- Two halves are read as one character. -/
theorem unicodeEscape_halves {high low : Nat} (hhigh : isHighHalf high = true)
    (hlow : isLowHalf low = true) {rest : List Char} (hrest : rest ≠ []) :
    unicodeEscape (hexText 4 high ++ (numericEscape low ++ rest)) =
      .ok (joinHalves high low, rest) := by
  have hbounds : high < 0x10000 ∧ low < 0x10000 := by
    simp only [isHighHalf, isLowHalf, Bool.and_eq_true, decide_eq_true_eq] at hhigh hlow
    omega
  have hlength : 5 ≤ (hexText 4 low ++ rest).length := by
    have := List.length_pos_iff.mpr hrest
    rw [List.length_append]
    change 5 ≤ 4 + rest.length
    omega
  rw [unicodeEscape_eq hbounds.1 (by simp [numericEscape])]
  change (if isHighHalf high && 5 ≤ (hexText 4 low ++ rest).length then
    match fourHex? (hexText 4 low ++ rest) with
    | none => _
    | some (low, after) => _ else _) = _
  rw [hhigh, decide_eq_true hlength, fourHex?_hexText hbounds.2]
  simp only [Bool.and_self, if_true, hlow]

/-! ## Characters -/

theorem toNat_bounds (c : Char) : c.toNat < 0xd800 ∨ 0xdfff < c.toNat ∧ c.toNat < 0x110000 :=
  c.valid

theorem charOf_toNat (c : Char) : charOf c.toNat = c := by
  have hhalf : (isHighHalf c.toNat || isLowHalf c.toNat) = false := by
    have := toNat_bounds c
    simp only [isHighHalf, isLowHalf, Bool.or_eq_false_iff, Bool.and_eq_false_iff,
      decide_eq_false_iff_not]
    omega
  rw [charOf, hhalf]
  exact Char.ofNat_toNat c

/-- An escape of four digits is read as its character. -/
theorem unicodeEscape_toNat {c : Char} (hc : c.toNat < 0x10000) {rest : List Char}
    (hrest : rest ≠ []) : unicodeEscape (hexText 4 c.toNat ++ rest) = .ok (c, rest) := by
  have hhigh : isHighHalf c.toNat = false := by
    have := toNat_bounds c
    simp only [isHighHalf, Bool.and_eq_false_iff, decide_eq_false_iff_not]
    omega
  rw [unicodeEscape_hexText hc hhigh hrest, charOf_toNat]

/-- The two halves of a character are read as the character. -/
theorem unicodeEscape_toNat_halves {c : Char} (hc : 0x10000 ≤ c.toNat) {rest : List Char}
    (hrest : rest ≠ []) :
    unicodeEscape (hexText 4 (0xd800 + (c.toNat - 0x10000) / 0x400) ++
      (numericEscape (0xdc00 + (c.toNat - 0x10000) % 0x400) ++ rest)) = .ok (c, rest) := by
  have hbound := toNat_bounds c
  have hhigh : isHighHalf (0xd800 + (c.toNat - 0x10000) / 0x400) = true := by
    simp only [isHighHalf, Bool.and_eq_true, decide_eq_true_eq]
    omega
  have hlow : isLowHalf (0xdc00 + (c.toNat - 0x10000) % 0x400) = true := by
    simp only [isLowHalf, Bool.and_eq_true, decide_eq_true_eq]
    omega
  have hjoin : joinHalves (0xd800 + (c.toNat - 0x10000) / 0x400)
      (0xdc00 + (c.toNat - 0x10000) % 0x400) = c := by
    have hsum : 0x10000 + (0xd800 + (c.toNat - 0x10000) / 0x400 - 0xd800) * 0x400 +
        (0xdc00 + (c.toNat - 0x10000) % 0x400 - 0xdc00) = c.toNat := by
      omega
    rw [joinHalves, hsum, Char.ofNat_toNat]
  rw [unicodeEscape_halves hhigh hlow hrest, hjoin]

/-! ## Strings -/

section

variable (start fuel : Nat) (seen : List Char)

theorem stringRest_numeric {cs rest : List Char} {c : Char}
    (h : unicodeEscape cs = .ok (c, rest)) :
    stringRest start (fuel + 1) seen ('\\' :: 'u' :: cs) =
      stringRest start fuel (c :: seen) rest := by
  rw [stringRest, h]

theorem stringRest_plain {c : Char} (hquote : c ≠ '"') (hslash : c ≠ '\\') (hc : 0x1f < c.toNat)
    (rest : List Char) :
    stringRest start (fuel + 1) seen (c :: rest) = stringRest start fuel (c :: seen) rest := by
  rw [stringRest.eq_def]
  split
  · next h => cases h
  · next fuel' h =>
    obtain rfl := Nat.succ.inj h
    split
    · next h => cases h
    · next h => exact absurd (List.cons.inj h).1 hquote
    · next h => exact absurd (List.cons.inj h).1 hslash
    · next h => exact absurd (List.cons.inj h).1 hslash
    · next h => exact absurd (List.cons.inj h).1 hslash
    · next h =>
      obtain ⟨rfl, rfl⟩ := List.cons.inj h
      rw [if_neg (Nat.not_le.mpr hc)]

/-- One step reads one written character. -/
theorem stringRest_escapeChar (c : Char) {rest : List Char} (hrest : rest ≠ []) :
    stringRest start (fuel + 1) seen (escapeChar c ++ rest) =
      stringRest start fuel (c :: seen) rest := by
  unfold escapeChar
  split
  · next h => rw [h]; rfl
  split
  · next h => rw [h]; rfl
  split
  · next h => rw [h]; rfl
  split
  · next h => rw [h]; rfl
  split
  · next h => rw [h]; rfl
  split
  · next h => rw [h]; rfl
  split
  · next h => rw [h]; rfl
  next hquote hslash _ _ _ _ _ =>
  dsimp only
  split
  · next hprintable =>
    rw [Bool.and_eq_true, decide_eq_true_eq, decide_eq_true_eq] at hprintable
    exact stringRest_plain start fuel seen hquote hslash (by omega) rest
  split
  · next hshort => exact stringRest_numeric start fuel seen (unicodeEscape_toNat hshort hrest)
  · next hlong =>
    rw [List.append_assoc]
    exact stringRest_numeric start fuel seen
      (unicodeEscape_toNat_halves (Nat.not_lt.mp hlong) hrest)

/-- As many steps read a written string up to its closing quote. -/
theorem stringRest_flatMap (cs : List Char) (rest : List Char) :
    stringRest start (cs.length + fuel + 1) seen (cs.flatMap escapeChar ++ '"' :: rest) =
      .ok (seen.reverse ++ cs, rest) := by
  induction cs generalizing seen with
  | nil =>
    rw [List.flatMap_nil, List.nil_append, stringRest, List.append_nil]
  | cons c cs ih =>
    have hfuel : (c :: cs).length + fuel + 1 = cs.length + fuel + 1 + 1 := by
      rw [List.length_cons]
      omega
    rw [hfuel, List.flatMap_cons, List.append_assoc, stringRest_escapeChar _ _ _ _ (by simp), ih]
    simp

end

theorem length_le_flatMap_escapeChar (cs : List Char) :
    cs.length ≤ (cs.flatMap escapeChar).length := by
  induction cs with
  | nil => exact Nat.le_refl 0
  | cons c cs ih =>
    have hne : escapeChar c ≠ [] := by
      unfold escapeChar
      dsimp only
      repeat' split
      all_goals exact List.cons_ne_nil _ _
    have := List.length_pos_iff.mpr hne
    rw [List.flatMap_cons, List.length_cons, List.length_append]
    omega

/-- **Strings are read back.** Behind its opening quote a written string is read as the string. -/
theorem string_flatMap (s : String) (rest : List Char) :
    string (s.toList.flatMap escapeChar ++ '"' :: rest) = .ok (s, rest) := by
  have hlength := length_le_flatMap_escapeChar s.toList
  unfold string
  generalize hn : (s.toList.flatMap escapeChar ++ '"' :: rest).length = n
  rw [List.length_append, List.length_cons] at hn
  have hfuel : n + 1 = s.toList.length + (n - s.toList.length) + 1 := by omega
  rw [hfuel, stringRest_flatMap]
  simp [Except.map]

end Placard.Json
