import Placard.Json.Reader
import Placard.Proofs.Text.Blank
import Placard.Proofs.Text.Digit

/-!
# Decimal numbers in JSON

A number is written in parts: a sign, digits, and digits of a fraction and of an exponent. The parts
are found again when it is read (`number?_text`), whatever follows that cannot be a part of a
number. An integer has neither fraction nor exponent (`number?_intText`).
-/

namespace Placard.Json

open Text Number Data

/-- Whether a text goes on with nothing that could belong to a number before it. -/
def Stops (rest : List Char) : Prop :=
  ∀ c ∈ rest.head?, isAsciiDigit c = false ∧ c ≠ '.' ∧ c ≠ 'e' ∧ c ≠ 'E'

theorem stops_nil : Stops [] :=
  fun _ h => nomatch h

theorem stops_cons {c : Char} (h : isAsciiDigit c = false ∧ c ≠ '.' ∧ c ≠ 'e' ∧ c ≠ 'E')
    (cs : List Char) : Stops (c :: cs) := by
  rintro _ ⟨⟩
  exact h

/-! ## Digits -/

/-- The text of digits. -/
abbrev digitText (ds : List Nat) : List Char :=
  ds.map digitChar

theorem asciiDigit?_of_mem {ds : List Nat} (h : ∀ d ∈ ds, d < 10) :
    ∀ c ∈ digitText ds, isAsciiDigit c = true := by
  intro c hc
  obtain ⟨d, hd, rfl⟩ := List.mem_map.mp hc
  rw [isAsciiDigit, asciiDigit?_digitChar d (h d hd)]
  rfl

theorem filterMap_digitText {ds : List Nat} (h : ∀ d ∈ ds, d < 10) :
    (digitText ds).filterMap asciiDigit? = ds := by
  induction ds with
  | nil => rfl
  | cons d ds ih =>
    rw [List.forall_mem_cons] at h
    have hcons : digitText (d :: ds) = digitChar d :: digitText ds := rfl
    rw [hcons, List.filterMap_cons, asciiDigit?_digitChar d h.1, ih h.2]

/-- Digits are read up to what is no digit. -/
theorem spanDigits_append {ds : List Nat} (h : ∀ d ∈ ds, d < 10) {rest : List Char}
    (hrest : ∀ c ∈ rest.head?, isAsciiDigit c = false) :
    spanDigits (digitText ds ++ rest) = (ds, rest) := by
  have htake := takeWhile_append (asciiDigit?_of_mem h) hrest
  have hdrop := dropLeading_append (asciiDigit?_of_mem h) hrest
  unfold dropLeading at hdrop
  rw [spanDigits, htake, hdrop, filterMap_digitText h]

/-! ## Parts of numbers -/

/-- Whether digits are those of a whole number without superfluous zeros. -/
def IsWhole (ds : List Nat) : Prop :=
  (∀ d ∈ ds, d < 10) ∧ (ds = [0] ∨ ∃ d more, ds = d :: more ∧ d ≠ 0)

theorem digitChar_ne_zero : ∀ d < 10, d ≠ 0 → digitChar d ≠ '0' := by
  decide

theorem wholeDigits?_append {ds : List Nat} (h : IsWhole ds) {rest : List Char}
    (hrest : ∀ c ∈ rest.head?, isAsciiDigit c = false) :
    wholeDigits? (digitText ds ++ rest) = some (ds, rest) := by
  obtain ⟨hdigits, rfl | ⟨d, more, rfl, hd⟩⟩ := h
  · rfl
  · have hspan := spanDigits_append hdigits hrest
    have hne := digitChar_ne_zero d (hdigits d List.mem_cons_self) hd
    unfold wholeDigits?
    split
    · next h => exact absurd (List.cons.inj h).1 hne
    · rw [hspan]

theorem fractionDigits_append {ds : List Nat} (h : ∀ d ∈ ds, d < 10) (hne : ds ≠ [])
    {rest : List Char} (hrest : ∀ c ∈ rest.head?, isAsciiDigit c = false) :
    fractionDigits ('.' :: digitText ds ++ rest) = (ds, rest) := by
  rw [List.cons_append, fractionDigits, spanDigits_append h hrest]
  obtain ⟨d, more, rfl⟩ := List.exists_cons_of_ne_nil hne
  rfl

theorem fractionDigits_of_head {rest : List Char} (hrest : ∀ c ∈ rest.head?, c ≠ '.') :
    fractionDigits rest = ([], rest) := by
  unfold fractionDigits
  split
  · exact absurd rfl (hrest '.' rfl)
  · rfl

/-- The sign of an exponent. -/
def signOf (negative : Bool) : Char :=
  if negative then '-' else '+'

theorem exponentPart_append {ds : List Nat} (h : ∀ d ∈ ds, d < 10) (hne : ds ≠ [])
    (negative : Bool) {rest : List Char} (hrest : ∀ c ∈ rest.head?, isAsciiDigit c = false) :
    exponentPart ('e' :: signOf negative :: digitText ds ++ rest) =
      (some (Double.signed negative (ofDigits 10 ds)), rest) := by
  have hsign : spanSign (signOf negative :: (digitText ds ++ rest)) =
      (negative, digitText ds ++ rest) := by
    cases negative <;> rfl
  rw [List.cons_append, List.cons_append, exponentPart, if_pos (by decide), hsign]
  dsimp only
  rw [spanDigits_append h hrest]
  obtain ⟨d, more, rfl⟩ := List.exists_cons_of_ne_nil hne
  rfl

theorem exponentPart_of_head {rest : List Char} (hrest : ∀ c ∈ rest.head?, c ≠ 'e' ∧ c ≠ 'E') :
    exponentPart rest = (none, rest) := by
  cases rest with
  | nil => rfl
  | cons c cs =>
    have hc := hrest c rfl
    rw [exponentPart, if_neg]
    simpa using hc

/-! ## Numbers -/

/-- A number with a fraction or an exponent, in parts. -/
structure Parts where
  negative : Bool
  whole : List Nat
  fraction : List Nat
  exponent : Option (Bool × List Nat)

/-- The text of a sign, unless there is none. -/
def minusText (negative : Bool) : List Char :=
  if negative then ['-'] else []

namespace Parts

/-- The text of the fraction, if there is one. -/
def fractionText (p : Parts) : List Char :=
  if p.fraction = [] then [] else '.' :: digitText p.fraction

/-- The text of the exponent, if there is one. -/
def exponentText (p : Parts) : List Char :=
  p.exponent.elim [] fun e => 'e' :: signOf e.1 :: digitText e.2

/-- The text of the number. -/
def text (p : Parts) : List Char :=
  minusText p.negative ++ digitText p.whole ++ p.fractionText ++ p.exponentText

/-- The number that the parts write. -/
def scientific (p : Parts) : Scientific where
  negative := p.negative
  digits := ofDigits 10 (p.whole ++ p.fraction)
  exponent := p.exponent.elim 0 (fun e => Double.signed e.1 (ofDigits 10 e.2)) - p.fraction.length

/-- Whether the parts are digits, and make a number that is not an integer. -/
structure IsRegular (p : Parts) : Prop where
  whole : IsWhole p.whole
  fraction : ∀ d ∈ p.fraction, d < 10
  exponent : ∀ e ∈ p.exponent, (∀ d ∈ e.2, d < 10) ∧ e.2 ≠ []
  broken : p.fraction ≠ [] ∨ p.exponent ≠ none

variable {p : Parts} {rest : List Char}

theorem exponentPart_text (hp : p.IsRegular) (hrest : Stops rest) :
    exponentPart (p.exponentText ++ rest) =
      (p.exponent.map fun e => Double.signed e.1 (ofDigits 10 e.2), rest) := by
  unfold exponentText
  cases h : p.exponent with
  | none => exact exponentPart_of_head fun c hc => (hrest c hc).2.2
  | some e =>
    obtain ⟨hdigits, hne⟩ := hp.exponent e h
    exact exponentPart_append hdigits hne e.1 fun c hc => (hrest c hc).1

/-- An exponent ends the digits before it. -/
theorem head_exponentText (hrest : Stops rest) :
    ∀ c ∈ (p.exponentText ++ rest).head?, isAsciiDigit c = false ∧ c ≠ '.' := by
  unfold exponentText
  cases p.exponent with
  | none => exact fun c hc => ⟨(hrest c hc).1, (hrest c hc).2.1⟩
  | some e =>
    rintro _ ⟨⟩
    decide

theorem fractionDigits_text (hp : p.IsRegular) (hrest : Stops rest) :
    fractionDigits (p.fractionText ++ (p.exponentText ++ rest)) =
      (p.fraction, p.exponentText ++ rest) := by
  have hhead := head_exponentText (p := p) hrest
  unfold fractionText
  split
  · next h =>
    rw [h]
    exact fractionDigits_of_head fun c hc => (hhead c hc).2
  · next h => exact fractionDigits_append hp.fraction h fun c hc => (hhead c hc).1

theorem wholeDigits?_text (hp : p.IsRegular) (hrest : Stops rest) :
    wholeDigits? (digitText p.whole ++ (p.fractionText ++ (p.exponentText ++ rest))) =
      some (p.whole, p.fractionText ++ (p.exponentText ++ rest)) := by
  refine wholeDigits?_append hp.whole ?_
  unfold fractionText
  split
  · exact fun c hc => (head_exponentText hrest c hc).1
  · rintro _ ⟨⟩
    decide

end Parts

/-- The number behind its sign. -/
def unsigned? (negative : Bool) (cs : List Char) : Option (Value × List Char) :=
  match wholeDigits? cs with
  | none => none
  | some (whole, rest) =>
    let (fraction, rest) := fractionDigits rest
    let (exponent, rest) := exponentPart rest
    if fraction.isEmpty && exponent.isNone then
      some (.int (Double.signed negative (ofDigits 10 whole)), rest)
    else
      let written : Scientific :=
        { negative, digits := ofDigits 10 (whole ++ fraction)
          exponent := exponent.getD 0 - fraction.length }
      some (.float written.toDouble, rest)

theorem head_digitText {ds : List Nat} (h : IsWhole ds) (cs : List Char) :
    ∃ c more, digitText ds ++ cs = c :: more ∧ isAsciiDigit c = true := by
  obtain ⟨hdigits, rfl | ⟨d, more, rfl, -⟩⟩ := h
  · exact ⟨'0', cs, rfl, by decide⟩
  · exact ⟨digitChar d, digitText more ++ cs, rfl, asciiDigit?_of_mem hdigits _ List.mem_cons_self⟩

/-- A number is its sign and the digits behind it. -/
theorem number?_minusText (negative : Bool) {ds : List Nat} (h : IsWhole ds) (cs : List Char) :
    number? (minusText negative ++ (digitText ds ++ cs)) =
      unsigned? negative (digitText ds ++ cs) := by
  obtain ⟨c, more, heq, hc⟩ := head_digitText h cs
  have hminus : c ≠ '-' := by
    rintro rfl
    cases hc
  rw [number?.eq_def]
  split
  next hsign =>
  cases negative with
  | true =>
    obtain ⟨rfl, rfl⟩ := Prod.mk.inj hsign
    rfl
  | false =>
    rw [minusText, if_neg (by decide), List.nil_append, heq] at hsign
    split at hsign
    · next h => exact absurd (List.cons.inj h).1 hminus
    · obtain ⟨rfl, rfl⟩ := Prod.mk.inj hsign
      rw [heq]
      rfl

/-- **Broken numbers are read back.** -/
theorem number?_text {p : Parts} (hp : p.IsRegular) {rest : List Char} (hrest : Stops rest) :
    number? (p.text ++ rest) = some (.float p.scientific.toDouble, rest) := by
  have htext : p.text ++ rest = minusText p.negative ++
      (digitText p.whole ++ (p.fractionText ++ (p.exponentText ++ rest))) := by
    simp only [Parts.text, List.append_assoc]
  rw [htext, number?_minusText p.negative hp.whole, unsigned?, Parts.wholeDigits?_text hp hrest]
  dsimp only
  rw [Parts.fractionDigits_text hp hrest]
  dsimp only
  rw [Parts.exponentPart_text hp hrest]
  dsimp only
  rw [if_neg]
  · unfold Parts.scientific
    cases p.exponent <;> rfl
  · rcases hp.broken with h | h
    · simp [h]
    · cases hexponent : p.exponent with
      | none => exact absurd hexponent h
      | some e => simp

theorem head_digitsOf {n : Nat} (hn : n ≠ 0) : ∃ d more, digitsOf n = d :: more ∧ d ≠ 0 := by
  fun_induction digitsOf n with
  | case1 => exact absurd rfl hn
  | case2 n h ih =>
    by_cases hfew : n / 10 = 0
    · rw [hfew, digitsOf, if_pos rfl]
      exact ⟨n % 10, [], rfl, by omega⟩
    · obtain ⟨d, more, heq, hd⟩ := ih hfew
      exact ⟨d, more ++ [n % 10], by rw [heq, List.cons_append], hd⟩

/-- The digits of a number are those of its text. -/
theorem exists_isWhole_natText (n : Nat) :
    ∃ ds, IsWhole ds ∧ natText n = digitText ds ∧ ofDigits 10 ds = n := by
  unfold natText
  split
  · next h => exact ⟨[0], ⟨by simp, .inl rfl⟩, rfl, h.symm⟩
  · next h =>
    exact ⟨digitsOf n, ⟨fun d => lt_of_mem_digitsOf, .inr (head_digitsOf h)⟩, rfl,
      ofDigits_digitsOf n⟩

theorem signed_natAbs (i : Int) : Double.signed (decide (i < 0)) i.natAbs = i := by
  unfold Double.signed
  by_cases h : i < 0
  · rw [decide_eq_true h, if_pos rfl]
    omega
  · rw [decide_eq_false h, if_neg (by decide)]
    omega

/-- **Integers are read back.** -/
theorem number?_intText (i : Int) {rest : List Char} (hrest : Stops rest) :
    number? (intText i ++ rest) = some (.int i, rest) := by
  obtain ⟨ds, hds, htext, hvalue⟩ := exists_isWhole_natText i.natAbs
  have hint : intText i = minusText (decide (i < 0)) ++ digitText ds := by
    unfold intText minusText
    rw [htext]
    split <;> simp_all
  rw [hint, List.append_assoc, number?_minusText _ hds, unsigned?,
    wholeDigits?_append hds fun c hc => (hrest c hc).1]
  dsimp only
  rw [fractionDigits_of_head fun c hc => (hrest c hc).2.1]
  dsimp only
  rw [exponentPart_of_head fun c hc => (hrest c hc).2.2]
  dsimp only
  rw [hvalue, signed_natAbs]
  rfl

end Placard.Json
