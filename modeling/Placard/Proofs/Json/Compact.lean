import Placard.Proofs.Json.Double
import Placard.Proofs.Json.Quoted

/-!
# Compact JSON

White space in JSON means something inside strings only. What is written has none outside of them,
and consists of printable ASCII (`IsCompact`): this holds of the written strings and numbers, and of
what is put together from compact parts.
-/

namespace Placard.Json

open Text Number Data

/-- The characters of a JSON text that stand outside its strings; the flag says whether the text
begins inside of one. -/
def outside : Bool → List Char → List Char
  | _, [] => []
  | false, '"' :: cs => outside true cs
  | false, c :: cs => c :: outside false cs
  | true, '"' :: cs => outside false cs
  | true, '\\' :: _ :: cs => outside true cs
  | true, _ :: cs => outside true cs

/-- Whether a character is printable in ASCII. -/
def IsPrintable (c : Char) : Prop :=
  32 ≤ c.toNat ∧ c.toNat < 127

/-- Whether a text is a stretch of JSON between whole strings, without white space outside of them
and with printable characters of ASCII alone. -/
structure IsCompact (cs : List Char) : Prop where
  printable : ∀ c ∈ cs, IsPrintable c
  tight : ∃ marks, (∀ c ∈ marks, isSpace c = false) ∧
    ∀ rest, outside false (cs ++ rest) = marks ++ outside false rest

theorem isCompact_nil : IsCompact [] :=
  ⟨fun _ h => absurd h List.not_mem_nil, [], fun _ h => absurd h List.not_mem_nil, fun _ => rfl⟩

theorem IsCompact.append {cs ds : List Char} (hcs : IsCompact cs) (hds : IsCompact ds) :
    IsCompact (cs ++ ds) := by
  obtain ⟨marks, hmarks, hout⟩ := hcs.tight
  obtain ⟨marks', hmarks', hout'⟩ := hds.tight
  refine ⟨List.forall_mem_append.mpr ⟨hcs.printable, hds.printable⟩, marks ++ marks',
    List.forall_mem_append.mpr ⟨hmarks, hmarks'⟩, fun rest => ?_⟩
  rw [List.append_assoc, hout, hout', List.append_assoc]

/-- No character of a compact text outside of strings is white space. -/
theorem IsCompact.outside {cs : List Char} (h : IsCompact cs) :
    ∀ c ∈ outside false cs, isSpace c = false := by
  obtain ⟨marks, hmarks, hout⟩ := h.tight
  have hall := hout []
  rw [List.append_nil, Json.outside, List.append_nil] at hall
  rwa [hall]

/-! ## Texts without strings -/

/-- Whether a character is printable and neither white space nor a quote. -/
def IsMark (c : Char) : Prop :=
  33 ≤ c.toNat ∧ c.toNat < 127 ∧ c ≠ '"'

instance (c : Char) : Decidable (IsMark c) :=
  inferInstanceAs (Decidable (_ ∧ _))

theorem IsMark.isSpace {c : Char} (h : IsMark c) : isSpace c = false := by
  have hne (d : Char) (hd : d.toNat < 33) : (c == d) = false := by
    rw [beq_eq_false_iff_ne]
    rintro rfl
    exact absurd h.1 (by omega)
  unfold Json.isSpace
  rw [hne ' ' (by decide), hne '\t' (by decide), hne '\n' (by decide), hne '\r' (by decide)]
  rfl

theorem isMark_of_all {cs : List Char} (h : cs.all (fun c => decide (IsMark c)) = true) :
    ∀ c ∈ cs, IsMark c :=
  forall_mem_of_all h

theorem isCompact_of_isMark {cs : List Char} (h : ∀ c ∈ cs, IsMark c) : IsCompact cs := by
  refine ⟨fun c hc => ⟨by have := (h c hc).1; omega, (h c hc).2.1⟩, cs,
    fun c hc => (h c hc).isSpace, fun rest => ?_⟩
  induction cs with
  | nil => rfl
  | cons c cs ih =>
    rw [List.forall_mem_cons] at h
    rw [List.cons_append, outside.eq_3 _ _ h.1.2.2, ih h.2]
    rfl

/-! ## Strings -/

/-- Whether a text is a stretch of the inside of a string, up to no closing quote. -/
structure IsInner (cs : List Char) : Prop where
  printable : ∀ c ∈ cs, IsPrintable c
  passed : ∀ rest, Json.outside true (cs ++ rest) = Json.outside true rest

theorem IsInner.append {cs ds : List Char} (hcs : IsInner cs) (hds : IsInner ds) :
    IsInner (cs ++ ds) := by
  refine ⟨List.forall_mem_append.mpr ⟨hcs.printable, hds.printable⟩, fun rest => ?_⟩
  rw [List.append_assoc, hcs.passed, hds.passed]

theorem isInner_backslash {d : Char} (hd : IsPrintable d) : IsInner ['\\', d] := by
  refine ⟨fun c hc => ?_, fun rest => rfl⟩
  rcases List.mem_pair.mp hc with rfl | rfl
  · exact ⟨by decide, by decide⟩
  · exact hd

theorem isInner_singleton {c : Char} (hc : IsPrintable c) (hquote : c ≠ '"') (hslash : c ≠ '\\') :
    IsInner [c] :=
  ⟨List.forall_mem_singleton.mpr hc, fun rest =>
    outside.eq_6 c rest hquote fun _ _ heq _ => hslash heq⟩

theorem isInner_hexChar :
    ∀ d < 16, IsPrintable (hexChar d) ∧ hexChar d ≠ '"' ∧ hexChar d ≠ '\\' := by
  unfold IsPrintable
  decide

theorem isInner_hexText (width n : Nat) : IsInner (hexText width n) := by
  induction width generalizing n with
  | zero => exact ⟨fun _ h => absurd h List.not_mem_nil, fun _ => rfl⟩
  | succ width ih =>
    obtain ⟨hprintable, hquote, hslash⟩ := isInner_hexChar (n % 16) (Nat.mod_lt n (by decide))
    exact (ih (n / 16)).append (isInner_singleton hprintable hquote hslash)

theorem isInner_numericEscape (n : Nat) : IsInner (numericEscape n) :=
  (isInner_backslash (d := 'u') ⟨by decide, by decide⟩).append (isInner_hexText 4 n)

theorem isInner_escapeChar (c : Char) : IsInner (escapeChar c) := by
  unfold escapeChar
  split
  · exact isInner_backslash ⟨by decide, by decide⟩
  split
  · exact isInner_backslash ⟨by decide, by decide⟩
  split
  · exact isInner_backslash ⟨by decide, by decide⟩
  split
  · exact isInner_backslash ⟨by decide, by decide⟩
  split
  · exact isInner_backslash ⟨by decide, by decide⟩
  split
  · exact isInner_backslash ⟨by decide, by decide⟩
  split
  · exact isInner_backslash ⟨by decide, by decide⟩
  next hquote hslash _ _ _ _ _ =>
  dsimp only
  split
  · next h =>
    rw [Bool.and_eq_true, decide_eq_true_eq, decide_eq_true_eq] at h
    exact isInner_singleton h hquote hslash
  split
  · exact isInner_numericEscape _
  · exact (isInner_numericEscape _).append (isInner_numericEscape _)

theorem isInner_flatMap (cs : List Char) : IsInner (cs.flatMap escapeChar) := by
  induction cs with
  | nil => exact ⟨fun _ h => absurd h List.not_mem_nil, fun _ => rfl⟩
  | cons c cs ih => exact (isInner_escapeChar c).append ih

/-- **Strings are compact**, whatever characters they write. -/
theorem isCompact_writeString (s : String) : IsCompact (writeString s) := by
  have hinner := isInner_flatMap s.toList
  have hquote : IsPrintable '"' := ⟨by decide, by decide⟩
  refine ⟨List.forall_mem_cons.mpr ⟨hquote, List.forall_mem_append.mpr
    ⟨hinner.printable, List.forall_mem_singleton.mpr hquote⟩⟩, [],
    fun _ h => absurd h List.not_mem_nil, fun rest => ?_⟩
  rw [writeString, List.append_assoc, List.cons_append, outside, hinner.passed]
  rfl

/-! ## Numbers -/

theorem isMark_digitText {ds : List Nat} (h : ∀ d ∈ ds, d < 10) :
    ∀ c ∈ digitText ds, IsMark c := by
  intro c hc
  obtain ⟨d, hd, rfl⟩ := List.mem_map.mp hc
  have hall : ∀ d < 10, IsMark (digitChar d) := by decide
  exact hall d (h d hd)

theorem isMark_minusText (negative : Bool) : ∀ c ∈ minusText negative, IsMark c := by
  cases negative
  · exact fun _ h => absurd h List.not_mem_nil
  · exact List.forall_mem_singleton.mpr (by decide)

theorem isMark_intText (i : Int) : ∀ c ∈ intText i, IsMark c := by
  obtain ⟨ds, hds, htext, -⟩ := exists_isWhole_natText i.natAbs
  have hdigits := isMark_digitText hds.1
  rw [← htext] at hdigits
  unfold intText
  split
  · exact List.forall_mem_cons.mpr ⟨by decide, hdigits⟩
  · exact hdigits

theorem Parts.isMark_text {p : Parts} (hp : p.IsRegular) : ∀ c ∈ p.text, IsMark c := by
  have hfraction : ∀ c ∈ p.fractionText, IsMark c := by
    unfold fractionText
    split
    · exact fun _ h => absurd h List.not_mem_nil
    · exact List.forall_mem_cons.mpr ⟨by decide, isMark_digitText hp.fraction⟩
  have hexponent : ∀ c ∈ p.exponentText, IsMark c := by
    unfold exponentText
    cases h : p.exponent with
    | none => exact fun _ h => absurd h List.not_mem_nil
    | some e =>
      have hsign : IsMark (signOf e.1) := by
        cases e.1 <;> decide
      exact List.forall_mem_cons.mpr ⟨by decide, List.forall_mem_cons.mpr
        ⟨hsign, isMark_digitText (hp.exponent e h).1⟩⟩
  exact List.forall_mem_append.mpr ⟨List.forall_mem_append.mpr ⟨List.forall_mem_append.mpr
    ⟨isMark_minusText p.negative, isMark_digitText hp.whole.1⟩, hfraction⟩, hexponent⟩

theorem writeDouble_finite (s : Bool) (m : Nat) (e : Int) :
    writeDouble (.finite s m e) = numberText (.finite s m e) :=
  rfl

theorem isMark_writeDouble {x : Double} (hx : x.IsCanonical) : ∀ c ∈ writeDouble x, IsMark c := by
  cases x with
  | nan => exact isMark_of_all rfl
  | infinite s => cases s <;> exact isMark_of_all rfl
  | finite s m e =>
    obtain ⟨p, hp, htext, -⟩ := exists_parts_of_isCanonical (s := s) hx
    rw [writeDouble_finite, ← htext]
    exact Parts.isMark_text hp

/-! ## Joined parts -/

theorem isCompact_joinWith {parts : List (List Char)} (h : ∀ part ∈ parts, IsCompact part) :
    IsCompact (joinWith [','] parts) := by
  have hcomma : IsCompact [','] := isCompact_of_isMark (isMark_of_all rfl)
  fun_induction joinWith [','] parts with
  | case1 => exact isCompact_nil
  | case2 part => exact List.forall_mem_singleton.mp h
  | case3 part parts _ ih =>
    rw [List.forall_mem_cons] at h
    exact (h.1.append hcomma).append (ih h.2)

end Placard.Json
