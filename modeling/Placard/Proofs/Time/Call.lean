import Mathlib.Data.List.Forall2
import Placard.Proofs.Text.Blank
import Placard.Time.Function

/-!
# How calls are written

A call is written as two opening braces, the letters of its name, its argument in parentheses and
two closing braces; behind the argument there may be a comma and a hint. `Call.IsWritten` says so of
a text, and reading finds exactly the calls that are written so, whatever follows them
(`Call.read?_eq_some_iff`).

Inside a written call a brace opens nothing unless it stands in the argument
(`Call.IsWritten.exists_argument`), which is what calls that overlap come down to.
-/

namespace Placard.Time

open Placard.Text

/-! ## Words -/

/-- Whether letters write a word, each in one of the forms of its capital. -/
def Writes (word letters : List Char) : Prop :=
  List.Forall₂ (fun capital c => isLetterForm capital c = true) word letters

/-- Whether letters write one of some words. -/
def WritesOneOf (words : List String) (letters : List Char) : Prop :=
  ∃ word ∈ words, Writes word.toList letters

theorem isLetterForm_iff {a c : Char} : isLetterForm a c = true ↔
    c = a ∨ c = asciiLower a ∨ a = 'I' ∧ (c = '\u0131' ∨ c = '\u0130') ∨
      a = 'S' ∧ c = '\u017f' := by
  simp [isLetterForm, or_assoc]

theorem spanWord?_eq_some_iff {word cs letters rest : List Char} :
    spanWord? word cs = some (letters, rest) ↔ Writes word letters ∧ cs = letters ++ rest := by
  unfold Writes
  induction word generalizing cs letters with
  | nil =>
    rw [spanWord?, Option.some.injEq, Prod.mk.injEq, List.forall₂_nil_left_iff]
    constructor
    · rintro ⟨rfl, rfl⟩
      exact ⟨rfl, rfl⟩
    · rintro ⟨rfl, rfl⟩
      exact ⟨rfl, rfl⟩
  | cons a word ih =>
    cases cs with
    | nil =>
      rw [spanWord?]
      constructor
      · intro h
        cases h
      · rintro ⟨_ | ⟨-, -⟩, heq⟩
        cases heq
    | cons c cs =>
      rw [spanWord?]
      constructor
      · intro h
        split at h
        · next hc =>
          obtain ⟨⟨letters, rest⟩, hspan, heq⟩ := Option.map_eq_some_iff.mp h
          obtain ⟨rfl, rfl⟩ := Prod.mk.inj heq
          obtain ⟨hletters, rfl⟩ := ih.mp hspan
          exact ⟨.cons hc hletters, rfl⟩
        · cases h
      · rintro ⟨_ | ⟨hc, hletters⟩, heq⟩
        obtain ⟨rfl, rfl⟩ := List.cons.inj heq
        have hspan := ih.mpr ⟨hletters, rfl⟩
        rw [if_pos hc]
        exact congrArg (Option.map fun p => (c :: p.1, p.2)) hspan

/-- Whether no character is a form of the first letters of two of these words. -/
def AreApart (words : List String) : Prop :=
  words.Pairwise fun v w => ∃ a ∈ v.toList.head?, ∃ b ∈ w.toList.head?,
    ∀ c, isLetterForm a c = true → isLetterForm b c = false

/-- Where another first letter stands, a word does not. -/
theorem spanWord?_eq_none {v w letters : List Char} {a b : Char} (ha : a ∈ v.head?)
    (hb : b ∈ w.head?) (hab : ∀ c, isLetterForm a c = true → isLetterForm b c = false)
    (hletters : Writes w letters) (rest : List Char) : spanWord? v (letters ++ rest) = none := by
  obtain ⟨v, rfl⟩ := List.head?_eq_some_iff.mp ha
  obtain ⟨w, rfl⟩ := List.head?_eq_some_iff.mp hb
  obtain _ | ⟨hc, -⟩ := hletters
  rw [List.cons_append, spanWord?, if_neg]
  intro hform
  rw [hab _ hform] at hc
  cases hc

/-- Of words with different first letters the one that is written is found. -/
theorem spanWordOf?_eq_some_iff {words : List String} (hwords : AreApart words)
    {cs letters rest : List Char} : spanWordOf? words cs = some (letters, rest) ↔
      WritesOneOf words letters ∧ cs = letters ++ rest := by
  induction words with
  | nil => simp [spanWordOf?, WritesOneOf]
  | cons word words ih =>
    obtain ⟨hfirst, hothers⟩ := List.pairwise_cons.mp hwords
    have ih := ih hothers
    unfold spanWordOf? at ih ⊢
    rw [List.findSome?_cons]
    constructor
    · intro h
      split at h
      · next found =>
        obtain ⟨hletters, rfl⟩ := spanWord?_eq_some_iff.mp (found.trans h)
        exact ⟨⟨word, List.mem_cons_self, hletters⟩, rfl⟩
      · obtain ⟨⟨w, hw, hletters⟩, heq⟩ := ih.mp h
        exact ⟨⟨w, List.mem_cons_of_mem _ hw, hletters⟩, heq⟩
    · rintro ⟨⟨w, hw, hletters⟩, rfl⟩
      rcases List.mem_cons.mp hw with rfl | hw
      · rw [spanWord?_eq_some_iff.mpr ⟨hletters, rfl⟩]
      · obtain ⟨a, ha, b, hb, hab⟩ := hfirst w hw
        rw [spanWord?_eq_none ha hb hab hletters rest]
        exact ih.mpr ⟨⟨w, hw, hletters⟩, rfl⟩

/-- The names of calls. -/
abbrev callNames : List String :=
  ["DATE", "TIME"]

/-- The hints of calls. -/
abbrev callHints : List String :=
  ["COMPACT", "SHORT", "LONG"]

theorem areApart_callNames : AreApart callNames := by
  refine .cons ?_ (.cons (fun _ h => nomatch h) .nil)
  rintro _ (_ | ⟨_, ⟨⟩⟩)
  refine ⟨'D', rfl, 'T', rfl, fun c hc => ?_⟩
  rcases isLetterForm_iff.mp hc with rfl | rfl | ⟨⟨⟩, -⟩ | ⟨⟨⟩, -⟩ <;> decide

theorem areApart_callHints : AreApart callHints := by
  refine .cons ?_ (.cons ?_ (.cons (fun _ h => nomatch h) .nil))
  · rintro _ (_ | ⟨_, _ | ⟨_, ⟨⟩⟩⟩)
    · refine ⟨'C', rfl, 'S', rfl, fun c hc => ?_⟩
      rcases isLetterForm_iff.mp hc with rfl | rfl | ⟨⟨⟩, -⟩ | ⟨⟨⟩, -⟩ <;> decide
    · refine ⟨'C', rfl, 'L', rfl, fun c hc => ?_⟩
      rcases isLetterForm_iff.mp hc with rfl | rfl | ⟨⟨⟩, -⟩ | ⟨⟨⟩, -⟩ <;> decide
  · rintro _ (_ | ⟨_, ⟨⟩⟩)
    refine ⟨'S', rfl, 'L', rfl, fun c hc => ?_⟩
    rcases isLetterForm_iff.mp hc with rfl | rfl | ⟨⟨⟩, -⟩ | ⟨-, rfl⟩ <;> decide

/-- Every letter of a written word is a form of one of its capitals. -/
theorem Writes.exists_capital {word letters : List Char} (h : Writes word letters) {c : Char}
    (hc : c ∈ letters) : ∃ a ∈ word, isLetterForm a c = true := by
  induction h with
  | nil => cases hc
  | cons hform _ ih =>
    rcases List.mem_cons.mp hc with rfl | hc
    · exact ⟨_, List.mem_cons_self, hform⟩
    · obtain ⟨a, ha, hform⟩ := ih hc
      exact ⟨a, List.mem_cons_of_mem _ ha, hform⟩

/-- Whether a character can stand in the argument of a call. -/
def isArgumentChar (c : Char) : Bool :=
  c != ',' && c != ')'

/-- Whether a character is no blank, no brace and ends no argument, as the letters of calls do. -/
def isCallLetter (c : Char) : Bool :=
  !isBlank c && c != '\x7b' && isArgumentChar c

/-- What holds of the capitals and small letters, and of the letters of other scripts that are read as
one of them, holds of every form of a capital. -/
theorem of_isLetterForm {P : Char → Prop}
    (hletters : ∀ n < 26, P (Char.ofNat (65 + n)) ∧ P (asciiLower (Char.ofNat (65 + n))))
    (hscripts : P '\u0131' ∧ P '\u0130' ∧ P '\u017f') {n : Nat} (hn : n < 26) {c : Char}
    (hc : isLetterForm (Char.ofNat (65 + n)) c = true) : P c := by
  rcases isLetterForm_iff.mp hc with rfl | rfl | ⟨-, rfl | rfl⟩ | ⟨-, rfl⟩
  · exact (hletters n hn).1
  · exact (hletters n hn).2
  · exact hscripts.1
  · exact hscripts.2.1
  · exact hscripts.2.2

/-- The words of calls consist of capitals. -/
theorem exists_of_mem_callWord {word : String} (hword : word ∈ callNames ++ callHints) {a : Char}
    (ha : a ∈ word.toList) : ∃ n < 26, a = Char.ofNat (65 + n) := by
  have hall : (callNames ++ callHints).all fun word =>
      word.toList.all fun a => 65 ≤ a.toNat && a.toNat ≤ 90 := by
    decide
  have hletter := List.all_eq_true.mp (List.all_eq_true.mp hall word hword) a ha
  rw [Bool.and_eq_true, decide_eq_true_iff, decide_eq_true_iff] at hletter
  exact ⟨a.toNat - 65, by omega, by rw [Nat.add_sub_cancel' hletter.1, Char.ofNat_toNat]⟩

/-- What holds of the forms of all capitals holds of the letters of a word of calls. -/
theorem forall_mem_of_writesOneOf {P : Char → Prop}
    (hletters : ∀ n < 26, P (Char.ofNat (65 + n)) ∧ P (asciiLower (Char.ofNat (65 + n))))
    (hscripts : P '\u0131' ∧ P '\u0130' ∧ P '\u017f') {words : List String}
    (hwords : words ⊆ callNames ++ callHints) {letters : List Char}
    (h : WritesOneOf words letters) : ∀ c ∈ letters, P c := by
  intro c hc
  obtain ⟨word, hword, hwrites⟩ := h
  obtain ⟨a, ha, hform⟩ := hwrites.exists_capital hc
  obtain ⟨n, hn, rfl⟩ := exists_of_mem_callWord (hwords hword) ha
  exact of_isLetterForm hletters hscripts hn hform

theorem isCallLetter_of_writesOneOf {words : List String} (hwords : words ⊆ callNames ++ callHints)
    {letters : List Char} (h : WritesOneOf words letters) :
    ∀ c ∈ letters, isCallLetter c = true :=
  forall_mem_of_writesOneOf (by decide) (by decide) hwords h

/-- The words of calls have no digits. -/
theorem not_isAsciiDigit_of_writesOneOf {words : List String}
    (hwords : words ⊆ callNames ++ callHints) {letters : List Char}
    (h : WritesOneOf words letters) : ∀ c ∈ letters, isAsciiDigit c = false :=
  forall_mem_of_writesOneOf (by decide) (by decide) hwords h

theorem isCallLetter_of_callName {name : List Char} (h : WritesOneOf callNames name) :
    ∀ c ∈ name, isCallLetter c = true :=
  isCallLetter_of_writesOneOf (List.subset_append_left _ _) h

theorem isCallLetter_of_callHint {hint : List Char} (h : WritesOneOf callHints hint) :
    ∀ c ∈ hint, isCallLetter c = true :=
  isCallLetter_of_writesOneOf (List.subset_append_right _ _) h

theorem isBlank_of_isCallLetter {c : Char} (h : isCallLetter c = true) : isBlank c = false := by
  rw [isCallLetter, Bool.and_eq_true, Bool.and_eq_true, Bool.not_eq_true'] at h
  exact h.1.1

theorem isArgumentChar_of_isCallLetter {c : Char} (h : isCallLetter c = true) :
    isArgumentChar c = true := by
  rw [isCallLetter, Bool.and_eq_true] at h
  exact h.2

theorem brace_not_mem_of_isCallLetter {letters : List Char}
    (h : ∀ c ∈ letters, isCallLetter c = true) : '\x7b' ∉ letters :=
  fun hmem => absurd (h _ hmem) (by decide)

/-! ## Calls -/

theorem not_isArgumentChar {c : Char} (h : isArgumentChar c = false) : c = ',' ∨ c = ')' := by
  simpa [isArgumentChar, Classical.or_iff_not_imp_left] using h

/-- How a call goes on behind its argument, with or without a hint. -/
inductive IsCallTail : Option (List Char) → List Char → Prop
  | plain : IsCallTail none [')', '\x7d', '\x7d']
  | hinted {before hint after : List Char} :
    (∀ c ∈ before, isBlank c = true) → WritesOneOf callHints hint →
    (∀ c ∈ after, isBlank c = true) →
    IsCallTail (some hint) (',' :: before ++ hint ++ after ++ [')', '\x7d', '\x7d'])

/-- What stands before the argument of a call with these letters as its name. -/
def openingOf (name : List Char) : List Char :=
  '\x7b' :: '\x7b' :: name ++ ['(']

/-- No argument goes on where a call has its end. -/
theorem IsCallTail.isArgumentChar_eq_false {hint : Option (List Char)} {tail : List Char}
    (h : IsCallTail hint tail) (rest : List Char) :
    ∀ c ∈ (tail ++ rest).head?, isArgumentChar c = false := by
  cases h <;> rintro _ ⟨⟩ <;> rfl

/-- Whether a text is a call as it is written. -/
inductive Call.IsWritten : Call → List Char → Prop
  | mk {call : Call} {tail : List Char} : WritesOneOf callNames call.name → call.argument ≠ [] →
    (∀ c ∈ call.argument, isArgumentChar c = true) → IsCallTail call.hint tail →
    call.IsWritten (openingOf call.name ++ call.argument ++ tail)

theorem afterCallEnd?_eq_some_iff {cs rest : List Char} : afterCallEnd? cs = some rest ↔
    ∃ blanks, (∀ c ∈ blanks, isBlank c = true) ∧ cs = blanks ++ [')', '\x7d', '\x7d'] ++ rest := by
  unfold afterCallEnd?
  constructor
  · intro h
    refine ⟨cs.takeWhile isBlank, fun c hc => List.mem_takeWhile_imp hc, ?_⟩
    rw [List.append_assoc, ← afterStart_eq_some_iff.mp h]
    exact (List.takeWhile_append_dropWhile).symm
  · rintro ⟨blanks, hblanks, rfl⟩
    rw [List.append_assoc, dropLeading_append hblanks]
    · exact afterStart_append _ _
    · rintro _ ⟨⟩
      decide

/-- A hint is found behind blanks. -/
theorem dropLeading_hint {before hint : List Char} (hbefore : ∀ c ∈ before, isBlank c = true)
    (hhint : WritesOneOf callHints hint) (cs : List Char) :
    dropLeading isBlank (before ++ hint ++ cs) = hint ++ cs := by
  have hne : hint ≠ [] := by
    obtain ⟨word, hword, hletters⟩ := hhint
    rintro rfl
    rw [Writes, List.forall₂_nil_right_iff] at hletters
    revert word
    decide
  rw [List.append_assoc, dropLeading_append hbefore]
  intro c hc
  rw [List.head?_append_of_ne_nil _ hne] at hc
  exact isBlank_of_isCallLetter (isCallLetter_of_callHint hhint c (List.mem_of_mem_head? hc))

/-- The hint behind an argument, if there is one, and the rest behind the call. -/
def readTail? (cs : List Char) : Option (Option (List Char) × List Char) :=
  match cs with
  | ',' :: rest => do
    let (hint, rest) ← spanWordOf? callHints (dropLeading isBlank rest)
    let rest ← afterCallEnd? rest
    return (some hint, rest)
  | _ => do
    let rest ← afterCallEnd? cs
    return (none, rest)

/-- What stands behind an argument is read, whatever follows. -/
theorem IsCallTail.readTail?_eq {hint : Option (List Char)} {tail : List Char}
    (h : IsCallTail hint tail) (rest : List Char) : readTail? (tail ++ rest) = some (hint, rest) := by
  unfold readTail?
  cases h with
  | plain =>
    have hclose : afterCallEnd? ([')', '\x7d', '\x7d'] ++ rest) = some rest :=
      afterCallEnd?_eq_some_iff.mpr ⟨[], (fun _ h => nomatch h), rfl⟩
    exact Option.bind_eq_some_iff.mpr ⟨rest, hclose, rfl⟩
  | hinted hbefore hhint hafter =>
    rename_i before hint after
    have happend : ',' :: before ++ hint ++ after ++ [')', '\x7d', '\x7d'] ++ rest =
        ',' :: (before ++ hint ++ (after ++ [')', '\x7d', '\x7d'] ++ rest)) := by
      simp
    rw [happend]
    refine Option.bind_eq_some_iff.mpr ⟨(hint, after ++ [')', '\x7d', '\x7d'] ++ rest), ?_,
      Option.bind_eq_some_iff.mpr ⟨rest, afterCallEnd?_eq_some_iff.mpr ⟨after, hafter, rfl⟩, rfl⟩⟩
    rw [dropLeading_hint hbefore hhint]
    exact (spanWordOf?_eq_some_iff areApart_callHints).mpr ⟨hhint, rfl⟩

theorem readTail?_eq_some_iff {cs rest : List Char} {hint : Option (List Char)}
    (hcs : ∀ c ∈ cs.head?, isArgumentChar c = false) :
    readTail? cs = some (hint, rest) ↔ ∃ tail, IsCallTail hint tail ∧ cs = tail ++ rest := by
  constructor
  · intro h
    unfold readTail? at h
    split at h
    · next cs =>
      obtain ⟨⟨letters, after⟩, hspan, h⟩ := Option.bind_eq_some_iff.mp h
      obtain ⟨rest', hclose, h⟩ := Option.bind_eq_some_iff.mp h
      obtain ⟨rfl, rfl⟩ := Prod.mk.inj (Option.some.inj h)
      obtain ⟨hhint, hletters⟩ := (spanWordOf?_eq_some_iff areApart_callHints).mp hspan
      obtain ⟨blanks, hblanks, rfl⟩ := afterCallEnd?_eq_some_iff.mp hclose
      have hbefore : ∀ c ∈ cs.takeWhile isBlank, isBlank c = true :=
        fun c hc => List.mem_takeWhile_imp hc
      refine ⟨_, .hinted hbefore hhint hblanks, ?_⟩
      have hsplit : cs.takeWhile isBlank ++ dropLeading isBlank cs = cs :=
        List.takeWhile_append_dropWhile
      rw [hletters] at hsplit
      conv_lhs => rw [← hsplit]
      simp
    · obtain ⟨rest', hclose, h⟩ := Option.bind_eq_some_iff.mp h
      obtain ⟨rfl, rfl⟩ := Prod.mk.inj (Option.some.inj h)
      obtain ⟨blanks, hblanks, rfl⟩ := afterCallEnd?_eq_some_iff.mp hclose
      cases blanks with
      | nil => exact ⟨_, .plain, rfl⟩
      | cons c blanks =>
        -- a blank would belong to the argument
        have hblank := hblanks c List.mem_cons_self
        rcases not_isArgumentChar (hcs c rfl) with rfl | rfl
        · cases hblank
        · cases hblank
  · rintro ⟨tail, htail, rfl⟩
    exact htail.readTail?_eq rest

/-- The call with these letters as its name, read from its argument on. -/
def Call.readFrom? (name cs : List Char) : Option (Call × List Char) :=
  if (cs.takeWhile isArgumentChar).isEmpty then none
  else
    (readTail? (cs.dropWhile isArgumentChar)).map fun p =>
      ({ name, argument := cs.takeWhile isArgumentChar, hint := p.1 }, p.2)

theorem Call.read?_eq (cs : List Char) :
    Call.read? cs = (afterStart? ['\x7b', '\x7b'] cs).bind fun cs =>
      (spanWordOf? callNames cs).bind fun p => (afterStart? ['('] p.2).bind (readFrom? p.1) := by
  unfold Call.read? readFrom? readTail?
  refine congrArg _ (funext fun cs => congrArg _ (funext fun p => ?_))
  refine congrArg (Option.bind _) (funext fun cs => ?_)
  change (if (cs.takeWhile isArgumentChar).isEmpty then none else
    match cs.dropWhile isArgumentChar with | ',' :: rest => _ | rest => _) = _
  split
  · rfl
  · split
    · simp only [Option.bind_eq_bind, Option.map_bind, Function.comp_def]
      rfl
    · simp only [Option.bind_eq_bind, Option.map_bind, Function.comp_def]
      rfl

theorem Call.readFrom?_eq_some_iff {name cs rest : List Char} {call : Call} :
    Call.readFrom? name cs = some (call, rest) ↔ ∃ tail, call.name = name ∧ call.argument ≠ [] ∧
      (∀ c ∈ call.argument, isArgumentChar c = true) ∧ IsCallTail call.hint tail ∧
        cs = call.argument ++ tail ++ rest := by
  unfold readFrom?
  constructor
  · intro h
    have hcs := List.takeWhile_append_dropWhile (p := isArgumentChar) (l := cs)
    have hargument : ∀ c ∈ cs.takeWhile isArgumentChar, isArgumentChar c = true :=
      fun c hc => List.mem_takeWhile_imp hc
    have hend : ∀ c ∈ (cs.dropWhile isArgumentChar).head?, isArgumentChar c = false :=
      head?_dropLeading isArgumentChar cs
    split at h
    · cases h
    · next hne =>
      rw [List.isEmpty_iff] at hne
      obtain ⟨⟨hint, rest'⟩, htail, h⟩ := Option.map_eq_some_iff.mp h
      obtain ⟨rfl, rfl⟩ := Prod.mk.inj h
      obtain ⟨tail, htail, heq⟩ := (readTail?_eq_some_iff hend).mp htail
      refine ⟨tail, rfl, hne, hargument, htail, ?_⟩
      rw [List.append_assoc, ← heq]
      exact hcs.symm
  · rintro ⟨tail, rfl, hne, hargument, htail, rfl⟩
    have hstop := htail.isArgumentChar_eq_false rest
    have htake : (call.argument ++ tail ++ rest).takeWhile isArgumentChar = call.argument := by
      rw [List.append_assoc]
      exact takeWhile_append hargument hstop
    have hdrop : (call.argument ++ tail ++ rest).dropWhile isArgumentChar = tail ++ rest := by
      rw [List.append_assoc]
      exact dropLeading_append hargument hstop
    rw [htake, hdrop, if_neg (by rwa [List.isEmpty_iff]),
      (readTail?_eq_some_iff hstop).mpr ⟨tail, htail, rfl⟩]
    rfl

/-- **Reading calls.** A text begins with a call exactly if the call stands written there. -/
theorem Call.read?_eq_some_iff {call : Call} {cs rest : List Char} :
    Call.read? cs = some (call, rest) ↔ ∃ w, call.IsWritten w ∧ cs = w ++ rest := by
  rw [read?_eq]
  constructor
  · intro h
    obtain ⟨cs₁, hbraces, h⟩ := Option.bind_eq_some_iff.mp h
    obtain ⟨⟨name, cs₂⟩, hspan, h⟩ := Option.bind_eq_some_iff.mp h
    obtain ⟨cs₃, hparen, h⟩ := Option.bind_eq_some_iff.mp h
    obtain ⟨tail, rfl, hne, hargument, htail, rfl⟩ := readFrom?_eq_some_iff.mp h
    obtain ⟨hname, rfl⟩ := (spanWordOf?_eq_some_iff areApart_callNames).mp hspan
    obtain rfl := afterStart_eq_some_iff.mp hbraces
    obtain rfl := afterStart_eq_some_iff.mp hparen
    exact ⟨_, ⟨hname, hne, hargument, htail⟩, by simp [openingOf]⟩
  · rintro ⟨_, ⟨hname, hne, hargument, htail⟩, rfl⟩
    rename_i tail
    have happend : openingOf call.name ++ call.argument ++ tail ++ rest =
        ['\x7b', '\x7b'] ++ (call.name ++ (['('] ++ (call.argument ++ tail ++ rest))) := by
      simp [openingOf]
    rw [happend, afterStart_append, Option.bind_some,
      (spanWordOf?_eq_some_iff areApart_callNames).mpr ⟨hname, rfl⟩, Option.bind_some,
      afterStart_append, Option.bind_some]
    exact readFrom?_eq_some_iff.mpr ⟨tail, rfl, hne, hargument, htail, rfl⟩

/-! ## Braces -/

/-- Whether a text begins a call and reaches neither a hint nor the end of the argument. -/
def HasOpenCall (cs : List Char) : Prop :=
  ∃ before name rest, WritesOneOf callNames name ∧ (∀ c ∈ rest, isArgumentChar c = true) ∧
    cs = before ++ openingOf name ++ rest

theorem HasOpenCall.append {cs : List Char} (h : HasOpenCall cs) (before : List Char) :
    HasOpenCall (before ++ cs) := by
  obtain ⟨before', name, rest, hname, hrest, rfl⟩ := h
  exact ⟨before ++ before', name, rest, hname, hrest, by simp⟩

theorem IsCallTail.brace_not_mem {hint : Option (List Char)} {tail : List Char}
    (h : IsCallTail hint tail) : '\x7b' ∉ tail := by
  cases h with
  | plain => decide
  | hinted hbefore hhint hafter =>
    have hblank : ∀ {blanks : List Char}, (∀ c ∈ blanks, isBlank c = true) → '\x7b' ∉ blanks :=
      fun hblanks hmem => absurd (hblanks _ hmem) (by decide)
    have hletters := brace_not_mem_of_isCallLetter (isCallLetter_of_callHint hhint)
    simp [hblank hbefore, hblank hafter, hletters]

/-- A part without a brace lies before the brace. -/
theorem exists_of_append_eq_append_brace {xs ys p z : List Char} (hxs : '\x7b' ∉ xs)
    (h : xs ++ ys = p ++ '\x7b' :: z) : ∃ q, p = xs ++ q ∧ ys = q ++ '\x7b' :: z := by
  rcases List.append_eq_append_iff.mp h with ⟨q, rfl, hys⟩ | ⟨q, rfl, hz⟩
  · exact ⟨q, rfl, hys⟩
  · cases q with
    | nil => exact ⟨[], by simp, by simpa using hz.symm⟩
    | cons c q =>
      obtain ⟨rfl, -⟩ := List.cons.inj hz
      simp at hxs

/-- **A brace in a call.** Where a brace stands in a call, except for the two it begins with, the
call is open. -/
theorem Call.IsWritten.hasOpenCall {call : Call} {w p z : List Char} (hw : call.IsWritten w)
    (h : w = p ++ '\x7b' :: z) (hp : 2 ≤ p.length) : HasOpenCall p := by
  obtain ⟨hname, -, hargument, htail⟩ := hw
  rename_i tail
  match p, hp with
  | a :: b :: p, _ =>
  have hopening : call.name ++ ['('] ++ (call.argument ++ tail) = p ++ '\x7b' :: z := by
    simp only [openingOf, List.cons_append, List.append_assoc, List.cons.injEq] at h ⊢
    exact h.2.2
  have hbraces : '\x7b' ∉ call.name ++ ['('] := by
    simpa using brace_not_mem_of_isCallLetter (isCallLetter_of_callName hname)
  obtain ⟨q, rfl, hq⟩ := exists_of_append_eq_append_brace hbraces hopening
  obtain ⟨rfl, rfl⟩ : a = '\x7b' ∧ b = '\x7b' := by
    simp only [openingOf, List.cons_append, List.append_assoc, List.cons.injEq] at h
    exact ⟨h.1.symm, h.2.1.symm⟩
  refine ⟨[], call.name, q, hname, ?_, rfl⟩
  rcases List.append_eq_append_iff.mp hq with ⟨q', rfl, htail'⟩ | ⟨q', hargument', -⟩
  · exact absurd (htail' ▸ List.mem_append_right _ List.mem_cons_self) htail.brace_not_mem
  · intro c hc
    exact hargument c (hargument' ▸ List.mem_append_left _ hc)

/-- What opens a call can stand in the argument of another one. -/
theorem isArgumentChar_of_mem_openingOf {name : List Char} (hname : WritesOneOf callNames name) :
    ∀ c ∈ openingOf name, isArgumentChar c = true := by
  intro c hc
  simp only [openingOf, List.cons_append, List.mem_cons, List.mem_append, List.not_mem_nil,
    or_false] at hc
  rcases hc with rfl | rfl | hc | rfl
  · rfl
  · rfl
  · exact isArgumentChar_of_isCallLetter (isCallLetter_of_callName hname c hc)
  · rfl

/-- In front of the first open call no call is open. -/
theorem HasOpenCall.exists_first {cs : List Char} (h : HasOpenCall cs) :
    ∃ before name rest, ¬HasOpenCall before ∧ WritesOneOf callNames name ∧
      (∀ c ∈ rest, isArgumentChar c = true) ∧ cs = before ++ openingOf name ++ rest := by
  obtain ⟨before, name, rest, hname, hrest, rfl⟩ := h
  induction hn : before.length using Nat.strong_induction_on generalizing before name rest with
  | h n ih =>
    by_cases hopen : HasOpenCall before
    · obtain ⟨before', name', rest', hname', hrest', rfl⟩ := hopen
      -- the later opening belongs to the argument of the earlier call
      have hall : ∀ c ∈ rest' ++ (openingOf name ++ rest), isArgumentChar c = true := by
        intro c hc
        rcases List.mem_append.mp hc with hc | hc
        · exact hrest' c hc
        · rcases List.mem_append.mp hc with hc | hc
          · exact isArgumentChar_of_mem_openingOf hname c hc
          · exact hrest c hc
      have hlength : before'.length < n := by
        simp only [List.length_append, openingOf, List.length_cons] at hn
        omega
      obtain ⟨first, name, rest, hfirst⟩ := ih _ hlength before' name' _ hname' hall rfl
      exact ⟨first, name, rest, by simpa using hfirst⟩
    · exact ⟨before, name, rest, hopen, hname, hrest, rfl⟩

theorem three_le_openingOf (name : List Char) : 3 ≤ (openingOf name).length := by
  simp [openingOf]

theorem HasOpenCall.three_le {cs : List Char} (h : HasOpenCall cs) : 3 ≤ cs.length := by
  obtain ⟨before, name, rest, -, -, rfl⟩ := h
  have := three_le_openingOf name
  simp only [List.length_append]
  omega

theorem Call.IsWritten.three_le {call : Call} {w : List Char} (hw : call.IsWritten w) :
    3 ≤ w.length := by
  cases hw
  have := three_le_openingOf call.name
  simp only [List.length_append]
  omega

/-- A call that begins before two braces ends before them, or it is open there. -/
theorem Call.IsWritten.exists_append {call : Call} {w p rest after : List Char}
    (hw : call.IsWritten w) (hp : ¬HasOpenCall p) (hne : p ≠ [])
    (h : p ++ '\x7b' :: '\x7b' :: rest = w ++ after) :
    ∃ q, p = w ++ q ∧ after = q ++ '\x7b' :: '\x7b' :: rest := by
  rcases List.append_eq_append_iff.mp h with ⟨q, rfl, hq⟩ | ⟨q, rfl, hq⟩
  · match q, hq with
    | [], hq => exact ⟨[], by simp, hq.symm⟩
    | [_], hq =>
      obtain ⟨rfl, -⟩ := List.cons.inj hq
      have hlength := hw.three_le
      simp only [List.length_append, List.length_singleton] at hlength
      exact absurd (hw.hasOpenCall rfl (by omega)) hp
    | _ :: _ :: z, hq =>
      obtain ⟨rfl, hq'⟩ := List.cons.inj hq
      obtain ⟨rfl, -⟩ := List.cons.inj hq'
      match p, hne with
      | [c], _ =>
        have hopen : HasOpenCall [c, '\x7b'] := hw.hasOpenCall rfl (Nat.le_refl 2)
        have := hopen.three_le
        simp at this
      | c :: d :: p, _ => exact absurd (hw.hasOpenCall rfl (by simp)) hp
  · exact ⟨q, rfl, hq⟩

end Placard.Time
