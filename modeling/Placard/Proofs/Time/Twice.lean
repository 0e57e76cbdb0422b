import Placard.Proofs.Time.Expansion

/-!
# Expanding twice

A value has a digit, and neither braces nor parentheses. So no call begins in one, and a call that
reaches over one has it in its argument. But there the braces of the call that was replaced could have
stood as well, and the call that reaches over it was there before (`Call.read?_cons_expandText`). What
is found in an expanded text are therefore the calls that were kept, and expanding it again changes
nothing (`expand_expand`).
-/

namespace Placard.Time

open Placard.Text

/-! ## The calls of a text -/

/-- The calls that expanding a text finds, each with its text. -/
def callsIn (cs : List Char) : List (Call × List Char) :=
  match cs with
  | [] => []
  | c :: rest =>
    match Call.read? (c :: rest) with
    | some (call, after) =>
      if after.length < (c :: rest).length then
        (call, (c :: rest).take ((c :: rest).length - after.length)) :: callsIn after
      else callsIn rest
    | none => callsIn rest
termination_by cs.length
decreasing_by
  · assumption
  · simp
  · simp

theorem callsIn_nil : callsIn [] = [] := by
  rw [callsIn]

theorem callsIn_call {call : Call} {w : List Char} (hw : call.IsWritten w) (rest : List Char) :
    callsIn (w ++ rest) = (call, w) :: callsIn rest := by
  obtain ⟨c, cs, hcs, hread, hlength, htake⟩ := hw.exists_cons rest
  rw [hcs, callsIn, hread]
  dsimp only
  rw [if_pos hlength, htake]

theorem callsIn_cons {c : Char} {cs : List Char} (h : Call.read? (c :: cs) = none) :
    callsIn (c :: cs) = callsIn cs := by
  rw [callsIn, h]

/-- **Induction along the search.** A text is empty, or it begins with a call, or with a character
that begins none. -/
theorem searchInduction {P : List Char → Prop} (nil : P [])
    (call : ∀ (call : Call) w rest, call.IsWritten w → P rest → P (w ++ rest))
    (cons : ∀ c rest, Call.read? (c :: rest) = none → P rest → P (c :: rest)) (cs : List Char) :
    P cs := by
  induction hn : cs.length using Nat.strong_induction_on generalizing cs with
  | h n ih =>
    subst hn
    cases cs with
    | nil => exact nil
    | cons c rest =>
      cases hread : Call.read? (c :: rest) with
      | none => exact cons c rest hread (ih _ (Nat.lt_succ_self _) rest rfl)
      | some found =>
        obtain ⟨w, hw, heq⟩ := Call.read?_eq_some_iff.mp hread
        have hpos := List.length_pos_iff.mpr hw.ne_nil
        rw [heq] at ih ⊢
        refine call found.1 w found.2 hw (ih _ ?_ found.2 rfl)
        rw [List.length_append]
        omega

/-! ## Digits -/

theorem exists_digit_natText (n : Nat) : ∃ c ∈ natText n, isAsciiDigit c = true := by
  obtain ⟨c, hc⟩ := List.exists_mem_of_ne_nil _ (natText_ne_nil n)
  exact ⟨c, hc, isAsciiDigit_of_mem_natText hc⟩

/-- The value of a call has a digit: a date has its year, and a clock time its hour. -/
theorem Call.exists_digit_result {call : Call} {words : List Char}
    (h : call.result? = some words) : ∃ c ∈ words, isAsciiDigit c = true := by
  obtain ⟨t, -, rfl⟩ := Option.map_eq_some_iff.mp h
  split
  · obtain ⟨c, hc, hdigit⟩ :=
      exists_digit_natText (if t.clock.hour % 12 = 0 then 12 else t.clock.hour % 12)
    exact ⟨c, by simp [Clock.inWords, hc], hdigit⟩
  · obtain ⟨c, hc, hdigit⟩ := exists_digit_natText t.date.year
    refine ⟨c, ?_, hdigit⟩
    cases call.hint.elim .compact DateStyle.ofHint <;> simp [Date.inWords, hc]

/-- What opens a call has no digit. -/
theorem not_isAsciiDigit_of_mem_openingOf {name : List Char} (hname : WritesOneOf callNames name) :
    ∀ c ∈ openingOf name, isAsciiDigit c = false := by
  have hletters := not_isAsciiDigit_of_writesOneOf (List.subset_append_left _ _) hname
  simp only [openingOf, List.cons_append, List.forall_mem_cons, List.forall_mem_append]
  exact ⟨by decide, by decide, hletters, by decide, List.forall_mem_nil _⟩

/-- Behind the argument of a call there is no digit. -/
theorem IsCallTail.not_isAsciiDigit {hint : Option (List Char)} {tail : List Char}
    (h : IsCallTail hint tail) : ∀ c ∈ tail, isAsciiDigit c = false := by
  cases h with
  | plain => exact forall_mem_of_all (by decide)
  | hinted hbefore hhint hafter =>
    have hblank : ∀ c, isBlank c = true → isAsciiDigit c = false := by
      intro c hc
      by_contra hdigit
      rw [of_isAsciiDigit (P := fun c => isBlank c = false) (by decide) (by simpa using hdigit)] at hc
      cases hc
    have hletters := not_isAsciiDigit_of_writesOneOf (List.subset_append_right _ _) hhint
    simp only [List.cons_append, List.forall_mem_cons, List.forall_mem_append]
    exact ⟨by decide, ⟨⟨fun c hc => hblank c (hbefore c hc), hletters⟩,
      fun c hc => hblank c (hafter c hc)⟩, by decide, by decide, by decide, List.forall_mem_nil _⟩

theorem IsCallTail.getLast?_eq {hint : Option (List Char)} {tail : List Char}
    (h : IsCallTail hint tail) : tail.getLast? = some '\x7d' := by
  cases h with
  | plain => rfl
  | hinted => rw [List.getLast?_append_of_ne_nil _ (by simp)]; rfl

/-! ## Calls around a value -/

section

variable {call : Call} {w words p q : List Char}

/-- A call that reaches over a value has it in its argument. -/
theorem Call.IsWritten.exists_opening (hw : call.IsWritten w)
    (hplain : ∀ c ∈ words, isPlain c = true) (hdigit : ∃ c ∈ words, isAsciiDigit c = true)
    (h : w = p ++ (words ++ q)) : WritesOneOf callNames call.name ∧
      ∃ rest, (∀ c ∈ rest, isArgumentChar c = true) ∧ p = openingOf call.name ++ rest := by
  obtain ⟨digit, hmem, hdigit⟩ := hdigit
  obtain ⟨hname, -, hargument, htail⟩ := hw
  rename_i tail
  refine ⟨hname, ?_⟩
  rw [List.append_assoc] at h
  rcases List.append_eq_append_iff.mp h with ⟨rest, rfl, hrest⟩ | ⟨opening, hopening, hvalue⟩
  · refine ⟨rest, ?_, rfl⟩
    rcases List.append_eq_append_iff.mp hrest with ⟨before, -, hbehind⟩ | ⟨behind, hbefore, -⟩
    · have hnone := htail.not_isAsciiDigit digit (by simp [hbehind, hmem])
      rw [hdigit] at hnone
      cases hnone
    · exact fun c hc => hargument c (by simp [hbefore, hc])
  · -- the value would have the parenthesis, or what opens the call would have the digit
    cases opening with
    | nil => exact ⟨[], nofun, by simpa using hopening.symm⟩
    | cons c opening =>
      rcases List.append_eq_append_iff.mp hvalue with ⟨behind, hbefore, -⟩ | ⟨behind, hbefore, -⟩
      · have hnone := not_isAsciiDigit_of_mem_openingOf hname digit
          (by simp [hopening, hbefore, hmem])
        rw [hdigit] at hnone
        cases hnone
      · have hparen : '(' ∈ c :: opening := by
          have hlast := congrArg List.getLast? hopening
          rw [openingOf, List.getLast?_append_of_ne_nil _ (List.cons_ne_nil _ _),
            List.getLast?_append_of_ne_nil _ (List.cons_ne_nil _ _)] at hlast
          exact List.mem_of_getLast? hlast.symm
        exact absurd rfl (ne_of_isPlain
          (hplain '(' (hbefore ▸ List.mem_append_left _ hparen)) (by decide))

/-- A call that ends in a value ends in front of it. -/
theorem Call.IsWritten.eq_nil_of_append (hw : call.IsWritten w)
    (hq : ∀ c ∈ q, isPlain c = true) (h : w = p ++ q) : q = [] := by
  by_contra hne
  obtain ⟨-, -, -, htail⟩ := hw
  rename_i tail
  have hlast : tail.getLast? = some '\x7d' := htail.getLast?_eq
  have htailNe : tail ≠ [] := by
    rintro rfl
    cases hlast
  have heq := congrArg List.getLast? h
  rw [List.getLast?_append_of_ne_nil _ htailNe, List.getLast?_append_of_ne_nil _ hne, hlast] at heq
  exact ne_of_isPlain (hq _ (List.mem_of_getLast? heq.symm)) (by decide) rfl

end

/-- Expanding changes nothing in front of the first call that it replaces. -/
theorem expandText_split (cs : List Char) : expandText cs = cs ∨
    ∃ p call w words rest, cs = p ++ (w ++ rest) ∧ Call.IsWritten call w ∧
      call.result? = some words ∧ expandText cs = p ++ (words ++ expandText rest) := by
  induction cs using searchInduction with
  | nil => exact .inl expandText_nil
  | call call w rest hw ih =>
    rw [expandText_call hw]
    cases hvalue : call.result? with
    | some words => exact .inr ⟨[], call, w, words, rest, rfl, hw, hvalue, rfl⟩
    | none =>
      rw [Option.getD_none]
      rcases ih with heq | ⟨p, inner, v, words, more, rfl, hv, hwords, heq⟩
      · exact .inl (by rw [heq])
      · refine .inr ⟨w ++ p, inner, v, words, more, ?_, hv, hwords, ?_⟩
        · rw [List.append_assoc]
        · rw [heq, List.append_assoc]
  | cons c rest hnone ih =>
    rw [expandText_cons hnone]
    rcases ih with heq | ⟨p, inner, v, words, more, rfl, hv, hwords, heq⟩
    · exact .inl (by rw [heq])
    · exact .inr ⟨c :: p, inner, v, words, more, rfl, hv, hwords, by rw [heq]; rfl⟩

/-- **No call is made.** A character that begins no call begins none when what follows it is
expanded. -/
theorem Call.read?_cons_expandText {c : Char} {cs : List Char}
    (hnone : Call.read? (c :: cs) = none) : Call.read? (c :: expandText cs) = none := by
  rcases expandText_split cs with heq | ⟨p, call, w, words, rest, rfl, hw, hvalue, heq⟩
  · rw [heq]
    exact hnone
  rw [heq]
  have hplain := call.isPlain_result hvalue
  -- what begins a call is no prefix of the text as it was
  have hahead : ∀ {outer : Call} {v : List Char}, outer.IsWritten v → ∀ after,
      c :: (p ++ (w ++ rest)) ≠ v ++ after := by
    intro outer v hv after h
    rw [Call.read?_eq_some_iff.mpr ⟨v, hv, h⟩] at hnone
    cases hnone
  cases hread : Call.read? (c :: (p ++ (words ++ expandText rest))) with
  | none => rfl
  | some found =>
    obtain ⟨v, hv, h⟩ := Call.read?_eq_some_iff.mp hread
    rw [← List.cons_append] at h
    rcases List.append_eq_append_iff.mp h with ⟨q, hq, hbehind⟩ | ⟨q, hq, -⟩
    · rcases List.append_eq_append_iff.mp hbehind with ⟨more, rfl, -⟩ | ⟨more, hwords, -⟩
      · -- the call reaches over the value: the call in its place lies in its argument
        obtain ⟨hname, argument, hargument, hopening⟩ :=
          hv.exists_opening hplain (call.exists_digit_result hvalue) hq
        obtain ⟨outer, houter⟩ := hw.exists_outer hname hargument
        refine absurd ?_ (hahead houter rest)
        rw [← hopening, ← List.cons_append, List.append_assoc]
      · obtain rfl := hv.eq_nil_of_append (fun c hc => hplain c (by simp [hwords, hc])) hq
        rw [List.append_nil] at hq
        exact absurd (by rw [hq, List.cons_append]) (hahead hv (w ++ rest))
    · refine absurd ?_ (hahead hv (q ++ (w ++ rest)))
      rw [← List.cons_append, hq, List.append_assoc]

/-! ## Values in a text -/

/-- No call begins with another character than a brace. -/
theorem Call.read?_eq_none {c : Char} (hc : c ≠ '\x7b') (cs : List Char) :
    Call.read? (c :: cs) = none := by
  cases hread : Call.read? (c :: cs) with
  | none => rfl
  | some found =>
    obtain ⟨w, ⟨-, -, -, -⟩, h⟩ := Call.read?_eq_some_iff.mp hread
    exact absurd (List.cons.inj h).1 hc

section

variable {words : List Char} (hwords : ∀ c ∈ words, isPlain c = true) (cs : List Char)

include hwords

theorem expandText_plain_append : expandText (words ++ cs) = words ++ expandText cs := by
  induction words with
  | nil => rfl
  | cons c words ih =>
    rw [List.forall_mem_cons] at hwords
    have hne := ne_of_isPlain hwords.1 (d := '\x7b') (by decide)
    rw [List.cons_append, expandText_cons (Call.read?_eq_none hne _), ih hwords.2,
      List.cons_append]

theorem callsIn_plain_append : callsIn (words ++ cs) = callsIn cs := by
  induction words with
  | nil => rfl
  | cons c words ih =>
    rw [List.forall_mem_cons] at hwords
    have hne := ne_of_isPlain hwords.1 (d := '\x7b') (by decide)
    rw [List.cons_append, callsIn_cons (Call.read?_eq_none hne _), ih hwords.2]

end

/-! ## The second time -/

theorem expandText_expandText (cs : List Char) : expandText (expandText cs) = expandText cs := by
  induction cs using searchInduction with
  | nil => rw [expandText_nil, expandText_nil]
  | call call w rest hw ih =>
    rw [expandText_call hw]
    cases hvalue : call.result? with
    | some words =>
      rw [Option.getD_some, expandText_plain_append (call.isPlain_result hvalue), ih]
    | none => rw [Option.getD_none, expandText_call hw, hvalue, Option.getD_none, ih]
  | cons c rest hnone ih =>
    rw [expandText_cons hnone, expandText_cons (Call.read?_cons_expandText hnone), ih]

/-- The calls of an expanded text are those whose timestamps cannot be read. -/
theorem callsIn_expandText (cs : List Char) :
    callsIn (expandText cs) = (callsIn cs).filter fun found => found.1.result?.isNone := by
  induction cs using searchInduction with
  | nil => rw [expandText_nil, callsIn_nil, List.filter_nil]
  | call call w rest hw ih =>
    rw [expandText_call hw, callsIn_call hw]
    cases hvalue : call.result? with
    | some words =>
      rw [Option.getD_some, callsIn_plain_append (call.isPlain_result hvalue), ih,
        List.filter_cons_of_neg (by simp [hvalue])]
    | none =>
      rw [Option.getD_none, callsIn_call hw, ih, List.filter_cons_of_pos (by simp [hvalue])]
  | cons c rest hnone ih =>
    rw [expandText_cons hnone, callsIn_cons (Call.read?_cons_expandText hnone), ih,
      callsIn_cons hnone]

/-- **Expanding twice.** What was expanded stays as it is when it is expanded again: of all calls
only those are found in it that were kept the first time, written as they were. -/
theorem expand_expand (s : String) : expand (expand s) = expand s ∧
    callsIn (expand s).toList =
      (callsIn s.toList).filter fun found => found.1.result?.isNone := by
  constructor
  · simp [expand, expandText_expandText]
  · rw [expand, String.toList_ofList]
    exact callsIn_expandText s.toList

end Placard.Time
