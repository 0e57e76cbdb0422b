import Placard.Proofs.Text.Digit
import Placard.Proofs.Time.Call

/-!
# Expanding calls

Expanding replaces a call by its value and keeps what begins no call (`expandText_call`,
`expandText_cons`). It works from left to right, so what stands before a call can change the call
only by reaching into it: a text with no open call is expanded by itself
(`expandText_append`), and an open call takes in the call behind it, braces and all, as part of its
argument (`expandText_of_openCall`).
-/

namespace Placard.Time

open Placard.Text

/-! ## The two steps -/

theorem Call.IsWritten.ne_nil {call : Call} {w : List Char} (hw : call.IsWritten w) : w ≠ [] := by
  cases hw
  simp [openingOf]

/-- A call that begins a text is read there, and what was read is the call. -/
theorem Call.IsWritten.exists_cons {call : Call} {w : List Char} (hw : call.IsWritten w)
    (rest : List Char) : ∃ c cs, w ++ rest = c :: cs ∧ Call.read? (c :: cs) = some (call, rest) ∧
      rest.length < (c :: cs).length ∧ (c :: cs).take ((c :: cs).length - rest.length) = w := by
  cases hcs : w ++ rest with
  | nil => exact absurd (List.append_eq_nil_iff.mp hcs).1 hw.ne_nil
  | cons c cs =>
    have hpos := List.length_pos_iff.mpr hw.ne_nil
    refine ⟨c, cs, rfl, Call.read?_eq_some_iff.mpr ⟨w, hw, hcs.symm⟩, ?_, ?_⟩
    · rw [← hcs, List.length_append]
      omega
    · rw [← hcs, List.length_append, Nat.add_sub_cancel, List.take_left]

/-- A call that begins a text is replaced by its value, or kept if it has none. -/
theorem expandText_call {call : Call} {w : List Char} (hw : call.IsWritten w) (rest : List Char) :
    expandText (w ++ rest) = call.result?.getD w ++ expandText rest := by
  obtain ⟨c, cs, hcs, hread, hlength, htake⟩ := hw.exists_cons rest
  rw [hcs, expandText, hread]
  dsimp only
  rw [if_pos hlength, htake]

/-- A character that begins no call is kept. -/
theorem expandText_cons {c : Char} {cs : List Char} (h : Call.read? (c :: cs) = none) :
    expandText (c :: cs) = c :: expandText cs := by
  rw [expandText, h]

theorem expandText_nil : expandText [] = [] := by
  rw [expandText]

/-- A text with a call at its start keeps it when more text follows. -/
theorem Call.read?_append {call : Call} {cs rest : List Char}
    (h : Call.read? cs = some (call, rest)) (more : List Char) :
    Call.read? (cs ++ more) = some (call, rest ++ more) := by
  obtain ⟨w, hw, rfl⟩ := Call.read?_eq_some_iff.mp h
  exact Call.read?_eq_some_iff.mpr ⟨w, hw, List.append_assoc _ _ _⟩

/-- **Expanding before a call.** A text with no open call is expanded by itself, whatever begins
with two braces behind it. -/
theorem expandText_append {p : List Char} (hp : ¬HasOpenCall p) (cs : List Char) :
    expandText (p ++ '\x7b' :: '\x7b' :: cs) =
      expandText p ++ expandText ('\x7b' :: '\x7b' :: cs) := by
  induction hn : p.length using Nat.strong_induction_on generalizing p with
  | h n ih =>
    cases p with
    | nil => rw [expandText_nil, List.nil_append, List.nil_append]
    | cons c p =>
      cases hread : Call.read? (c :: p ++ '\x7b' :: '\x7b' :: cs) with
      | none =>
        have hnone : Call.read? (c :: p) = none := by
          cases hbefore : Call.read? (c :: p) with
          | none => rfl
          | some found =>
            rw [Call.read?_append hbefore] at hread
            cases hread
        have hp' : ¬HasOpenCall p := fun hopen => hp (hopen.append [c])
        rw [List.cons_append] at hread ⊢
        rw [expandText_cons hnone, expandText_cons hread, ih p.length (by simp [← hn]) hp' rfl,
          List.cons_append]
      | some found =>
        obtain ⟨w, hw, heq⟩ := Call.read?_eq_some_iff.mp hread
        obtain ⟨q, hq, -⟩ := hw.exists_append hp (List.cons_ne_nil c p) heq
        have hpos := hw.three_le
        have hq' : ¬HasOpenCall q := fun hopen => hp (hq ▸ hopen.append w)
        have hlength : q.length < n := by
          rw [← hn, hq, List.length_append]
          omega
        rw [hq, List.append_assoc, expandText_call hw, expandText_call hw, ih _ hlength hq' rfl,
          List.append_assoc]

/-- A text with no open call is expanded by itself in front of a call. -/
theorem expandText_append_opening {p : List Char} (hp : ¬HasOpenCall p) (name cs : List Char) :
    expandText (p ++ (openingOf name ++ cs)) = expandText p ++ expandText (openingOf name ++ cs) :=
  expandText_append hp (name ++ ['('] ++ cs)

/-! ## Open calls -/

theorem IsCallTail.paren_mem {hint : Option (List Char)} {tail : List Char}
    (h : IsCallTail hint tail) : ')' ∈ tail := by
  cases h <;> simp

/-- Without a closing parenthesis there are no calls. -/
theorem expandText_of_paren_not_mem {cs : List Char} (h : ')' ∉ cs) : expandText cs = cs := by
  induction cs with
  | nil => exact expandText_nil
  | cons c cs ih =>
    have hnone : Call.read? (c :: cs) = none := by
      cases hread : Call.read? (c :: cs) with
      | none => rfl
      | some found =>
        obtain ⟨_, ⟨-, -, -, htail⟩, heq⟩ := Call.read?_eq_some_iff.mp hread
        rw [heq] at h
        simp [htail.paren_mem] at h
    rw [expandText_cons hnone, ih fun hmem => h (List.mem_cons_of_mem c hmem)]

/-- An open call takes the call behind it in, as part of its own argument. -/
theorem Call.IsWritten.exists_outer {call : Call} {w name rest : List Char}
    (hw : call.IsWritten w) (hname : WritesOneOf callNames name)
    (hrest : ∀ c ∈ rest, isArgumentChar c = true) :
    ∃ outer : Call, outer.IsWritten (openingOf name ++ rest ++ w) := by
  obtain ⟨hinner, hne, hargument, htail⟩ := hw
  rename_i tail
  have happend : openingOf name ++ rest ++ (openingOf call.name ++ call.argument ++ tail) =
      openingOf name ++ (rest ++ openingOf call.name ++ call.argument) ++ tail := by
    simp
  rw [happend]
  refine ⟨{ name, argument := rest ++ openingOf call.name ++ call.argument, hint := call.hint },
    ⟨hname, by simp [hne], ?_, htail⟩⟩
  intro c hc
  rcases List.mem_append.mp hc with hc | hc
  · rcases List.mem_append.mp hc with hc | hc
    · exact hrest c hc
    · exact isArgumentChar_of_mem_openingOf hinner c hc
  · exact hargument c hc

/-! ## Values -/

/-- Whether a character is neither a brace nor a parenthesis. -/
def isPlain (c : Char) : Bool :=
  c != '\x7b' && c != '\x7d' && c != '(' && c != ')'

theorem ne_of_isPlain {c d : Char} (hc : isPlain c = true) (hd : isPlain d = false) : c ≠ d := by
  rintro rfl
  rw [hd] at hc
  cases hc

theorem isPlain_of_isAsciiDigit {c : Char} (h : isAsciiDigit c = true) : isPlain c = true :=
  of_isAsciiDigit (P := fun c => isPlain c = true) (by decide) h

theorem isPlain_natText (n : Nat) : ∀ c ∈ natText n, isPlain c = true :=
  fun _ hc => isPlain_of_isAsciiDigit (isAsciiDigit_of_mem_natText hc)

theorem isPlain_paddedText (width n : Nat) : ∀ c ∈ paddedText width n, isPlain c = true :=
  fun _ hc => isPlain_of_isAsciiDigit (isAsciiDigit_of_mem_paddedText hc)

theorem isPlain_name {names : List String}
    (hnames : names.all (fun name => name.toList.all isPlain) = true) (n : Nat) :
    ∀ c ∈ (names[n]?.getD "").toList, isPlain c = true := by
  cases h : names[n]? with
  | none => exact fun _ hc => nomatch hc
  | some name =>
    exact List.all_eq_true.mp (List.all_eq_true.mp hnames name (List.mem_of_getElem? h))

theorem isPlain_dayName (d : Date) : ∀ c ∈ d.dayName, isPlain c = true :=
  isPlain_name (by decide) _

theorem isPlain_monthName (d : Date) : ∀ c ∈ d.monthName, isPlain c = true :=
  isPlain_name (by decide) _

theorem isPlain_dateWords (d : Date) (style : DateStyle) :
    ∀ c ∈ d.inWords style, isPlain c = true := by
  have hday := isPlain_dayName d
  have hmonth := isPlain_monthName d
  have hshortDay : ∀ c ∈ d.dayName.take 3, isPlain c = true :=
    fun c hc => hday c (List.mem_of_mem_take hc)
  have hshortMonth : ∀ c ∈ d.monthName.take 3, isPlain c = true :=
    fun c hc => hmonth c (List.mem_of_mem_take hc)
  have hcomma : isPlain ',' = true ∧ isPlain ' ' = true ∧ ∀ c ∈ [], isPlain c = true :=
    ⟨by decide, by decide, List.forall_mem_nil _⟩
  cases style <;> simp only [Date.inWords, List.forall_mem_append, List.forall_mem_cons]
  · exact ⟨⟨isPlain_natText _, by decide, isPlain_natText _⟩, by decide, isPlain_natText _⟩
  · exact ⟨⟨⟨⟨⟨hshortDay, hcomma⟩, hshortMonth⟩, by decide, isPlain_natText _⟩, hcomma⟩,
      isPlain_natText _⟩
  · exact ⟨⟨⟨⟨⟨hday, hcomma⟩, hmonth⟩, by decide, isPlain_natText _⟩, hcomma⟩, isPlain_natText _⟩

theorem isPlain_clockWords (t : Clock) : ∀ c ∈ t.inWords, isPlain c = true := by
  have hhalf : ∀ c ∈ (if t.hour < 12 then ['A', 'M'] else ['P', 'M']), isPlain c = true := by
    split <;> exact List.all_eq_true.mp (by decide)
  simp only [Clock.inWords, List.forall_mem_append, List.forall_mem_cons]
  exact ⟨⟨isPlain_natText _, by decide, isPlain_paddedText _ _⟩, by decide, hhalf⟩

/-- The value of a call has neither braces nor parentheses. -/
theorem Call.isPlain_result {call : Call} {words : List Char} (h : call.result? = some words) :
    ∀ c ∈ words, isPlain c = true := by
  obtain ⟨t, -, rfl⟩ := Option.map_eq_some_iff.mp h
  split
  · exact isPlain_clockWords _
  · exact isPlain_dateWords _ _

theorem Call.brace_not_mem_result {call : Call} {words : List Char}
    (h : call.result? = some words) : '\x7b' ∉ words :=
  fun hmem => ne_of_isPlain (call.isPlain_result h _ hmem) (by decide) rfl

/-! ## Letter case -/

/-- The characters with the same small letter as a capital are the two letters themselves. -/
theorem eq_of_asciiLower_eq {n : Nat} (hn : n < 26) {c : Char}
    (h : asciiLower c = asciiLower (Char.ofNat (65 + n))) :
    c = Char.ofNat (65 + n) ∨ c = asciiLower (Char.ofNat (65 + n)) := by
  by_cases hc : (65 ≤ c.toNat && c.toNat ≤ 90) = true
  · rw [Bool.and_eq_true, decide_eq_true_iff, decide_eq_true_iff] at hc
    obtain ⟨m, hm, rfl⟩ : ∃ m < 26, c = Char.ofNat (65 + m) :=
      ⟨c.toNat - 65, by omega, by rw [Nat.add_sub_cancel' hc.1, Char.ofNat_toNat]⟩
    have hinjective : ∀ m < 26, ∀ n < 26,
        asciiLower (Char.ofNat (65 + m)) = asciiLower (Char.ofNat (65 + n)) → m = n := by
      decide
    rw [hinjective m hm n hn h]
    exact .inl rfl
  · rw [← h, asciiLower, if_neg hc]
    exact .inr rfl

/-- Whether letters spell a word in any mixture of small letters and capitals. -/
def Spells (word : String) (letters : List Char) : Prop :=
  letters.map asciiLower = word.toList.map asciiLower

/-- Letters that spell a word of calls write it, and it is their capital form. -/
theorem writes_of_map_eq {word letters : List Char}
    (hword : ∀ a ∈ word, ∃ n < 26, a = Char.ofNat (65 + n))
    (h : letters.map asciiLower = word.map asciiLower) :
    Writes word letters ∧ upper letters = word := by
  induction word generalizing letters with
  | nil =>
    obtain rfl := List.map_eq_nil_iff.mp h
    exact ⟨.nil, rfl⟩
  | cons a word ih =>
    rw [List.forall_mem_cons] at hword
    obtain ⟨⟨n, hn, rfl⟩, hword⟩ := hword
    cases letters with
    | nil => cases h
    | cons c letters =>
      obtain ⟨hc, hletters⟩ := List.cons.inj h
      obtain ⟨hwrites, hupper⟩ := ih hword hletters
      have hcapital : ∀ n < 26, capital (Char.ofNat (65 + n)) = [Char.ofNat (65 + n)] ∧
          capital (asciiLower (Char.ofNat (65 + n))) = [Char.ofNat (65 + n)] := by
        decide
      have hcons : upper (c :: letters) = capital c ++ upper letters := rfl
      rw [hcons, hupper]
      rcases eq_of_asciiLower_eq hn hc with rfl | rfl
      · exact ⟨.cons (isLetterForm_iff.mpr (.inl rfl)) hwrites, by rw [(hcapital n hn).1]; rfl⟩
      · exact ⟨.cons (isLetterForm_iff.mpr (.inr (.inl rfl))) hwrites,
          by rw [(hcapital n hn).2]; rfl⟩

theorem Spells.writes {word : String} (hword : word ∈ callNames ++ callHints) {letters : List Char}
    (h : Spells word letters) : Writes word.toList letters ∧ upper letters = word.toList :=
  writes_of_map_eq (fun _ => exists_of_mem_callWord hword) h

/-! ## Calls and their values -/

/-- The hint for a style. -/
def DateStyle.hint : DateStyle → String
  | .compact => "COMPACT"
  | .short => "SHORT"
  | .long => "LONG"

theorem DateStyle.hint_mem (style : DateStyle) : style.hint ∈ callHints := by
  cases style <;> decide

/-- Whether a text is a call of a function for an argument, in any letter case, and the style that its
hint asks for, if it has one. -/
inductive IsCallOf (function : String) (argument : List Char) :
    Option DateStyle → List Char → Prop
  | plain {name : List Char} : Spells function name →
    IsCallOf function argument none (openingOf name ++ argument ++ [')', '\x7d', '\x7d'])
  | hinted {name before hint after : List Char} {style : DateStyle} : Spells function name →
    (∀ c ∈ before, isBlank c = true) → Spells style.hint hint → (∀ c ∈ after, isBlank c = true) →
    IsCallOf function argument (some style)
      (openingOf name ++ argument ++ (',' :: before ++ hint ++ after ++ [')', '\x7d', '\x7d']))

/-- The hints of calls mean their styles in any letter case. -/
theorem DateStyle.ofHint_of_spells {style : DateStyle} {hint : List Char}
    (h : Spells style.hint hint) : DateStyle.ofHint hint = style := by
  rw [ofHint, (h.writes (List.mem_append_right _ style.hint_mem)).2]
  cases style <;> rfl

/-- What is a call of a function is written as a call. -/
theorem IsCallOf.exists_call {function : String} {argument w : List Char}
    {style : Option DateStyle} (h : IsCallOf function argument style w)
    (hfunction : function ∈ callNames) (hne : argument ≠ [])
    (hargument : ∀ c ∈ argument, isArgumentChar c = true) :
    ∃ call : Call, call.IsWritten w ∧ call.argument = argument ∧
      upper call.name = function.toList ∧
      call.hint.elim .compact DateStyle.ofHint = style.getD .compact := by
  cases h with
  | @plain name hname =>
    obtain ⟨hwrites, hupper⟩ := hname.writes (List.mem_append_left _ hfunction)
    exact ⟨{ name, argument, hint := none }, ⟨⟨_, hfunction, hwrites⟩, hne, hargument, .plain⟩,
      rfl, hupper, rfl⟩
  | @hinted name before hint after style hname hbefore hhint hafter =>
    obtain ⟨hwrites, hupper⟩ := hname.writes (List.mem_append_left _ hfunction)
    have hhintWrites := (hhint.writes (List.mem_append_right _ style.hint_mem)).1
    exact ⟨{ name, argument, hint := some hint }, ⟨⟨_, hfunction, hwrites⟩, hne, hargument,
      .hinted hbefore ⟨_, style.hint_mem, hhintWrites⟩ hafter⟩, rfl, hupper,
      DateStyle.ofHint_of_spells hhint⟩

/-- Whether a text is a call in any letter case whose timestamp can be read, and what it stands
for. -/
inductive StandsFor : List Char → List Char → Prop
  /-- A date. -/
  | date {name argument : List Char} {t : Moment} : Spells "DATE" name →
    (∀ c ∈ argument, isArgumentChar c = true) → readArgument? argument = some t →
    StandsFor (openingOf name ++ argument ++ [')', '\x7d', '\x7d']) (t.date.inWords .compact)
  /-- A date with a hint. -/
  | hinted {name argument before hint after : List Char} {t : Moment} {style : DateStyle} :
    Spells "DATE" name → (∀ c ∈ argument, isArgumentChar c = true) →
    readArgument? argument = some t → (∀ c ∈ before, isBlank c = true) →
    Spells style.hint hint → (∀ c ∈ after, isBlank c = true) →
    StandsFor
      (openingOf name ++ argument ++ (',' :: before ++ hint ++ after ++ [')', '\x7d', '\x7d']))
      (t.date.inWords style)
  /-- A clock time. -/
  | time {name argument : List Char} {t : Moment} : Spells "TIME" name →
    (∀ c ∈ argument, isArgumentChar c = true) → readArgument? argument = some t →
    StandsFor (openingOf name ++ argument ++ [')', '\x7d', '\x7d']) t.clock.inWords

theorem ne_nil_of_readArgument? {argument : List Char} {t : Moment}
    (h : readArgument? argument = some t) : argument ≠ [] := by
  rintro rfl
  cases h

/-- What stands for a value is a call with that value. -/
theorem StandsFor.exists_call {w words : List Char} (h : StandsFor w words) :
    ∃ call : Call, call.IsWritten w ∧ call.result? = some words := by
  cases h with
  | @date name argument t hname hargument ht =>
    have hcall : IsCallOf "DATE" argument none _ := .plain hname
    obtain ⟨call, hw, rfl, hupper, hstyle⟩ :=
      hcall.exists_call (by decide) (ne_nil_of_readArgument? ht) hargument
    refine ⟨call, hw, ?_⟩
    rw [Call.result?, ht, Option.map_some, hupper, if_neg (by decide), hstyle]
    rfl
  | @hinted name argument before hint after t style hname hargument ht hbefore hhint hafter =>
    have hcall : IsCallOf "DATE" argument (some style) _ := .hinted hname hbefore hhint hafter
    obtain ⟨call, hw, rfl, hupper, hstyle⟩ :=
      hcall.exists_call (by decide) (ne_nil_of_readArgument? ht) hargument
    refine ⟨call, hw, ?_⟩
    rw [Call.result?, ht, Option.map_some, hupper, if_neg (by decide), hstyle]
    rfl
  | @time name argument t hname hargument ht =>
    have hcall : IsCallOf "TIME" argument none _ := .plain hname
    obtain ⟨call, hw, rfl, hupper, -⟩ :=
      hcall.exists_call (by decide) (ne_nil_of_readArgument? ht) hargument
    refine ⟨call, hw, ?_⟩
    rw [Call.result?, ht, Option.map_some, hupper, if_pos (by decide)]

/-- Behind an open call no call is replaced by its own value. -/
theorem expandText_ne_of_hasOpenCall {call : Call} {w words p : List Char}
    (hw : call.IsWritten w) (hvalue : call.result? = some words) (hp : HasOpenCall p)
    (rest : List Char) :
    expandText (p ++ (w ++ rest)) ≠ expandText p ++ (words ++ expandText rest) := by
  obtain ⟨first, name, argument, hfirst, hname, hargument, rfl⟩ := hp.exists_first
  obtain ⟨outer, houter⟩ := hw.exists_outer hname hargument
  -- what is open has no closing parenthesis
  have hopen : expandText (openingOf name ++ argument) = openingOf name ++ argument := by
    refine expandText_of_paren_not_mem fun hmem => ?_
    rcases List.mem_append.mp hmem with hmem | hmem
    · exact absurd (isArgumentChar_of_mem_openingOf hname _ hmem) (by decide)
    · exact absurd (hargument _ hmem) (by decide)
  have hleft : expandText (first ++ openingOf name ++ argument ++ (w ++ rest)) =
      expandText first ++ (outer.result?.getD (openingOf name ++ argument ++ w) ++
        expandText rest) := by
    rw [← expandText_call houter, List.append_assoc, List.append_assoc,
      expandText_append_opening hfirst]
    simp
  have hright : expandText (first ++ openingOf name ++ argument) =
      expandText first ++ (openingOf name ++ argument) := by
    rw [List.append_assoc, expandText_append_opening hfirst, hopen]
  rw [hleft, hright, List.append_assoc (expandText first),
    ← List.append_assoc (openingOf name ++ argument) words]
  intro h
  have heq := List.append_cancel_right (List.append_cancel_left h)
  cases houterValue : outer.result? with
  | none =>
    rw [houterValue, Option.getD_none] at heq
    obtain rfl := List.append_cancel_left heq
    have hbrace := call.brace_not_mem_result hvalue
    cases hw
    exact hbrace List.mem_cons_self
  | some outerWords =>
    rw [houterValue, Option.getD_some] at heq
    have hbrace := outer.brace_not_mem_result houterValue
    rw [heq] at hbrace
    exact hbrace List.mem_cons_self

/-- Where no call is open, a call is replaced by its value. -/
theorem expandText_of_not_hasOpenCall {call : Call} {w words p : List Char}
    (hw : call.IsWritten w) (hvalue : call.result? = some words) (hp : ¬HasOpenCall p)
    (rest : List Char) :
    expandText (p ++ (w ++ rest)) = expandText p ++ (words ++ expandText rest) := by
  have hcall := expandText_call hw rest
  rw [hvalue, Option.getD_some] at hcall
  rw [← hcall]
  cases hw
  rw [List.append_assoc, List.append_assoc]
  exact expandText_append_opening hp _ _

/-- **Calls and the text around them.** A text with a call is the text before it, the value of the
call and the text behind it, each expanded by itself, exactly if the text before it has no open
call. -/
theorem expand_call {call value : String} (h : StandsFor call.toList value.toList)
    (before after : String) :
    expand (before ++ call ++ after) = expand before ++ value ++ expand after ↔
      ¬HasOpenCall before.toList := by
  obtain ⟨c, hc, hvalue⟩ := h.exists_call
  have hlists : expand (before ++ call ++ after) = expand before ++ value ++ expand after ↔
      expandText (before.toList ++ (call.toList ++ after.toList)) =
        expandText before.toList ++ (value.toList ++ expandText after.toList) := by
    simp [expand, ← String.toList_inj]
  rw [hlists]
  constructor
  · intro heq hopen
    exact expandText_ne_of_hasOpenCall hc hvalue hopen _ heq
  · intro hopen
    exact expandText_of_not_hasOpenCall hc hvalue hopen _

/-- A call in mixed letter case, and the day it stands for. -/
theorem standsFor_day :
    StandsFor "\x7b\x7bDate(2017-02-14T06:08:39Z)\x7d\x7d".toList "2/14/2017".toList := by
  have ht : readArgument? "2017-02-14T06:08:39Z".toList = some
      { date := { year := 2017, month := 2, day := 14 }
        clock := { hour := 6, minute := 8, second := 39, micro := 0 }
        offset := some { negative := false, seconds := 0, micro := 0 } } := by
    decide
  have hname : Spells "DATE" "Date".toList := by
    unfold Spells
    decide
  have hwords : Date.inWords { year := 2017, month := 2, day := 14 } .compact =
      "2/14/2017".toList := by
    decide +kernel
  rw [← hwords]
  exact .date hname (List.all_eq_true.mp (by decide)) ht

/-- A call between two words. -/
theorem expand_call_between_words :
    expand ("Seen " ++ "\x7b\x7bDate(2017-02-14T06:08:39Z)\x7d\x7d" ++ ".") =
      expand "Seen " ++ "2/14/2017" ++ expand "." := by
  refine (expand_call standsFor_day "Seen " ".").mpr fun hopen => ?_
  obtain ⟨before, name, rest, -, -, heq⟩ := hopen
  have hbrace : '\x7b' ∉ "Seen ".toList := by decide
  rw [heq] at hbrace
  simp [openingOf] at hbrace

/-- An unfinished call keeps the call behind it from being replaced, although no brace touches the
braces of that call. -/
theorem exists_call_kept : ¬∀ call value : String, StandsFor call.toList value.toList →
    ∀ before after : String,
      (∀ c ∈ before.toList.getLast?, c ≠ '\x7b' ∧ c ≠ '\x7d') →
      (∀ c ∈ after.toList.head?, c ≠ '\x7b' ∧ c ≠ '\x7d') →
      expand (before ++ call ++ after) = expand before ++ value ++ expand after := by
  intro hall
  have hend : ∀ c ∈ "\x7b\x7bDATE(".toList.getLast?, c ≠ '\x7b' ∧ c ≠ '\x7d' := by
    rintro _ ⟨⟩
    decide
  have h := hall _ _ standsFor_day "\x7b\x7bDATE(" "" hend fun _ h => nomatch h
  obtain ⟨call, hcall, hvalue⟩ := standsFor_day.exists_call
  have hspells : Spells "DATE" "DATE".toList := rfl
  have hname : WritesOneOf callNames "DATE".toList :=
    ⟨"DATE", by decide, (hspells.writes (by decide)).1⟩
  have hopen : HasOpenCall "\x7b\x7bDATE(".toList :=
    ⟨[], "DATE".toList, [], hname, (fun _ h => nomatch h), by decide⟩
  refine expandText_ne_of_hasOpenCall hcall hvalue hopen [] ?_
  simpa [expand, ← String.toList_inj] using h

end Placard.Time
