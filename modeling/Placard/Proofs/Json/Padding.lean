import Placard.Proofs.Json.Extension

/-!
# Blanks around a value

Four characters may stand around a value in JSON, while many more are blanks (`isBlank`). So a text
that is JSON once its blanks are trimmed need not be JSON itself: it is if all the blanks are white
space in JSON, and else its fault is the first blank that is not (`readText_padded`).
-/

namespace Placard.Json

open Text Number Data

variable {cs : List Char} {c : Char} {v : Value}

/-! ## Blanks -/

/-- No blank begins a value, goes on a number or marks the order of bytes. -/
theorem isBlank_eq_false (h : isAsciiDigit c = true ∨
    c ∈ ['"', '[', '\x7b', '-', 'n', 't', 'f', 'N', 'I', '.', 'e', 'E', '\ufeff']) :
    isBlank c = false := by
  rcases h with h | h
  · exact of_isAsciiDigit (P := fun c => isBlank c = false) (by decide) h
  · have hall : ∀ c ∈ ['"', '[', '\x7b', '-', 'n', 't', 'f', 'N', 'I', '.', 'e', 'E', '\ufeff'],
        isBlank c = false := forall_mem_of_all (by decide)
    exact hall c h

theorem isBlank_of_isSpace (h : isSpace c = true) : isBlank c = true := by
  simp only [isSpace, Bool.or_eq_true, beq_iff_eq] at h
  rcases h with ((rfl | rfl) | rfl) | rfl <;> decide

theorem isAsciiDigit_of_isBlank (h : isBlank c = true) : isAsciiDigit c = false := by
  by_contra hdigit
  rw [isBlank_eq_false (.inl (by simpa using hdigit))] at h
  cases h

theorem stops_of_isBlank (h : ∀ c ∈ cs.head?, isBlank c = true) : Stops cs := by
  intro c hc
  have hblank := h c hc
  refine ⟨isAsciiDigit_of_isBlank hblank, ?_⟩
  refine ⟨?_, ?_, ?_⟩ <;> rintro rfl <;> cases hblank

/-- No value begins with a blank that is not skipped. -/
theorem value_of_isBlank (h : isBlank c = true) (fuel : Nat) (cs : List Char) :
    value (fuel + 1) (c :: cs) = refuse .noValue (c :: cs).length := by
  have hne {d : Char} (hd : isBlank d = false) : c ≠ d := by
    rintro rfl
    rw [h] at hd
    cases hd
  have hwords : (words.findSome? fun w => (afterStart? w.1.toList (c :: cs)).map (w.2, ·)) = none := by
    rw [List.findSome?_eq_none_iff]
    intro w hw
    rw [Option.map_eq_none_iff, Option.eq_none_iff_forall_ne_some]
    intro rest hrest
    have hstart := afterStart_eq_some_iff.mp hrest
    simp only [words, List.mem_cons, List.not_mem_nil, or_false] at hw
    rcases hw with rfl | rfl | rfl | rfl | rfl | rfl <;>
      exact hne (by decide) (List.cons.inj hstart).1
  have hnumber := number?_eq_none (isAsciiDigit_of_isBlank h) (hne (by decide)) cs
  have hscalar : value (fuel + 1) (c :: cs) = scalar (c :: cs) :=
    value.eq_5 _ _ (fun _ heq => hne (by decide) (List.cons.inj heq).1)
      (fun _ heq => hne (by decide) (List.cons.inj heq).1)
      (fun _ heq => hne (by decide) (List.cons.inj heq).1)
  rw [hscalar, scalar, hwords, hnumber]

/-! ## Texts -/

/-- What is wrong with a text that is JSON when it is trimmed: the first blank around it that is no
white space in JSON. -/
def paddingFault? (cs : List Char) : Option Fault :=
  match skipSpace (leadingBlanks cs), skipSpace (trailingBlanks cs) with
  | [], [] => none
  | [], rest => some (Fault.at cs .extraData (cs.length - rest.length))
  | rest, _ => some (Fault.at cs .noValue ((leadingBlanks cs).length - rest.length))

theorem skipSpace_eq_nil_iff : skipSpace cs = [] ↔ ∀ c ∈ cs, isSpace c = true :=
  List.dropWhile_eq_nil_iff

theorem paddingFault?_eq_none_iff : paddingFault? cs = none ↔
    ∀ c ∈ leadingBlanks cs ++ trailingBlanks cs, isSpace c = true := by
  rw [List.forall_mem_append, ← skipSpace_eq_nil_iff, ← skipSpace_eq_nil_iff]
  unfold paddingFault?
  split <;> simp_all

theorem value_of_readText (h : readText cs = .ok v) : '\ufeff' ∉ cs.head? ∧ ∃ rest,
    value (2 * cs.length + 2) (skipSpace cs) = .ok (v, rest) ∧ skipSpace rest = [] := by
  unfold readText at h
  split at h
  · cases h
  next hmark =>
  split at h
  · cases h
  next w rest hvalue =>
  split at h
  · next hrest =>
    obtain rfl := Except.ok.inj h
    refine ⟨fun hhead => ?_, rest, hvalue, hrest⟩
    obtain ⟨more, heq⟩ := List.head?_eq_some_iff.mp hhead
    exact hmark more heq
  · cases h

theorem readText_of_head (h : '\ufeff' ∉ cs.head?) : readText cs =
    match value (2 * cs.length + 2) (skipSpace cs) with
    | .error (cause, left) => .error (Fault.at cs cause (cs.length - left))
    | .ok (v, rest) =>
      match skipSpace rest with
      | [] => .ok v
      | rest => .error (Fault.at cs .extraData (cs.length - rest.length)) := by
  unfold readText
  split
  · exact absurd rfl h
  · rfl

section

variable {before word after : List Char}

/-- The mark of the order of bytes is no blank, so that blanks do not bring it to the front. -/
theorem mark_not_mem_head (hbefore : ∀ c ∈ before, isBlank c = true)
    (hword : before = [] → '\ufeff' ∉ word.head?) : '\ufeff' ∉ (before ++ word).head? := by
  cases before with
  | nil => exact hword rfl
  | cons b before =>
    intro hmark
    obtain rfl := Option.some.inj hmark
    have := hbefore _ List.mem_cons_self
    rw [isBlank_eq_false (.inr (by decide))] at this
    cases this

/-- A blank that is no white space in JSON is no value. -/
theorem readText_of_blank {front : List Char} (hbefore : ∀ c ∈ before, isBlank c = true)
    (hfront : skipSpace before = c :: front) (cs : List Char) :
    readText (before ++ cs) =
      .error (Fault.at (before ++ cs) .noValue (before.length - (c :: front).length)) := by
  have hmem : c ∈ skipSpace before := by
    rw [hfront]
    exact List.mem_cons_self
  have hblank := hbefore c ((List.dropWhile_sublist isSpace).mem hmem)
  have hmark : '\ufeff' ∉ (before ++ cs).head? := by
    refine mark_not_mem_head hbefore fun hnil => ?_
    rw [hnil] at hfront
    cases hfront
  rw [readText_of_head hmark, skipSpace_extend hfront, value_of_isBlank hblank]
  dsimp only [refuse]
  congr 2
  simp only [List.length_append, List.length_cons]
  omega

/-- A text with white space before it and blanks behind it is JSON up to the first blank that is no
white space in JSON. -/
theorem readText_of_spaces (h : readText word = .ok v) (hbefore : ∀ c ∈ before, isSpace c = true)
    (hafter : ∀ c ∈ after, isBlank c = true) :
    readText (before ++ (word ++ after)) =
      match skipSpace after with
      | [] => .ok v
      | rest => .error (Fault.at (before ++ (word ++ after)) .extraData
          ((before ++ (word ++ after)).length - rest.length)) := by
  obtain ⟨hmark, rest, hvalue, hrest⟩ := value_of_readText h
  have hspaces := ne_nil_of_value hvalue
  have hword : word ≠ [] := by
    rintro rfl
    exact hspaces rfl
  have hskip : skipSpace (before ++ (word ++ after)) = skipSpace word ++ after := by
    rw [← skipSpace_append hspaces]
    exact List.dropWhile_append_of_pos hbefore
  have hlonger : skipSpace (rest ++ after) = skipSpace after :=
    List.dropWhile_append_of_pos (skipSpace_eq_nil_iff.mp hrest)
  have hstops : Stops (rest ++ after) := by
    refine stops_of_isBlank fun c hc => ?_
    rcases List.mem_append.mp (List.mem_of_head? hc) with hmem | hmem
    · exact isBlank_of_isSpace (skipSpace_eq_nil_iff.mp hrest c hmem)
    · exact hafter c hmem
  have hfuel : 2 * word.length + 2 ≤ 2 * (before ++ (word ++ after)).length + 2 := by
    simp only [List.length_append]
    omega
  have hhead : '\ufeff' ∉ (before ++ (word ++ after)).head? :=
    mark_not_mem_head (fun c hc => isBlank_of_isSpace (hbefore c hc)) fun _ => by
      rwa [List.head?_append_of_ne_nil _ hword]
  rw [readText_of_head hhead, hskip, value_extend hvalue hfuel hstops]
  dsimp only
  rw [hlonger]

end

/-- **Blanks around JSON.** A text that is JSON when it is trimmed is JSON itself if the blanks around
it are white space in JSON, and is refused at the first that is not if one is not. -/
theorem readText_padded (h : readText (trim cs) = .ok v) :
    readText cs = (paddingFault? cs).elim (.ok v) .error := by
  have hword : trim cs ≠ [] := by
    intro hnil
    obtain ⟨-, rest, hvalue, -⟩ := value_of_readText h
    rw [hnil] at hvalue
    exact ne_nil_of_value hvalue rfl
  unfold paddingFault?
  cases hfront : skipSpace (leadingBlanks cs) with
  | nil =>
    have hback : ∀ c ∈ trailingBlanks cs, isBlank c = true := isBlank_of_mem_trailingBlanks
    have hread := readText_of_spaces h (skipSpace_eq_nil_iff.mp hfront) hback
    rw [append_trim hword] at hread
    rw [hread]
    cases skipSpace (trailingBlanks cs) <;> rfl
  | cons c front =>
    have hread := readText_of_blank isBlank_of_mem_leadingBlanks hfront
      (trim cs ++ trailingBlanks cs)
    rw [append_trim hword] at hread
    exact hread

end Placard.Json
