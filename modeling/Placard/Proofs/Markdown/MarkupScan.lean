import Mathlib.Data.List.TakeDrop
import Mathlib.Data.List.TakeWhile
import Placard.Html.Token
import Placard.Proofs.Markdown.Markup

/-!
# Scanning markup of the common vocabulary

The scanner finds the tags that were written and no others. A start tag is read exactly
(`startTag_spelled`), and so is an end tag; every other step of the scanner only passes characters
that open no tag, so what is left to scan is again markup. Therefore no run over such a text is
refused, and its start tags have common names and attributes (`tokens_of_isMarkup`).
-/

namespace Placard.Markdown

open Placard.Text Placard.Html

/-! ## Names -/

theorem span_append {p : Char → Bool} {word : List Char} (hword : word.all p = true)
    (rest : List Char) (hrest : rest.head?.all (fun c => !p c) = true) :
    (word ++ rest).span p = (word, rest) := by
  have hall := List.all_eq_true.mp hword
  rw [List.span_eq_takeWhile_dropWhile, List.takeWhile_append_of_pos hall,
    List.dropWhile_append_of_pos hall]
  cases rest with
  | nil => simp
  | cons c cs =>
    have hc : ¬p c = true := by simpa using hrest
    rw [List.takeWhile_cons_of_neg hc, List.dropWhile_cons_of_neg hc, List.append_nil]

/-- What the scanner asks of the name of a tag. -/
structure IsTagName (name : List Char) : Prop where
  starts : name.head?.any isAsciiLetter = true
  whole : name.all (fun c => !endsName c) = true
  ends : name.tail.all isEndNameChar = true
  small : lower name = name
  markup : rawBehind [.start name [] false] = none

/-- What the scanner asks of the name of an attribute. -/
structure IsAttributeName (name : List Char) : Prop where
  starts : name.head?.any (fun c => !(isBlank c || c = '/' || c = '>')) = true
  whole : name.tail.all (fun c => !(isBlank c || c == '/' || c == '=' || c == '>')) = true
  small : lower name = name

theorem isTagName_of_common : ∀ name ∈ commonNames, IsTagName name.toList := by
  have hall : ∀ name ∈ commonNames,
      name.toList.head?.any isAsciiLetter = true ∧
      name.toList.all (fun c => !endsName c) = true ∧
      name.toList.tail.all isEndNameChar = true ∧ lower name.toList = name.toList ∧
      rawBehind [.start name.toList [] false] = none := by decide
  intro name hname
  obtain ⟨hstarts, hwhole, hends, hsmall, hmarkup⟩ := hall name hname
  exact ⟨hstarts, hwhole, hends, hsmall, hmarkup⟩

theorem isAttributeName_of_common : ∀ name ∈ commonAttributes, IsAttributeName name.toList := by
  have hall : ∀ name ∈ commonAttributes,
      name.toList.head?.any (fun c => !(isBlank c || c = '/' || c = '>')) = true ∧
      name.toList.tail.all (fun c => !(isBlank c || c == '/' || c == '=' || c == '>')) = true ∧
      lower name.toList = name.toList := by decide
  intro name hname
  obtain ⟨hstarts, hwhole, hsmall⟩ := hall name hname
  exact ⟨hstarts, hwhole, hsmall⟩

/-! ## Attributes -/

theorem skipGap_stop (before : Option Char) {cs : List Char}
    (h : cs.head?.any (fun c => !(isBlank c || c = '/')) = true) :
    skipGap before cs = (before, cs) := by
  cases cs with
  | nil => cases h
  | cons c cs =>
    simp only [List.head?_cons, Option.any_some, Bool.not_eq_true', Bool.or_eq_false_iff,
      decide_eq_false_iff_not] at h
    simp [skipGap, h.1, h.2]

theorem skipGap_space (before : Option Char) (cs : List Char) :
    skipGap before (' ' :: cs) = skipGap (some ' ') cs := by
  rw [skipGap, if_pos (by decide)]

theorem IsAttributeName.stopsGap {name : List Char} (hname : IsAttributeName name)
    (rest : List Char) :
    (name ++ rest).head?.any (fun c => !(isBlank c || c = '/')) = true := by
  have hstarts := hname.starts
  cases name with
  | nil => exact absurd hstarts (by decide)
  | cons c cs =>
    simp only [List.head?_cons, Option.any_some, Bool.not_eq_true', Bool.or_eq_false_iff] at hstarts
    simp only [List.cons_append, List.head?_cons, Option.any_some, hstarts.1]
    rfl

theorem attributeName_spelled {name : List Char} (hname : IsAttributeName name)
    (rest : List Char) :
    attributeName? (some ' ') (name ++ '=' :: rest) = some (name, '=' :: rest) := by
  cases name with
  | nil => exact absurd hname.starts (by decide)
  | cons c cs =>
    have hstarts : (!(isBlank c || c = '/' || c = '>')) = true := hname.starts
    have hspan := span_append hname.whole ('=' :: rest) rfl
    rw [List.tail_cons] at hspan
    have hblank : isBlank ' ' = true := by decide
    simp only [List.cons_append, attributeName?, hspan, hstarts, hblank]
    simp

theorem attributeValue_spelled {value : List Char} (hvalue : '"' ∉ value) (rest : List Char) :
    attributeValue? ('=' :: '"' :: (value ++ '"' :: rest)) =
      some ('"' :: value ++ ['"'], rest) := by
  have htake : (value ++ '"' :: rest).takeWhile (· != '"') = value := by
    rw [List.takeWhile_append_of_pos, List.takeWhile_cons_of_neg (by decide), List.append_nil]
    intro c hc
    exact bne_iff_ne.mpr fun heq => hvalue (heq ▸ hc)
  have hquoted : Html.quotedValue? ('"' :: (value ++ '"' :: rest)) =
      some ('"' :: value ++ ['"'], rest) := by
    simp [Html.quotedValue?, htake]
  have hequals : isBlank '=' = false := by decide
  have hquote : isBlank '"' = false := by decide
  simp [attributeValue?, hequals, hquote, hquoted]

/-- A start tag's end without the blank in front of it. -/
def tagClose (void : Bool) : List Char :=
  if void then ['/', '>'] else ['>']

theorem attributes_close (fuel : Nat) (before : Option Char) (void : Bool) (rest : List Char) :
    Html.attributes fuel before (tagClose void ++ rest) = ([], tagClose void ++ rest) := by
  have hnone : attributeName? before (tagClose void ++ rest) = none := by
    cases before <;> cases void <;> simp [attributeName?, tagClose]
  cases fuel with
  | zero => rfl
  | succ n => rw [Html.attributes, hnone]

theorem skipGap_end (before : Option Char) (void : Bool) (rest : List Char) :
    (skipGap before (tagEnd void ++ rest)).2 = tagClose void ++ rest := by
  cases void with
  | true =>
    have hblank : isBlank '/' = false := by decide
    change (skipGap before (' ' :: '/' :: '>' :: rest)).2 = _
    rw [skipGap_space]
    simp [skipGap, hblank, tagClose]
  | false =>
    have hstop : skipGap before (['>'] ++ rest) = (before, ['>'] ++ rest) :=
      skipGap_stop _ (by simp; decide)
    exact congrArg Prod.snd hstop

theorem spelled_cons (a : String × List Char) (more : List (String × List Char))
    (rest : List Char) : spelled (a :: more) ++ rest =
      ' ' :: (a.1.toList ++ '=' :: '"' :: (a.2 ++ '"' :: (spelled more ++ rest))) := by
  simp [spelled]

theorem length_le_spelled (attributes : List (String × List Char)) (rest : List Char) :
    attributes.length ≤ (spelled attributes ++ rest).length := by
  induction attributes with
  | nil => exact Nat.zero_le _
  | cons a more ih =>
    rw [spelled_cons]
    simp only [List.length_cons, List.length_append] at ih ⊢
    omega

/-- Reading attributes gives those that were spelled, in quotes. -/
theorem attributes_spelled (void : Bool) (rest : List Char)
    {attributes : List (String × List Char)} (h : CommonSpelling attributes) :
    ∀ (fuel : Nat) (before : Option Char), attributes.length < fuel →
      Html.attributes fuel (skipGap before (spelled attributes ++ (tagEnd void ++ rest))).1
          (skipGap before (spelled attributes ++ (tagEnd void ++ rest))).2 =
        (attributes.map fun a => (a.1.toList, some ('"' :: a.2 ++ ['"'])),
          tagClose void ++ rest) := by
  induction attributes with
  | nil =>
    intro fuel before _
    have hend := skipGap_end before void rest
    rw [spelled, List.flatMap_nil, List.nil_append, hend, attributes_close, List.map_nil]
  | cons a more ih =>
    intro fuel before hfuel
    obtain ⟨⟨hname, hvalue⟩, hmore⟩ := List.forall_mem_cons.mp h
    have hname := isAttributeName_of_common _ hname
    rw [spelled_cons, skipGap_space]
    generalize htail : spelled more ++ (tagEnd void ++ rest) = tail at ih
    have hstop := skipGap_stop (some ' ')
      (hname.stopsGap ('=' :: '"' :: (a.2 ++ '"' :: tail)))
    rw [hstop]
    cases fuel with
    | zero => exact absurd hfuel (Nat.not_lt_zero _)
    | succ n =>
      rw [Html.attributes, attributeName_spelled hname]
      dsimp only
      rw [attributeValue_spelled hvalue]
      dsimp only
      rw [ih hmore n _ (Nat.lt_of_succ_lt_succ hfuel)]
      rfl

/-! ## Start tags -/

/-- Behind a blank, where the tag stops is looked for behind the attributes. -/
theorem behindTag_space (before : Option Char) {cs : List Char}
    (h : cs.head?.any (fun c => !(isBlank c || c = '/')) = true) :
    behindTag before (' ' :: cs) =
      (Html.attributes ((' ' :: cs).length + 1) (some ' ') cs).2.dropWhile isBlank := by
  have hgap : (' ' :: cs).takeWhile (fun c => isBlank c || c == '/') = [' '] := by
    cases cs with
    | nil => rfl
    | cons c cs =>
      simp only [List.head?_cons, Option.any_some, Bool.not_eq_true', Bool.or_eq_false_iff,
        decide_eq_false_iff_not] at h
      simp [h.1, h.2, (by decide : isBlank ' ' = true)]
  rw [behindTag, hgap]
  rfl

/-- The tag's end that the scanner finds when it looks for where the tag stops. Without attributes
it takes the slash of a void element for a gap. -/
theorem behindTag_spelled (void : Bool) (rest : List Char)
    {attributes : List (String × List Char)} (h : CommonSpelling attributes)
    (before : Option Char) :
    behindTag before (spelled attributes ++ (tagEnd void ++ rest)) = '>' :: rest ∨
      void = true ∧
        behindTag before (spelled attributes ++ (tagEnd void ++ rest)) = '/' :: '>' :: rest := by
  cases attributes with
  | nil =>
    have hnone (b : Option Char) : attributeName? b ('>' :: rest) = none := by
      cases b <;> simp [attributeName?]
    have hspace : isBlank ' ' = true := by decide
    have hslash : isBlank '/' = false := by decide
    have hangle : isBlank '>' = false := by decide
    refine .inl ?_
    cases void <;>
      simp [behindTag, spelled, tagEnd, hspace, hslash, hangle, Html.attributes, hnone]
  | cons a more =>
    have hread := attributes_spelled void rest h
    have hlength := length_le_spelled (a :: more) (tagEnd void ++ rest)
    have hname := isAttributeName_of_common _ (List.forall_mem_cons.mp h).1.1
    rw [spelled_cons] at hread hlength ⊢
    have hstart := hname.stopsGap ('=' :: '"' :: (a.2 ++ '"' :: (spelled more ++
      (tagEnd void ++ rest))))
    generalize a.1.toList ++ '=' :: '"' :: (a.2 ++ '"' :: (spelled more ++
      (tagEnd void ++ rest))) = cs at hread hlength hstart ⊢
    have hbehind : behindTag before (' ' :: cs) = (tagClose void ++ rest).dropWhile isBlank := by
      have hread := hread ((' ' :: cs).length + 1) before (Nat.lt_succ_of_le hlength)
      rw [skipGap_space, skipGap_stop _ hstart] at hread
      rw [behindTag_space before hstart, hread]
    rw [hbehind]
    cases void
    · exact .inl (by simp [tagClose, (by decide : isBlank '>' = false)])
    · exact .inr ⟨rfl, by simp [tagClose, (by decide : isBlank '/' = false)]⟩

/-- The name of a tag ends where its attributes, or else its end, begin. -/
theorem span_tagName {name : List Char} (hname : IsTagName name)
    (attributes : List (String × List Char)) (void : Bool) (rest : List Char) :
    (name ++ (spelled attributes ++ (tagEnd void ++ rest))).span (fun c => !endsName c) =
      (name, spelled attributes ++ (tagEnd void ++ rest)) := by
  apply span_append hname.whole
  cases attributes with
  | nil => cases void <;> rfl
  | cons a more =>
    rw [spelled_cons]
    rfl

/-- What was read between the last attribute and the end is the end itself. -/
theorem trim_tagClose (void : Bool) (rest : List Char) :
    trim ((tagClose void ++ rest).take ((tagClose void ++ rest).length - rest.length)) =
      tagClose void := by
  rw [List.length_append, Nat.add_sub_cancel, List.take_left]
  cases void <;> decide

/-- Names of attributes are in small letters already. -/
theorem map_lower_spelled {attributes : List (String × List Char)}
    (h : CommonSpelling attributes) :
    (attributes.map fun a => (a.1.toList, some ('"' :: a.2 ++ ['"']))).map
        (fun a => (lower a.1, valueOf a.2)) =
      attributes.map fun a => (a.1.toList, valueOf (some ('"' :: a.2 ++ ['"']))) := by
  rw [List.map_map]
  apply List.map_congr_left
  intro a ha
  rw [Function.comp_apply, (isAttributeName_of_common _ (h a ha).1).small]

/-- **Start tags.** Reading one gives its name and its attributes, as they were spelled. -/
theorem startTag_spelled {name : List Char} (hname : IsTagName name)
    {attributes : List (String × List Char)} (h : CommonSpelling attributes) (void : Bool)
    (rest : List Char) :
    startTag (name ++ (spelled attributes ++ (tagEnd void ++ rest))) =
      .token [.start name
        (attributes.map fun a => (a.1.toList, valueOf (some ('"' :: a.2 ++ ['"'])))) void] rest := by
  have hspan := span_tagName hname attributes void rest
  have hread := attributes_spelled void rest h
  have hbehind := behindTag_spelled void rest h name.getLast?
  generalize hall : name ++ (spelled attributes ++ (tagEnd void ++ rest)) = all at hspan ⊢
  generalize htail : spelled attributes ++ (tagEnd void ++ rest) = tail at hspan hread hbehind hall
  have hlength : attributes.length ≤ tail.length := htail ▸ length_le_spelled attributes _
  have hread := hread (all.length + 1) name.getLast? (by
    rw [← hall, List.length_append]
    omega)
  have hrest : ∃ before, all = before ++ '>' :: rest ∧ (void = true → before ≠ []) := by
    refine ⟨name ++ (spelled attributes ++ (tagEnd void).dropLast), ?_, ?_⟩
    · rw [← hall, ← htail]
      cases void <;> simp [tagEnd]
    · rintro rfl
      simp [tagEnd]
  obtain ⟨front, hfront, hslash⟩ := hrest
  unfold startTag
  rw [hspan]
  dsimp -zeta only
  extract_lets behind found ended passed
  -- wherever the scanner has found the end, it reads the same attributes up to it
  have hended (n : Nat) (hn : n = front.length + 1) : ended n =
      .token [.start name
        (attributes.map fun a => (a.1.toList, valueOf (some ('"' :: a.2 ++ ['"'])))) void] rest := by
    have hafter : all.drop n = rest := by
      rw [hn, hfront]
      simp
    dsimp only [ended, found]
    rw [hread, hafter]
    dsimp only
    rw [trim_tagClose, map_lower_spelled h, hname.small]
    cases void <;> rfl
  have hpassed : passed = all.length - behind.length := rfl
  rcases hbehind with hbehind | ⟨hvoid, hbehind⟩
  · change behind = _ at hbehind
    rw [hbehind] at hpassed ⊢
    apply hended
    simp [hpassed, hfront]
  · change behind = _ at hbehind
    rw [hbehind] at hpassed ⊢
    apply hended
    have hpos := List.length_pos_iff.mpr (hslash hvoid)
    simp [hpassed, hfront]
    omega

/-! ## End tags -/

theorem upToAngle_tag (word rest : List Char) :
    ∃ p, upToAngle? (word ++ '>' :: rest) = some p := by
  unfold upToAngle?
  dsimp only
  split
  · exact ⟨_, rfl⟩
  · next hdrop =>
    -- the first closing bracket is not behind all of the text
    have hall : ∀ c ∈ word ++ '>' :: rest, (c != '>') = true := by
      have htake : (word ++ '>' :: rest).takeWhile (· != '>') = word ++ '>' :: rest :=
        (List.takeWhile_prefix _).eq_of_length_le (List.drop_eq_nil_iff.mp hdrop)
      exact List.takeWhile_eq_self_iff.mp htake
    exact absurd (hall '>' (by simp)) (by decide)

theorem isBlank_of_letter {c : Char} (h : isAsciiLetter c = true) : isBlank c = false := by
  simp only [isAsciiLetter, isBlank, isWhiteSpace, Bool.or_eq_true, Bool.and_eq_true,
    decide_eq_true_eq, Bool.or_eq_false_iff, Bool.and_eq_false_iff, beq_eq_false_iff_ne,
    decide_eq_false_iff_not] at h ⊢
  omega

theorem endTag_name {name : List Char} (hname : IsTagName name) (rest : List Char) :
    endTag (name ++ '>' :: rest) = .token [.finish name] rest := by
  obtain ⟨p, hp⟩ := upToAngle_tag name rest
  have hplain : plainEndTag? (name ++ '>' :: rest) = some (name, rest) := by
    obtain ⟨hstarts, -, hends, -, -⟩ := hname
    cases name with
    | nil => exact absurd hstarts (by decide)
    | cons c cs =>
      have hletter : isAsciiLetter c = true := hstarts
      have hspan := span_append hends ('>' :: rest) rfl
      rw [List.tail_cons] at hspan
      have hblank : ¬isBlank c = true := by simp [isBlank_of_letter hletter]
      rw [plainEndTag?, List.cons_append, List.dropWhile_cons_of_neg hblank]
      dsimp only
      rw [if_pos hletter, hspan]
      dsimp only
      rw [List.dropWhile_cons_of_neg (by decide)]
      rfl
  rw [endTag, hp]
  dsimp only
  rw [hplain]
  dsimp only
  rw [hname.small]

/-! ## Scanning -/

/-- A token that brings in nothing but text and tags of the common vocabulary. -/
def IsCommonToken : Token → Prop
  | .start name attributes _ =>
    String.ofList name ∈ commonNames ∧ ∀ a ∈ attributes, String.ofList a.1 ∈ commonAttributes
  | .finish _ | .text _ => True
  | .comment | .section _ => False

theorem isCommonToken_start {name : String} (hname : name ∈ commonNames)
    {attributes : List (String × List Char)} (h : CommonSpelling attributes) (void : Bool) :
    IsCommonToken (.start name.toList
      (attributes.map fun a => (a.1.toList, valueOf (some ('"' :: a.2 ++ ['"'])))) void) := by
  refine ⟨by rwa [String.ofList_toList], ?_⟩
  intro b hb
  obtain ⟨a, ha, rfl⟩ := List.mem_map.mp hb
  rw [String.ofList_toList]
  exact (h a ha).1

theorem mark_of_letter {c : Char} (h : isAsciiLetter c = true) (cs : List Char) :
    mark? (c :: cs) = some (startTag (c :: cs)) := by
  -- the other marks begin with characters that are no letters
  have hne {d : Char} (hd : isAsciiLetter d = false) : c ≠ d := by
    rintro rfl
    rw [hd] at h
    cases h
  rw [mark?.eq_def]
  split
  · next heq => exact absurd (List.cons.inj heq).1 (hne (by decide))
  · next heq => exact absurd (List.cons.inj heq).1 (hne (by decide))
  · next heq => exact absurd (List.cons.inj heq).1 (hne (by decide))
  · next heq => exact absurd (List.cons.inj heq).1 (hne (by decide))
  · next heq =>
    obtain ⟨rfl, rfl⟩ := List.cons.inj heq
    exact if_pos h
  · next heq => cases heq

/-- The mark at an angle bracket is the tag that was written, and markup follows it. -/
theorem mark_of_isMarkup {cs : List Char} (h : IsMarkup ('<' :: cs)) :
    ∃ t rest, mark? cs = some (.token [t] rest) ∧ rawBehind [t] = none ∧ IsCommonToken t ∧
      IsMarkup rest := by
  generalize hall : '<' :: cs = all at h
  cases h with
  | nil => cases hall
  | char hc _ =>
    -- a character of the text is no bracket
    exact absurd (List.cons.inj hall).1.symm hc
  | @start name attributes void rest hname hattributes hrest =>
    obtain rfl := (List.cons.inj hall).2
    have htag := isTagName_of_common name hname
    refine ⟨_, rest, ?_, ?_, isCommonToken_start hname hattributes void, hrest⟩
    · rw [← startTag_spelled htag hattributes void rest]
      have hstarts := htag.starts
      cases hchars : name.toList with
      | nil =>
        rw [hchars] at hstarts
        cases hstarts
      | cons c cs =>
        rw [hchars] at hstarts
        exact mark_of_letter hstarts _
    · cases void
      · exact htag.markup
      · rfl
  | @finish name rest hname hrest =>
    obtain rfl := (List.cons.inj hall).2
    have htag := isTagName_of_common name hname
    refine ⟨.finish name.toList, rest, ?_, rfl, trivial, hrest⟩
    rw [mark?, endTag_name htag]

theorem IsMarkup.behindSemicolon {cs : List Char} (h : IsMarkup cs) :
    IsMarkup (behindSemicolon cs).1 := by
  unfold Html.behindSemicolon
  split
  · exact h.tail (by decide)
  · exact h

theorem IsMarkup.span {p : Char → Bool} (hp : p '<' = false) {cs : List Char} (h : IsMarkup cs) :
    IsMarkup (cs.span p).2 := by
  rw [List.span_eq_takeWhile_dropWhile]
  exact h.dropWhile hp

theorem IsMarkup.numberIn {cs rest : List Char} {n : Nat} (h : IsMarkup cs)
    (hfound : numberIn? cs = some (n, rest)) : IsMarkup rest := by
  unfold numberIn? at hfound
  dsimp only at hfound
  split at hfound
  · next c more =>
    -- digits of base sixteen, or else of base ten, and none of them is a bracket
    split at hfound
    · next hx =>
      have hmore : IsMarkup more := by
        refine h.tail ?_
        rintro rfl
        exact absurd hx (by decide)
      have hrest := hmore.dropWhile (p := isHexDigit) (by decide)
      split at hfound
      · next heq =>
        split at hfound
        · cases hfound
        · obtain ⟨-, rfl⟩ := Prod.mk.inj (Option.some.inj hfound)
          exact heq ▸ hrest
      · cases hfound
    · have hrest := h.dropWhile (p := isAsciiDigit) (by decide)
      split at hfound
      · next heq =>
        split at hfound
        · cases hfound
        · obtain ⟨-, rfl⟩ := Prod.mk.inj (Option.some.inj hfound)
          exact heq ▸ hrest
      · cases hfound
  · cases hfound

theorem IsMarkup.nameIn {cs name rest : List Char} (h : IsMarkup cs)
    (hfound : nameIn? cs = some (name, rest)) : IsMarkup rest := by
  unfold nameIn? at hfound
  split at hfound
  · next c more =>
    split at hfound
    · next hletter =>
      have hmore : IsMarkup more := by
        refine h.tail ?_
        rintro rfl
        exact absurd hletter (by decide)
      dsimp only at hfound
      rw [List.span_eq_takeWhile_dropWhile] at hfound
      dsimp only at hfound
      split at hfound
      · next heq =>
        obtain ⟨-, rfl⟩ := Prod.mk.inj (Option.some.inj hfound)
        exact heq ▸ hmore.dropWhile (by decide)
      · -- the rest is taken from the name, which holds no angle bracket
        split at hfound
        · next d before hkept =>
          obtain ⟨-, rfl⟩ := Prod.mk.inj (Option.some.inj hfound)
          have hclass : ∀ c ∈ more.takeWhile
              (fun c => isAsciiLetter c || isAsciiDigit c || c == '-' || c == '.'), c ≠ '<' := by
            rintro c hc rfl
            exact absurd (List.mem_takeWhile_imp hc) (by decide)
          have hd : d ≠ '<' := by
            have hmem := (List.dropWhile_sublist _).subset (hkept ▸ List.mem_cons_self)
            exact hclass d (List.mem_reverse.mp hmem)
          refine .char hd (.of_noAngle ?_)
          intro hmem
          exact hclass '<' (List.mem_of_mem_drop hmem) rfl
        · cases hfound
    · cases hfound
  · cases hfound

/-- A run that is not refused, gives common tokens and leaves markup for any mark. -/
def ScansCommon (result : Except Refusal Scan) : Prop :=
  ∃ ts rest, result = .ok (ts, rest, none) ∧ (∀ t ∈ ts, IsCommonToken t) ∧ IsMarkup rest

theorem ScansCommon.stop {cs : List Char} (h : IsMarkup cs) : ScansCommon (.ok ([], cs, none)) :=
  ⟨[], cs, rfl, fun _ ht => absurd ht List.not_mem_nil, h⟩

theorem ScansCommon.after {t : Token} (ht : IsCommonToken t) {result : Except Refusal Scan}
    (h : ScansCommon result) : ScansCommon (result.map (Scan.after [t])) := by
  obtain ⟨ts, rest, rfl, hts, hrest⟩ := h
  exact ⟨t :: ts, rest, rfl, List.forall_mem_cons.mpr ⟨ht, hts⟩, hrest⟩

/-- A run of the scanner over markup. -/
theorem scan_of_isMarkup (last : Bool) (fuel : Nat) :
    ∀ cs, IsMarkup cs → ScansCommon (scan last fuel none cs) := by
  induction fuel with
  | zero => exact fun cs h => .stop h
  | succ fuel ih =>
    intro cs h
    -- whatever is scanned as text leaves markup behind it
    have htext (text rest : List Char) (hrest : IsMarkup rest) :
        ScansCommon ((scan last fuel none rest).map (Scan.after [.text text])) := by
      have hcommon : IsCommonToken (.text text) := trivial
      exact (ih rest hrest).after hcommon
    rw [scan.eq_def]
    dsimp only
    split
    · exact .stop .nil
    · next more =>
      obtain ⟨t, rest, hmark, hraw, ht, hrest⟩ := mark_of_isMarkup h
      rw [hmark]
      dsimp only
      rw [hraw]
      exact (ih rest hrest).after ht
    · next more =>
      have hmore := (h.tail (by decide)).tail (by decide)
      split
      · next n rest hnumber => exact htext _ _ (hmore.numberIn hnumber).behindSemicolon
      · split
        · exact ⟨_, _, rfl, by simp [IsCommonToken], hmore⟩
        · exact .stop h
    · next more _ =>
      have hmore := h.tail (by decide)
      split
      · next name rest hname => exact htext _ _ (hmore.nameIn hname).behindSemicolon
      · split
        · exact .stop h
        · split
          · split
            · exact .stop hmore
            · exact .stop h
          · exact htext _ _ hmore
    · next c more hangle _ _ =>
      have hmore : IsMarkup more := h.tail hangle
      have hrest := hmore.span (p := fun c => c != '<' && c != '&') (by decide)
      exact htext _ _ hrest

/-- **Tokens of markup.** A text whose tags are all common is never refused, and its tokens are
common. -/
theorem tokens_of_isMarkup {cs : List Char} (h : IsMarkup cs) :
    ∃ ts, tokens cs = .ok ts ∧ ∀ t ∈ ts, IsCommonToken t := by
  obtain ⟨ts, rest, hfirst, hts, hrest⟩ := scan_of_isMarkup false (cs.length + 1) cs h
  obtain ⟨more, left, hlast, hmore, -⟩ := scan_of_isMarkup true (rest.length + 1) rest hrest
  refine ⟨ts ++ more ++ (if left.isEmpty then [] else [.text left]), ?_, ?_⟩
  · rw [tokens, hfirst]
    dsimp only
    rw [hlast]
    rfl
  · intro t ht
    rcases List.mem_append.mp ht with ht | ht
    · exact (List.mem_append.mp ht).elim (hts t) (hmore t)
    · split at ht
      · cases ht
      · rw [List.mem_singleton.mp ht]
        trivial

end Placard.Markdown
