import Placard.Markdown.Inline
import Placard.Proofs.Markdown.BlockVocabulary
import Placard.Proofs.Text.Digit

/-!
# Markup inside texts stays in the common vocabulary

Every rule for texts keeps the vocabulary (`Rule.Keeps`): what it puts in place of the pieces it has
found is code, a link, an image, a line break or a written reference, and its rest comes from the
text. Emphasis is no rule of this form; its open runs hold common pieces throughout
(`Emphasis.IsCommon`).
-/

namespace Placard.Markdown

open Placard.Text Piece

/-! ## Code and escapes -/

theorem AllCommon.closingRun {size fuel : Nat} {ps text rest : List Piece} (h : AllCommon ps)
    (hrun : closingRun? size fuel ps = some (text, rest)) : AllCommon text ∧ AllCommon rest := by
  induction fuel generalizing ps text with
  | zero => simp [closingRun?] at hrun
  | succ n ih =>
    cases ps with
    | nil => simp [closingRun?] at hrun
    | cons p ps =>
      rw [closingRun?] at hrun
      split at hrun
      · simp only [List.splitAt_eq] at hrun
        split at hrun
        · obtain ⟨rfl, rfl⟩ := Prod.mk.inj (Option.some.inj hrun)
          exact ⟨allCommon_nil, h.drop _⟩
        · obtain ⟨⟨text', rest'⟩, hfound, heq⟩ := Option.map_eq_some_iff.mp hrun
          obtain ⟨rfl, rfl⟩ := Prod.mk.inj heq
          obtain ⟨htext, hrest⟩ := ih (h.drop _) hfound
          exact ⟨allCommon_append.mpr ⟨h.take _, htext⟩, hrest⟩
      · obtain ⟨⟨text', rest'⟩, hfound, heq⟩ := Option.map_eq_some_iff.mp hrun
        obtain ⟨rfl, rfl⟩ := Prod.mk.inj heq
        rw [allCommon_cons] at h
        obtain ⟨htext, hrest⟩ := ih h.2 hfound
        exact ⟨allCommon_cons.mpr ⟨h.1, htext⟩, hrest⟩

theorem AllCommon.codeFrom {run size : Nat} {behind text rest : List Piece}
    (h : AllCommon behind) (hcode : codeFrom? run behind size = some (text, rest)) :
    AllCommon text ∧ AllCommon rest := by
  induction size with
  | zero => cases hcode
  | succ n ih =>
    rw [codeFrom?] at hcode
    split at hcode
    · next text' rest' hclosed =>
      obtain ⟨rfl, rfl⟩ := Prod.mk.inj (Option.some.inj hcode)
      obtain ⟨htext, hrest⟩ := h.closingRun hclosed
      exact ⟨allCommon_append.mpr ⟨.replicate (.char _) _, htext⟩, hrest⟩
    · exact ih hcode

theorem isCommon_codeElement {text : List Piece} (h : AllCommon text) :
    (codeElement text).IsCommon := by
  refine isCommon_plain trivial ?_
  intro q hq
  obtain ⟨p, hp, hq⟩ := List.mem_flatMap.mp hq
  split at hq
  · exact allCommon_ofCode _ q hq
  · rw [List.mem_singleton.mp hq]
    exact h.trimPieces p hp

theorem codeRule_keeps : Rule.Keeps codeRule := by
  intro before ps h
  unfold codeRule
  dsimp only
  split
  · trivial
  · split
    · trivial
    · split
      · split
        · next text rest hcode =>
          obtain ⟨htext, hrest⟩ := AllCommon.codeFrom (h.drop _) hcode
          exact ⟨allCommon_cons.mpr ⟨isCommon_codeElement htext, allCommon_nil⟩, hrest⟩
        · trivial
      · split
        · exact ⟨.replicate (.literal _) _, h.drop _⟩
        · trivial

theorem escapeRule_keeps (escapable : List Char) : Rule.Keeps (escapeRule escapable) := by
  intro before ps h
  unfold escapeRule
  split
  · simp only [allCommon_cons] at h
    split
    · split
      · exact ⟨allCommon_cons.mpr ⟨.literal _, allCommon_nil⟩, h.2.2⟩
      · exact h.2.2
    · exact h.2.2
  · trivial

/-! ## Texts in brackets and their targets -/

theorem AllCommon.bracketed {depth : Nat} {ps text rest : List Piece} (h : AllCommon ps)
    (hfound : bracketed? depth ps = some (text, rest)) : AllCommon text ∧ AllCommon rest := by
  induction ps generalizing depth text with
  | nil => cases hfound
  | cons p ps ih =>
    rw [allCommon_cons] at h
    rw [bracketed?] at hfound
    split at hfound
    · obtain ⟨rfl, rfl⟩ := Prod.mk.inj (Option.some.inj hfound)
      exact ⟨allCommon_nil, h.2⟩
    · obtain ⟨⟨text', rest'⟩, hinner, heq⟩ := Option.map_eq_some_iff.mp hfound
      obtain ⟨rfl, rfl⟩ := Prod.mk.inj heq
      obtain ⟨htext, hrest⟩ := ih h.2 hinner
      exact ⟨allCommon_cons.mpr ⟨h.1, htext⟩, hrest⟩

theorem AllCommon.upTo {c : Char} {ps text rest : List Piece} (h : AllCommon ps)
    (hfound : upTo? c ps = some (text, rest)) : AllCommon text ∧ AllCommon rest := by
  unfold upTo? at hfound
  dsimp only at hfound
  split at hfound
  · next q after hdrop =>
    obtain ⟨rfl, rfl⟩ := Prod.mk.inj (Option.some.inj hfound)
    have hafter : AllCommon (q :: after) := hdrop ▸ h.drop _
    exact ⟨h.takeWhile _, (allCommon_cons.mp hafter).2⟩
  · cases hfound

theorem AllCommon.closed {ps rest : List Piece} (h : AllCommon ps)
    (hfound : closed? ps = some rest) : AllCommon rest := by
  have hskip : AllCommon (skipBlanks ps) := h.dropWhile _
  unfold closed? at hfound
  split at hfound
  · next p after heq =>
    split at hfound
    · obtain rfl := Option.some.inj hfound
      rw [heq, allCommon_cons] at hskip
      exact hskip.2
    · cases hfound
  · cases hfound

theorem AllCommon.angleTarget {ps : List Piece} {t : Target} (h : AllCommon ps)
    (hfound : angleTarget? ps = some t) : AllCommon t.rest := by
  -- with a title or without one, the target ends where a parenthesis closes it
  have hclosed {qs : List Piece} {address : List Piece} {title : Option (List Piece)}
      {u : Target} (hqs : AllCommon qs)
      (hu : (closed? qs).map (target address title) = some u) : AllCommon u.rest := by
    obtain ⟨rest, hrest, rfl⟩ := Option.map_eq_some_iff.mp hu
    exact hqs.closed hrest
  unfold angleTarget? at hfound
  split at hfound
  · next p qs =>
    rw [allCommon_cons] at h
    split at hfound
    · split at hfound
      · cases hfound
      · next address rest hupTo =>
        have hrest := (h.2.upTo hupTo).2
        split at hfound
        · cases hfound
        · dsimp only at hfound
          split at hfound
          · next u hquoted =>
            obtain rfl := Option.some.inj hfound
            have hskip : AllCommon (skipBlanks rest) := hrest.dropWhile _
            split at hquoted
            · next q more hmore =>
              rw [hmore, allCommon_cons] at hskip
              split at hquoted
              · split at hquoted
                · next title after htitle => exact hclosed (hskip.2.upTo htitle).2 hquoted
                · cases hquoted
              · cases hquoted
            · cases hquoted
          · exact hclosed hrest hfound
    · cases hfound
  · cases hfound

theorem AllCommon.scanTarget {all ps : List Piece} {s : TargetScan} {t : Target}
    (h : AllCommon all) (hfound : TargetScan.find? all ps s = some t) : AllCommon t.rest := by
  have htarget (u : TargetScan) : AllCommon (u.target all).rest := by
    unfold TargetScan.target
    dsimp only
    split_ifs <;> exact h.drop _
  induction ps generalizing s with
  | nil =>
    rw [TargetScan.find?] at hfound
    split at hfound
    · obtain rfl := Option.some.inj hfound
      unfold TargetScan.spareTarget
      split <;> exact h.drop _
    · cases hfound
  | cons p ps ih =>
    rw [TargetScan.find?] at hfound
    dsimp only at hfound
    split at hfound
    · obtain rfl := Option.some.inj hfound
      exact htarget _
    · exact ih hfound

theorem AllCommon.parenthesized {ps : List Piece} {t : Target} (h : AllCommon ps)
    (hfound : parenthesized? ps = some t) : AllCommon t.rest := by
  unfold parenthesized? at hfound
  split at hfound
  · next p qs =>
    rw [allCommon_cons] at h
    have hskip : AllCommon (skipBlanks qs) := h.2.dropWhile _
    split at hfound
    · dsimp only at hfound
      split at hfound
      · next u hangle =>
        obtain rfl := Option.some.inj hfound
        exact hskip.angleTarget hangle
      · exact hskip.scanTarget hfound
    · cases hfound
  · cases hfound

/-! ## Links and images -/

/-- A way to make an element from an address, a title and a text that brings in nothing else. -/
def MakesCommon (make : List Char → Option (List Char) → List Piece → Piece) : Prop :=
  ∀ address title text, AllCommon text → (make address title text).IsCommon

/-- A beginning that leaves a part of the pieces. -/
def LeavesPart (start? : Option Piece → List Piece → Option (List Piece)) : Prop :=
  ∀ before ps rest, start? before ps = some rest → rest ⊆ ps

theorem titleAttribute_common (title : Option (List Char)) :
    ∀ a ∈ titleAttribute title, a.1 ∈ commonAttributes := by
  intro a ha
  cases title with
  | none => cases ha
  | some t =>
    rw [List.mem_singleton.mp ha]
    exact (by decide : "title" ∈ commonAttributes)

theorem linkTo_makesCommon : MakesCommon linkTo := by
  intro address title text h
  refine .element trivial ?_ h
  intro a ha
  rcases List.mem_cons.mp ha with rfl | ha
  · exact (by decide : "href" ∈ commonAttributes)
  · exact titleAttribute_common title a ha

theorem imageOf_makesCommon : MakesCommon imageOf := by
  intro address title text h
  refine .element trivial ?_ allCommon_nil
  intro a ha
  rcases List.mem_append.mp ha with ha | ha
  · rcases List.mem_cons.mp ha with rfl | ha
    · exact (by decide : "src" ∈ commonAttributes)
    · exact titleAttribute_common title a ha
  · rw [List.mem_singleton.mp ha]
    exact (by decide : "alt" ∈ commonAttributes)

theorem linkStart_leavesPart : LeavesPart linkStart? := by
  intro before ps rest h
  unfold linkStart? at h
  split at h
  · split at h
    · obtain rfl := Option.some.inj h
      exact List.subset_cons_self _ _
    · cases h
  · cases h

theorem imageStart_leavesPart : LeavesPart imageStart? := by
  intro before ps rest h
  unfold imageStart? at h
  split at h
  · split at h
    · obtain rfl := Option.some.inj h
      exact List.subset_cons_of_subset _ (List.subset_cons_self _ _)
    · cases h
  · cases h

section

variable {start? : Option Piece → List Piece → Option (List Piece)}
  {make : List Char → Option (List Char) → List Piece → Piece}

/-- The text in brackets behind a beginning, and what follows it. -/
theorem LeavesPart.bracketed (hstart : LeavesPart start?) {before : Option Piece}
    {ps text rest : List Piece} (h : AllCommon ps)
    (hfound : (start? before ps).bind (bracketed? 1) = some (text, rest)) :
    AllCommon text ∧ AllCommon rest := by
  obtain ⟨inner, hinner, hbracketed⟩ := Option.bind_eq_some_iff.mp hfound
  exact (h.mono (hstart _ _ _ hinner)).bracketed hbracketed

theorem directRule_keeps (hstart : LeavesPart start?) (hmake : MakesCommon make) :
    Rule.Keeps (directRule start? make) := by
  intro before ps h
  unfold directRule
  split
  · trivial
  · next text rest hfound =>
    obtain ⟨htext, hrest⟩ := hstart.bracketed h hfound
    split
    · trivial
    · next t ht =>
      exact ⟨allCommon_cons.mpr ⟨hmake _ _ _ htext, allCommon_nil⟩, hrest.parenthesized ht⟩

theorem resolve_isCommon (hmake : MakesCommon make) (defs : Definitions)
    (label : List Piece) {text rest : List Piece} (htext : AllCommon text)
    (hrest : AllCommon rest) : (resolve defs make label text rest).IsCommon := by
  unfold resolve
  split
  · exact hrest
  · exact ⟨allCommon_cons.mpr ⟨hmake _ _ _ htext, allCommon_nil⟩, hrest⟩

theorem AllCommon.label {ps label rest : List Piece} (h : AllCommon ps)
    (hfound : label? ps = some (label, rest)) : AllCommon rest := by
  cases ps with
  | nil => cases hfound
  | cons p ps =>
    have hbehind : AllCommon (if p.isBlankPiece then ps else p :: ps) := by
      split
      · exact (allCommon_cons.mp h).2
      · exact h
    unfold label? at hfound
    dsimp only at hfound
    split at hfound
    · next q qs heq =>
      rw [heq, allCommon_cons] at hbehind
      split at hfound
      · exact (hbehind.2.upTo hfound).2
      · cases hfound
    · cases hfound

theorem labelRule_keeps (hstart : LeavesPart start?) (hmake : MakesCommon make)
    (defs : Definitions) : Rule.Keeps (labelRule defs start? make) := by
  intro before ps h
  unfold labelRule
  split
  · trivial
  · next text rest hfound =>
    obtain ⟨htext, hrest⟩ := hstart.bracketed h hfound
    split
    · trivial
    · next label rest' hlabel =>
      exact resolve_isCommon hmake defs _ htext (hrest.label hlabel)

theorem shortRule_keeps (hstart : LeavesPart start?) (hmake : MakesCommon make)
    (defs : Definitions) : Rule.Keeps (shortRule defs start? make) := by
  intro before ps h
  unfold shortRule
  split
  · trivial
  · next text rest hfound =>
    obtain ⟨htext, hrest⟩ := hstart.bracketed h hfound
    exact resolve_isCommon hmake defs _ htext hrest

end

/-! ## Addresses between angle brackets -/

theorem AllCommon.angled {ps text rest : List Piece} (h : AllCommon ps)
    (hfound : angled? ps = some (text, rest)) : AllCommon text ∧ AllCommon rest := by
  unfold angled? at hfound
  split at hfound
  · next p qs =>
    split at hfound
    · split at hfound
      · next text' rest' hupTo =>
        split at hfound
        · cases hfound
        · obtain ⟨rfl, rfl⟩ := Prod.mk.inj (Option.some.inj hfound)
          exact (allCommon_cons.mp h).2.upTo hupTo
      · cases hfound
    · cases hfound
  · cases hfound

theorem AllCommon.protect {ps : List Piece} (h : AllCommon ps) : AllCommon (protect ps) := by
  intro q hq
  obtain ⟨p, hp, rfl⟩ := List.mem_map.mp hq
  split
  · exact .literal _
  · exact h p hp

theorem addressRule_keeps : Rule.Keeps addressRule := by
  intro before ps h
  unfold addressRule
  split
  · trivial
  · next text rest hfound =>
    obtain ⟨htext, hrest⟩ := h.angled hfound
    split
    · exact ⟨allCommon_cons.mpr ⟨linkTo_makesCommon _ _ _ htext.protect, allCommon_nil⟩, hrest⟩
    · trivial

/-! ## Written references -/

theorem noAngle_natText (n : Nat) : '<' ∉ natText n :=
  fun hmem => absurd (isAsciiDigit_of_mem_natText hmem) (by decide)

theorem mem_of_mem_wordsBy_go {p : Char → Bool} {c : Char} {cs word w : List Char}
    (hw : w ∈ wordsBy.go p cs word) (hc : c ∈ w) : c ∈ word ∨ c ∈ cs := by
  induction cs generalizing word with
  | nil =>
    cases word with
    | nil => cases hw
    | cons a as =>
      rw [wordsBy.go, List.mem_singleton] at hw
      · rw [hw, List.mem_reverse] at hc
        exact .inl hc
      · simp
  | cons b bs ih =>
    -- a separator ends the current word, if there is one
    have hend (hw : w ∈ wordsBy.go p bs []) : c ∈ b :: bs :=
      List.mem_cons_of_mem b ((ih hw).resolve_left List.not_mem_nil)
    cases hp : p b with
    | true =>
      cases word with
      | nil =>
        rw [wordsBy.go, if_pos hp] at hw
        exact .inr (hend hw)
      | cons a as =>
        rw [wordsBy.go, if_pos hp] at hw
        · rcases List.mem_cons.mp hw with rfl | hw
          · exact .inl (List.mem_reverse.mp hc)
          · exact .inr (hend hw)
        · simp
    | false =>
      unfold wordsBy.go at hw
      rw [hp] at hw
      rcases ih hw with hword | hbs
      · rcases List.mem_cons.mp hword with rfl | hword
        · exact .inr List.mem_cons_self
        · exact .inl hword
      · exact .inr (List.mem_cons_of_mem b hbs)

/-- The words of a text have no characters of their own. -/
theorem mem_of_mem_wordsBy {p : Char → Bool} {c : Char} {cs w : List Char}
    (hw : w ∈ wordsBy p cs) (hc : c ∈ w) : c ∈ cs :=
  (mem_of_mem_wordsBy_go hw hc).resolve_left List.not_mem_nil

/-- The names in a table have no characters of their own. -/
theorem mem_of_mem_entriesOf {table : String} {entry : List Char × List Char} {c : Char}
    (hentry : entry ∈ Html.entriesOf table) (hc : c ∈ entry.1) : c ∈ table.toList := by
  obtain ⟨w, hw, rfl⟩ := List.mem_map.mp hentry
  exact mem_of_mem_wordsBy hw ((List.takeWhile_sublist _).subset hc)

-- The table is long, so it is unfolded once and by the kernel only.
set_option maxRecDepth 30000 in
theorem writtenNameTable_eq : ∃ cs, Html.writtenNameTable = String.ofList cs ∧
    cs.all (· != '<') = true :=
  ⟨_, rfl, by decide +kernel⟩

theorem noAngle_writtenNameTable : '<' ∉ Html.writtenNameTable.toList := by
  obtain ⟨cs, heq, hall⟩ := writtenNameTable_eq
  rw [heq, String.toList_ofList]
  intro hmem
  have hne := List.all_eq_true.mp hall _ hmem
  simp at hne

theorem noAngle_writtenNames {entry : List Char × List Char}
    (h : entry ∈ Html.writtenNames) : '<' ∉ entry.1 := by
  unfold Html.writtenNames at h
  exact fun hmem => noAngle_writtenNameTable (mem_of_mem_entriesOf h hmem)

theorem noAngle_writtenName {c : Char} {name : List Char} (h : Html.writtenName? c = some name) :
    '<' ∉ name := by
  unfold Html.writtenName? at h
  obtain ⟨entry, hentry, rfl⟩ := Option.map_eq_some_iff.mp h
  exact noAngle_writtenNames (List.mem_of_find?_eq_some hentry)

-- An equation between functions, since one for a character would look that character up.
theorem reference_eq : reference = fun c =>
    (Html.writtenName? c).elim (numberReference c) fun name => '&' :: name ++ [';'] := by
  delta reference
  funext c
  cases Html.writtenName? c <;> rfl

theorem noAngle_reference (c : Char) : '<' ∉ reference c := by
  have hnamed (name? : Option (List Char)) (hname : ∀ name, name? = some name → '<' ∉ name) :
      '<' ∉ name?.elim (numberReference c) fun name => '&' :: name ++ [';'] := by
    cases name? with
    | none => simp [numberReference, noAngle_natText]
    | some name => simpa using hname name rfl
  rw [reference_eq]
  exact hnamed _ fun name => noAngle_writtenName

theorem mailRule_keeps : Rule.Keeps mailRule := by
  intro before ps h
  unfold mailRule
  split
  · trivial
  · next text rest hfound =>
    split
    · refine ⟨allCommon_cons.mpr ⟨linkTo_makesCommon _ _ _ ?_, allCommon_nil⟩, (h.angled hfound).2⟩
      intro q hq
      obtain ⟨c, -, rfl⟩ := List.mem_map.mp hq
      exact .entity (noAngle_reference c)
    · trivial

theorem AllCommon.referenceBody {ps rest : List Piece} {body : List Char} (h : AllCommon ps)
    (hfound : referenceBody? ps = some (body, rest)) :
    referenceBody?.isReference body = true ∧ AllCommon rest := by
  unfold referenceBody? at hfound
  dsimp only at hfound
  split at hfound
  · next p after hdrop =>
    have hafter : AllCommon (p :: after) := hdrop ▸ h.drop _
    split at hfound
    · next hreads =>
      obtain ⟨rfl, rfl⟩ := Prod.mk.inj (Option.some.inj hfound)
      rw [Bool.and_eq_true] at hreads
      exact ⟨hreads.2, (allCommon_cons.mp hafter).2⟩
    · cases hfound
  · cases hfound

theorem noAngle_isReference {body : List Char} (h : referenceBody?.isReference body = true) :
    '<' ∉ body := by
  have hclass {p : Char → Bool} {cs : List Char} (hp : p '<' = false)
      (hcs : (!cs.isEmpty && cs.all p) = true) : '<' ∉ cs := by
    intro hmem
    rw [Bool.and_eq_true, List.all_eq_true] at hcs
    rw [hcs.2 _ hmem] at hp
    cases hp
  unfold referenceBody?.isReference at h
  split at h
  · simpa using hclass (by decide) h
  · simpa using hclass (by decide) h
  · exact hclass (by decide) h

theorem referenceRule_keeps : Rule.Keeps referenceRule := by
  intro before ps h
  unfold referenceRule
  split
  · split
    · next body rest' hbody =>
      obtain ⟨hreads, hrest⟩ := (allCommon_cons.mp h).2.referenceBody hbody
      refine ⟨allCommon_cons.mpr ⟨.entity ?_, allCommon_nil⟩, hrest⟩
      simp [noAngle_isReference hreads]
    · trivial
  · trivial

/-! ## Line breaks -/

theorem hardBreakRule_keeps : Rule.Keeps hardBreakRule := by
  intro before ps h
  unfold hardBreakRule
  split
  · simp only [allCommon_cons] at h
    exact ⟨allCommon_cons.mpr ⟨isCommon_plain trivial allCommon_nil, allCommon_nil⟩, h.2.2.2⟩
  · trivial

theorem softBreakRule_keeps : Rule.Keeps softBreakRule := by
  intro before ps h
  unfold softBreakRule
  split
  · rw [allCommon_cons] at h
    exact ⟨allCommon_cons.mpr ⟨isCommon_plain trivial allCommon_nil, allCommon_nil⟩, h.2⟩
  · trivial

/-! ## Emphasis -/

theorem emphasized_isCommon (n : Nat) {content : List Piece} (h : AllCommon content) :
    (emphasized n content).IsCommon := by
  unfold emphasized
  split
  · exact isCommon_plain trivial h
  · exact isCommon_plain trivial h
  · exact isCommon_plain trivial
      (allCommon_cons.mpr ⟨isCommon_plain trivial h, allCommon_nil⟩)

/-- All pieces of the text read so far are common. -/
def Emphasis.IsCommon (e : Emphasis) : Prop :=
  AllCommon e.base ∧ ∀ run ∈ e.runs, AllCommon run.content

theorem AllCommon.nearest {mark : Char} {p : OpenRun → Bool} {runs rest : List OpenRun}
    {found : OpenRun} (h : ∀ run ∈ runs, AllCommon run.content)
    (hfound : nearest? mark p runs = some (found, rest)) :
    AllCommon found.content ∧ ∀ run ∈ rest, AllCommon run.content := by
  induction runs generalizing found with
  | nil => cases hfound
  | cons run runs ih =>
    rw [List.forall_mem_cons] at h
    rw [nearest?] at hfound
    split at hfound
    · obtain ⟨rfl, rfl⟩ := Prod.mk.inj (Option.some.inj hfound)
      exact h
    · -- the marks of this run become text of the run that is found
      obtain ⟨⟨run', rest'⟩, hinner, heq⟩ := Option.map_eq_some_iff.mp hfound
      obtain ⟨rfl, rfl⟩ := Prod.mk.inj heq
      obtain ⟨hcontent, hrest⟩ := ih h.2 hinner
      refine ⟨?_, hrest⟩
      exact allCommon_append.mpr
        ⟨allCommon_append.mpr ⟨h.1, .replicate (.char mark) _⟩, hcontent⟩

theorem Emphasis.IsCommon.push {e : Emphasis} (he : e.IsCommon) {ps : List Piece}
    (hps : AllCommon ps) : (e.push ps).IsCommon := by
  obtain ⟨hbase, hruns⟩ := he
  unfold Emphasis.push
  split
  · exact ⟨allCommon_append.mpr ⟨hps, hbase⟩, hruns⟩
  · next run runs heq =>
    rw [heq, List.forall_mem_cons] at hruns
    exact ⟨hbase, List.forall_mem_cons.mpr
      ⟨allCommon_append.mpr ⟨hps, hruns.1⟩, hruns.2⟩⟩

theorem Emphasis.IsCommon.close (mark : Char) (size : Nat) (opens : Bool) (fuel : Nat) :
    ∀ (n : Nat) {e : Emphasis}, e.IsCommon → (e.close mark size opens fuel n).1.IsCommon := by
  induction fuel with
  | zero => exact fun n e he => he
  | succ fuel ih =>
    intro n e he
    rw [Emphasis.close]
    split
    · exact he
    · split
      · exact he
      · next run runs hfound =>
        obtain ⟨hcontent, hruns⟩ := AllCommon.nearest he.2 hfound
        have hinner := emphasized_isCommon (min 3 (min run.marks n))
          (allCommon_reverse.mpr hcontent)
        apply ih
        -- a run with no marks left over is gone, and its text goes to the one before it
        split
        · have hleft : Emphasis.IsCommon { e with runs } := ⟨he.1, hruns⟩
          exact hleft.push (allCommon_cons.mpr ⟨hinner, allCommon_nil⟩)
        · exact ⟨he.1, List.forall_mem_cons.mpr
            ⟨allCommon_cons.mpr ⟨hinner, allCommon_nil⟩, hruns⟩⟩

theorem Emphasis.IsCommon.run {e : Emphasis} (he : e.IsCommon) (mark : Char) (n : Nat)
    (before after : Option Piece) : (e.run mark n before after).IsCommon := by
  -- marks close what they can; those that are left open a run, or else they are text
  have hclosed : (if canClose mark before after then
      e.close mark n (canOpen mark before after) n n else (e, n)).1.IsCommon := by
    split
    · exact he.close mark n _ n n
    · exact he
  unfold Emphasis.run
  dsimp only
  generalize (if canClose mark before after then
    e.close mark n (canOpen mark before after) n n else (e, n)) = closed at hclosed ⊢
  obtain ⟨e', left⟩ := closed
  dsimp only
  split
  · exact hclosed
  · split
    · exact ⟨hclosed.1, List.forall_mem_cons.mpr ⟨allCommon_nil, hclosed.2⟩⟩
    · exact hclosed.push (.replicate (.char mark) _)

theorem Emphasis.IsCommon.pieces {e : Emphasis} (he : e.IsCommon) (mark : Char) :
    AllCommon (e.pieces mark) := by
  refine allCommon_append.mpr ⟨allCommon_reverse.mpr he.1, ?_⟩
  intro p hp
  obtain ⟨run, hrun, hp⟩ := List.mem_flatMap.mp hp
  have hcontent := he.2 run (List.mem_reverse.mp hrun)
  exact allCommon_append.mpr ⟨.replicate (.char mark) _, allCommon_reverse.mpr hcontent⟩ p hp

theorem Emphasis.IsCommon.readEmphasis (mark : Char) (fuel : Nat) :
    ∀ (before : Option Piece) (ps : List Piece) {e : Emphasis}, AllCommon ps → e.IsCommon →
      (readEmphasis mark fuel before ps e).IsCommon := by
  induction fuel with
  | zero => exact fun before ps e _ he => he
  | succ fuel ih =>
    intro before ps e hps he
    cases ps with
    | nil => exact he
    | cons p ps =>
      rw [Markdown.readEmphasis]
      split
      · exact ih _ _ (hps.drop _) (he.run mark _ _ _)
      · rw [allCommon_cons] at hps
        exact ih _ _ hps.2 (he.push (allCommon_cons.mpr ⟨hps.1, allCommon_nil⟩))

theorem AllCommon.emphasize (mark : Char) {ps : List Piece} (h : AllCommon ps) :
    AllCommon (emphasize mark ps) := by
  have hstart : (Emphasis.mk [] []).IsCommon :=
    ⟨allCommon_nil, fun _ hrun => absurd hrun List.not_mem_nil⟩
  exact (hstart.readEmphasis mark _ _ _ h).pieces mark

/-! ## Reading -/

/-- **Texts with markup.** Reading all markup of a text keeps the vocabulary. -/
theorem AllCommon.readInline (rules : InlineRules) (defs : Definitions) {text : List Piece}
    (h : AllCommon text) : AllCommon (readInline rules defs text) := by
  have hpasses {passes : List (List Piece → List Piece)}
      (hkeep : ∀ pass ∈ passes, ∀ ps, AllCommon ps → AllCommon (pass ps)) :
      ∀ {ps}, AllCommon ps →
        AllCommon (passes.foldl (fun ps pass => Markdown.everywhere pass ps) ps) := by
    induction passes with
    | nil => exact fun hps => hps
    | cons pass passes ih =>
      intro ps hps
      rw [List.forall_mem_cons] at hkeep
      exact ih hkeep.2 (hps.everywhere hkeep.1)
  refine hpasses ?_ h
  intro pass hpass ps hps
  -- the passes of every text in their order, and then the one that some rules add
  rcases List.mem_append.mp hpass with hpass | hpass
  · simp only [List.mem_cons, List.not_mem_nil, or_false] at hpass
    rcases hpass with rfl | rfl | rfl | rfl | rfl | rfl | rfl | rfl | rfl | rfl | rfl | rfl |
      rfl | rfl
    · exact codeRule_keeps.rewrite hps
    · exact (escapeRule_keeps _).rewrite hps
    · exact (labelRule_keeps linkStart_leavesPart linkTo_makesCommon _).rewrite hps
    · exact (directRule_keeps linkStart_leavesPart linkTo_makesCommon).rewrite hps
    · exact (directRule_keeps imageStart_leavesPart imageOf_makesCommon).rewrite hps
    · exact (labelRule_keeps imageStart_leavesPart imageOf_makesCommon _).rewrite hps
    · exact (shortRule_keeps linkStart_leavesPart linkTo_makesCommon _).rewrite hps
    · exact (shortRule_keeps imageStart_leavesPart imageOf_makesCommon _).rewrite hps
    · exact addressRule_keeps.rewrite hps
    · exact mailRule_keeps.rewrite hps
    · exact hardBreakRule_keeps.rewrite hps
    · exact referenceRule_keeps.rewrite hps
    · exact hps.emphasize '*'
    · exact hps.emphasize '_'
  · split at hpass
    · rw [List.mem_singleton.mp hpass]
      exact softBreakRule_keeps.rewrite hps
    · cases hpass

theorem AllCommon.readTexts (rules : InlineRules) (defs : Definitions) {ps : List Piece}
    (h : AllCommon ps) : AllCommon (readTexts rules defs ps) :=
  h.everywhere fun _ hps => hps.onText fun _ htext => htext.readInline rules defs

end Placard.Markdown
