import Placard.Markdown.Document
import Placard.Proofs.Markdown.InlineVocabulary

/-!
# Documents write markup of the common vocabulary

`IsMarkup` is a grammar of texts: characters that open no tag, start tags with attributes in double
quotes, and end tags, all with names of the common vocabulary. It does not ask that tags match. A
document of common pieces is written in this grammar (`isMarkup_writeDocument`): texts and values
are escaped, so the only angle brackets in it are those of its own elements.
-/

namespace Placard.Markdown

open Placard.Text Piece

/-! ## A grammar of markup -/

/-- The names of the common elements. -/
def commonNames : List String :=
  ["p", "h1", "h2", "h3", "h4", "h5", "h6", "ul", "ol", "li", "blockquote", "pre", "code", "hr",
    "br", "a", "img", "em", "strong"]

/-- Attributes with values that are already escaped. -/
def spelled (attributes : List (String × List Char)) : List Char :=
  attributes.flatMap fun a => ' ' :: a.1.toList ++ '=' :: '"' :: a.2 ++ ['"']

/-- The end of a start tag; void elements have a slash in it. -/
def tagEnd (void : Bool) : List Char :=
  if void then " />".toList else ['>']

/-- Attributes of common names whose values end at their second quote. -/
def CommonSpelling (attributes : List (String × List Char)) : Prop :=
  ∀ a ∈ attributes, a.1 ∈ commonAttributes ∧ '"' ∉ a.2

/-- A text whose tags all have common names and attributes. -/
inductive IsMarkup : List Char → Prop where
  | nil : IsMarkup []
  | char {c : Char} {cs : List Char} : c ≠ '<' → IsMarkup cs → IsMarkup (c :: cs)
  | start {name : String} {attributes : List (String × List Char)} (void : Bool)
      {cs : List Char} :
      name ∈ commonNames → CommonSpelling attributes → IsMarkup cs →
      IsMarkup ('<' :: (name.toList ++ (spelled attributes ++ (tagEnd void ++ cs))))
  | finish {name : String} {cs : List Char} :
      name ∈ commonNames → IsMarkup cs → IsMarkup ('<' :: '/' :: (name.toList ++ '>' :: cs))

namespace IsMarkup

/-- A text without angle brackets holds no tags. -/
theorem of_noAngle {cs : List Char} (h : '<' ∉ cs) : IsMarkup cs := by
  induction cs with
  | nil => exact .nil
  | cons c cs ih =>
    rw [List.mem_cons, not_or] at h
    exact .char (Ne.symm h.1) (ih h.2)

theorem append {cs ds : List Char} (hcs : IsMarkup cs) (hds : IsMarkup ds) :
    IsMarkup (cs ++ ds) := by
  induction hcs with
  | nil => exact hds
  | char hc _ ih => exact .char hc ih
  | start void hname hattributes _ ih =>
    simpa [List.append_assoc] using IsMarkup.start void hname hattributes ih
  | finish hname _ ih => simpa [List.append_assoc] using IsMarkup.finish hname ih

/-- What follows a character that opens no tag. -/
theorem tail {c : Char} {cs : List Char} (h : IsMarkup (c :: cs)) (hc : c ≠ '<') :
    IsMarkup cs := by
  cases h with
  | char _ hcs => exact hcs
  | start => exact absurd rfl hc
  | finish => exact absurd rfl hc

theorem dropWhile {p : Char → Bool} (hp : p '<' = false) {cs : List Char} (h : IsMarkup cs) :
    IsMarkup (cs.dropWhile p) := by
  induction cs with
  | nil => exact .nil
  | cons c cs ih =>
    rw [List.dropWhile_cons]
    split
    · next hc =>
      refine ih (h.tail ?_)
      rintro rfl
      rw [hp] at hc
      cases hc
    · exact h

/-- The text without its last character, if that one ends no tag. -/
theorem dropLast_of_ne {c : Char} (hc : c ≠ '>') {ds : List Char} (h : IsMarkup ds) :
    ∀ {cs : List Char}, ds = cs ++ [c] → IsMarkup cs := by
  -- a tag in front of what follows it stays whole, since the last character is not in it
  have hbehind {tag rest cs : List Char} (heq : tag ++ '>' :: rest = cs ++ [c]) :
      ∃ cs', rest = cs' ++ [c] ∧ cs = tag ++ '>' :: cs' := by
    rcases rest.eq_nil_or_concat with rfl | ⟨cs', d, rfl⟩
    · have hlast := (List.append_inj' heq rfl).2
      exact absurd (List.cons.inj hlast).1.symm hc
    · rw [List.concat_eq_append, ← List.cons_append, ← List.append_assoc] at heq
      obtain ⟨htag, hlast⟩ := List.append_inj' heq rfl
      obtain rfl := (List.cons.inj hlast).1
      exact ⟨cs', List.concat_eq_append, htag.symm⟩
  induction h with
  | nil =>
    intro cs heq
    simp at heq
  | @char d ds hd hds ih =>
    intro cs heq
    cases cs with
    | nil => exact .nil
    | cons b bs =>
      rw [List.cons_append] at heq
      obtain ⟨rfl, hds⟩ := List.cons.inj heq
      exact .char hd (ih hds)
  | @start name attributes void rest hname hattributes hrest ih =>
    intro cs heq
    have hend : tagEnd void = (tagEnd void).dropLast ++ ['>'] := by cases void <;> rfl
    obtain ⟨cs', hrest', rfl⟩ := @hbehind
      ('<' :: (name.toList ++ (spelled attributes ++ (tagEnd void).dropLast))) rest cs (by
        rw [← heq, hend]
        simp)
    have hstart := IsMarkup.start void hname hattributes (ih hrest')
    rw [hend] at hstart
    simpa using hstart
  | @finish name rest hname hrest ih =>
    intro cs heq
    obtain ⟨cs', hrest', rfl⟩ := @hbehind ('<' :: '/' :: name.toList) rest cs heq
    exact .finish hname (ih hrest')

theorem dropTrailing {p : Char → Bool} (hp : p '>' = false) {cs : List Char}
    (h : IsMarkup cs) : IsMarkup (dropTrailing p cs) := by
  unfold Text.dropTrailing
  rw [← List.reverse_reverse cs] at h
  generalize cs.reverse = ds at h
  induction ds with
  | nil => exact .nil
  | cons c ds ih =>
    rw [List.dropWhile_cons]
    split
    · next hc =>
      rw [List.reverse_cons] at h
      refine ih (h.dropLast_of_ne ?_ rfl)
      rintro rfl
      rw [hp] at hc
      cases hc
    · exact h

theorem trim {cs : List Char} (h : IsMarkup cs) : IsMarkup (trim cs) :=
  (h.dropWhile (by decide)).dropTrailing (by decide)

end IsMarkup

/-! ## Escaped texts -/

theorem mem_escapeText {inAttribute : Bool} {d : Char} {cs : List Char}
    (h : d ∈ escapeText inAttribute cs) : d ≠ '<' ∧ (d = '"' → inAttribute = false) := by
  have hword {word : List Char} (hword : word.all (fun e => e != '<' && e != '"') = true)
      (hd : d ∈ word) : d ≠ '<' ∧ (d = '"' → inAttribute = false) := by
    have hne := List.all_eq_true.mp hword d hd
    simp only [bne_iff_ne, Bool.and_eq_true] at hne
    exact ⟨hne.1, fun heq => absurd heq hne.2⟩
  induction cs with
  | nil => cases h
  | cons c cs ih =>
    rw [escapeText] at h
    rcases List.mem_append.mp h with h | h
    · split_ifs at h with hamp hfollows hless hmore hquote
      · exact hword (by decide) h
      · exact hword (by decide) h
      · exact hword (by decide) h
      · exact hword (by decide) h
      · exact hword (by decide) h
      · rw [List.mem_singleton.mp h]
        exact ⟨hless, fun heq => by simpa [heq] using hquote⟩
    · exact ih h

theorem noAngle_escapeText (inAttribute : Bool) (cs : List Char) :
    '<' ∉ escapeText inAttribute cs :=
  fun h => (mem_escapeText h).1 rfl

theorem noQuote_escapeText (cs : List Char) : '"' ∉ escapeText true cs :=
  fun h => absurd ((mem_escapeText h).2 rfl) (by decide)

/-! ## Writing -/

theorem Kind.IsCommon.name {kind : Kind} (h : kind.IsCommon) : kind.name ∈ commonNames := by
  cases kind with
  | heading level =>
    obtain ⟨hlow, hhigh⟩ := h
    have hlevels : ∀ level < 7, 1 ≤ level → (Kind.heading level).name ∈ commonNames := by decide
    exact hlevels level (Nat.lt_succ_of_le hhigh) hlow
  | table | tableHead | tableBody | tableRow | headCell | bodyCell => exact h.elim
  | _ => decide

theorem mem_of_mem_insertSorted {a b : String × List Char} {attributes : List (String × List Char)}
    (h : b ∈ insertSorted a attributes) : b = a ∨ b ∈ attributes := by
  induction attributes with
  | nil => exact .inl (List.mem_singleton.mp h)
  | cons c attributes ih =>
    rw [insertSorted] at h
    split at h
    · rcases List.mem_cons.mp h with rfl | h
      · exact .inr List.mem_cons_self
      · exact (ih h).imp_right (List.mem_cons_of_mem c)
    · exact List.mem_cons.mp h

theorem mem_of_mem_sorted {a : String × List Char} {attributes : List (String × List Char)}
    (h : a ∈ attributes.foldr insertSorted []) : a ∈ attributes := by
  induction attributes with
  | nil => cases h
  | cons b attributes ih =>
    rcases mem_of_mem_insertSorted h with rfl | h
    · exact List.mem_cons_self
    · exact List.mem_cons_of_mem b (ih h)

theorem writtenAttributes_eq {attributes : List (String × List Char)}
    (h : ∀ a ∈ attributes, a.1 ∈ commonAttributes) :
    ∃ escaped, CommonSpelling escaped ∧ writtenAttributes attributes = spelled escaped := by
  refine ⟨(attributes.foldr insertSorted []).map fun a => (a.1, escapeText true a.2), ?_, ?_⟩
  · intro e he
    obtain ⟨a, ha, rfl⟩ := List.mem_map.mp he
    exact ⟨h a (mem_of_mem_sorted ha), noQuote_escapeText a.2⟩
  · rw [writtenAttributes, spelled, List.flatMap_map]

theorem IsMarkup.writtenElement {kind : Kind} {attributes : List (String × List Char)}
    {content : List Char} (hkind : kind.IsCommon)
    (hattributes : ∀ a ∈ attributes, a.1 ∈ commonAttributes) (hcontent : IsMarkup content) :
    IsMarkup (writtenElement kind attributes content) := by
  obtain ⟨escaped, hescaped, heq⟩ := writtenAttributes_eq hattributes
  unfold Markdown.writtenElement
  rw [heq]
  split
  · simpa [tagEnd] using IsMarkup.start true hkind.name hescaped .nil
  · have hfinish := IsMarkup.finish hkind.name .nil
    simpa [tagEnd] using IsMarkup.start false hkind.name hescaped (hcontent.append hfinish)

theorem isMarkup_pending (pending : List Char) : IsMarkup (escapeText false pending.reverse) :=
  .of_noAngle (noAngle_escapeText false pending.reverse)

theorem isMarkup_writePieces_of {ps : List Piece}
    (h : ∀ p ∈ ps, ∀ pending, IsMarkup (writePiece pending p).1) (pending : List Char) :
    IsMarkup (writePieces pending ps) := by
  induction ps generalizing pending with
  | nil =>
    rw [writePieces]
    exact isMarkup_pending pending
  | cons p ps ih =>
    rw [List.forall_mem_cons] at h
    rw [writePieces]
    exact (h.1 pending).append (ih h.2 _)

theorem Piece.IsCommon.isMarkup {p : Piece} (hp : p.IsCommon) (pending : List Char) :
    IsMarkup (writePiece pending p).1 := by
  induction hp generalizing pending with
  | char c => exact .nil
  | literal c => exact .nil
  | entity hwritten =>
    rw [writePiece]
    exact (isMarkup_pending pending).append (.of_noAngle hwritten)
  | element hkind hattributes _ ih =>
    rw [writePiece]
    exact (isMarkup_pending pending).append
      (.writtenElement hkind hattributes (isMarkup_writePieces_of ih []))

/-- **Documents as markup.** What is written for common pieces holds no tags but theirs. -/
theorem isMarkup_writeDocument {content : List Piece} (h : AllCommon content) :
    IsMarkup (writeDocument content) :=
  (isMarkup_writePieces_of (fun p hp => (h p hp).isMarkup) []).trim

/-- **Documents in the common vocabulary.** Without tables and lists of attributes every text gives
common pieces. -/
theorem allCommon_readDocument {extensions : List Extension}
    (htables : Extension.tables ∉ extensions)
    (hlists : Extension.attributeLists ∉ extensions) (cs : List Char) :
    AllCommon (readDocument extensions cs) := by
  have hno : extensions.contains .tables = false := by simpa using htables
  have hplain : extensions.contains .attributeLists = false := by simpa using hlists
  unfold readDocument
  rw [hplain]
  exact ((allCommon_readText hno _).readTexts _ _).inLinesEach.laidOut

end Placard.Markdown
