import Mathlib.Data.List.Basic
import Placard.Markdown.Rewrite
import Placard.Markdown.Xhtml

/-!
# The common vocabulary of documents

Without tables and lists of attributes a document consists of *common* pieces: characters, written
references without an angle bracket, and elements of fourteen kinds with five attributes. This is
the invariant that everything which makes or moves pieces keeps; so no text can bring in an element
or an attribute of its own.

Most steps only move pieces, and then it is enough that they give no piece that was not there
(`AllCommon.mono`). The rest of the module carries the invariant through rewriting and layout.
-/

namespace Placard.Markdown

open Placard.Text Piece

/-- The kinds of elements that need no extension. There are six levels of headings. -/
def Kind.IsCommon : Kind → Prop
  | .heading level => 1 ≤ level ∧ level ≤ 6
  | .table | .tableHead | .tableBody | .tableRow | .headCell | .bodyCell => False
  | _ => True

/-- The attributes that elements have without lists of attributes. -/
def commonAttributes : List String :=
  ["href", "src", "alt", "title", "start"]

/-- A piece of the common vocabulary, with everything in it. -/
inductive Piece.IsCommon : Piece → Prop where
  | char (c : Char) : IsCommon (.char c)
  | literal (c : Char) : IsCommon (.literal c)
  | entity {written : List Char} : '<' ∉ written → IsCommon (.entity written)
  | element {kind : Kind} {attributes : List (String × List Char)} {content : List Piece} :
      kind.IsCommon → (∀ a ∈ attributes, a.1 ∈ commonAttributes) →
      (∀ p ∈ content, IsCommon p) → IsCommon (.element kind attributes content)

/-- All of these pieces belong to the common vocabulary. -/
def AllCommon (ps : List Piece) : Prop :=
  ∀ p ∈ ps, p.IsCommon

/-! ## Moving pieces -/

@[simp] theorem allCommon_nil : AllCommon [] := by
  intro p hp
  cases hp

@[simp] theorem allCommon_cons {p : Piece} {ps : List Piece} :
    AllCommon (p :: ps) ↔ p.IsCommon ∧ AllCommon ps :=
  List.forall_mem_cons

@[simp] theorem allCommon_append {ps qs : List Piece} :
    AllCommon (ps ++ qs) ↔ AllCommon ps ∧ AllCommon qs :=
  List.forall_mem_append

@[simp] theorem allCommon_reverse {ps : List Piece} : AllCommon ps.reverse ↔ AllCommon ps := by
  simp [AllCommon]

/-- Pieces that are all taken from common ones are common. -/
theorem AllCommon.mono {ps qs : List Piece} (h : AllCommon ps) (hsub : qs ⊆ ps) : AllCommon qs :=
  fun p hp => h p (hsub hp)

theorem AllCommon.take {ps : List Piece} (h : AllCommon ps) (n : Nat) : AllCommon (ps.take n) :=
  h.mono (List.take_subset n ps)

theorem AllCommon.drop {ps : List Piece} (h : AllCommon ps) (n : Nat) : AllCommon (ps.drop n) :=
  h.mono (List.drop_subset n ps)

theorem AllCommon.takeWhile {ps : List Piece} (h : AllCommon ps) (f : Piece → Bool) :
    AllCommon (ps.takeWhile f) :=
  h.mono (List.takeWhile_sublist f).subset

theorem AllCommon.dropWhile {ps : List Piece} (h : AllCommon ps) (f : Piece → Bool) :
    AllCommon (ps.dropWhile f) :=
  h.mono (List.dropWhile_sublist f).subset

theorem AllCommon.replicate {p : Piece} (h : p.IsCommon) (n : Nat) :
    AllCommon (List.replicate n p) := by
  intro q hq
  rw [(List.mem_replicate.mp hq).2]
  exact h

theorem AllCommon.leadingText {ps : List Piece} (h : AllCommon ps) : AllCommon (leadingText ps) :=
  h.takeWhile _

theorem AllCommon.afterText {ps : List Piece} (h : AllCommon ps) : AllCommon (afterText ps) :=
  h.dropWhile _

theorem AllCommon.trailingText {ps : List Piece} (h : AllCommon ps) :
    AllCommon (trailingText ps) :=
  allCommon_reverse.mpr ((allCommon_reverse.mpr h).takeWhile _)

theorem AllCommon.beforeText {ps : List Piece} (h : AllCommon ps) : AllCommon (beforeText ps) :=
  allCommon_reverse.mpr ((allCommon_reverse.mpr h).dropWhile _)

theorem AllCommon.trimPieces {ps : List Piece} (h : AllCommon ps) : AllCommon (trimPieces ps) :=
  allCommon_reverse.mpr ((allCommon_reverse.mpr (h.dropWhile _)).dropWhile _)

/-! ## Making pieces -/

theorem allCommon_ofChars (cs : List Char) : AllCommon (ofChars cs) := by
  intro p hp
  obtain ⟨c, -, rfl⟩ := List.mem_map.mp hp
  exact .char c

theorem allCommon_ofLiteral (cs : List Char) : AllCommon (ofLiteral cs) := by
  intro p hp
  obtain ⟨c, -, rfl⟩ := List.mem_map.mp hp
  exact .literal c

theorem isCommon_plain {kind : Kind} {content : List Piece} (hkind : kind.IsCommon)
    (h : AllCommon content) : (plain kind content).IsCommon :=
  .element hkind (fun _ ha => absurd ha List.not_mem_nil) h

theorem isCommon_element {kind : Kind} {attributes : List (String × List Char)}
    {content : List Piece} : (Piece.element kind attributes content).IsCommon ↔
      kind.IsCommon ∧ (∀ a ∈ attributes, a.1 ∈ commonAttributes) ∧ AllCommon content := by
  constructor
  · rintro (_ | _ | _ | ⟨hkind, hattributes, hcontent⟩)
    exact ⟨hkind, hattributes, hcontent⟩
  · rintro ⟨hkind, hattributes, hcontent⟩
    exact .element hkind hattributes hcontent

/-! ## Rewriting -/

/-- What a rule finds is common. -/
def Finding.IsCommon : Finding → Prop
  | .nothing => True
  | .kept rest => AllCommon rest
  | .replaced new rest => AllCommon new ∧ AllCommon rest

/-- A rule that finds common pieces among common ones. -/
def Rule.Keeps (rule : Rule) : Prop :=
  ∀ before ps, AllCommon ps → (rule before ps).IsCommon

theorem Rule.Keeps.replaceFirst {rule : Rule} (hrule : Rule.Keeps rule) (fuel : Nat) :
    ∀ before ps qs, AllCommon before → AllCommon ps →
      replaceFirst? rule fuel before ps = some qs → AllCommon qs := by
  -- what the rule has passed is kept in reverse
  induction fuel with
  | zero =>
    intro before ps qs _ _ h
    rw [replaceFirst?] at h
    cases h
  | succ n ih =>
    intro before ps qs hbefore hps h
    cases ps with
    | nil =>
      simp [replaceFirst?] at h
    | cons p ps =>
      have hfound := hrule before.head? (p :: ps) hps
      rw [replaceFirst?] at h
      cases hcase : rule before.head? (p :: ps) with
      | nothing =>
        rw [hcase] at h
        rw [allCommon_cons] at hps
        exact ih _ _ _ (allCommon_cons.mpr ⟨hps.1, hbefore⟩) hps.2 h
      | kept rest =>
        rw [hcase] at h hfound
        refine ih _ _ _ (allCommon_append.mpr ⟨?_, hbefore⟩) hfound h
        exact allCommon_reverse.mpr (hps.take _)
      | replaced new rest =>
        rw [hcase] at h hfound
        obtain rfl := Option.some.inj h
        simp only [allCommon_append, allCommon_reverse]
        exact ⟨⟨hbefore, hfound.1⟩, hfound.2⟩

theorem Rule.Keeps.replaceUpTo {rule : Rule} (hrule : Rule.Keeps rule) (n : Nat) :
    ∀ ps, AllCommon ps → AllCommon (replaceUpTo rule n ps) := by
  induction n with
  | zero => exact fun ps hps => hps
  | succ n ih =>
    intro ps hps
    rw [Markdown.replaceUpTo]
    split
    · next qs hqs => exact ih qs (hrule.replaceFirst _ _ _ _ allCommon_nil hps hqs)
    · exact hps

/-- A pass of a rule over a text. -/
theorem Rule.Keeps.rewrite {rule : Rule} (hrule : Rule.Keeps rule) {ps : List Piece}
    (hps : AllCommon ps) : AllCommon (rewrite rule ps) :=
  hrule.replaceUpTo _ ps hps

/-! ## Changes inside elements -/

theorem changeEach_eq (f : List Piece → List Piece) (ps : List Piece) :
    changeEach f ps = ps.map (changeInside f) := by
  induction ps with
  | nil => rw [changeEach, List.map_nil]
  | cons p ps ih => rw [changeEach, ih, List.map_cons]

variable {f : List Piece → List Piece}

theorem Piece.IsCommon.changeInside (hf : ∀ ps, AllCommon ps → AllCommon (f ps)) {p : Piece}
    (hp : p.IsCommon) : (changeInside f p).IsCommon := by
  induction hp with
  | char c => exact .char c
  | literal c => exact .literal c
  | entity hwritten => exact .entity hwritten
  | element hkind hattributes _ ih =>
    refine .element hkind hattributes (hf _ ?_)
    rw [changeEach_eq]
    intro q hq
    obtain ⟨p, hp, rfl⟩ := List.mem_map.mp hq
    exact ih p hp

theorem AllCommon.everywhere (hf : ∀ ps, AllCommon ps → AllCommon (f ps)) {ps : List Piece}
    (hps : AllCommon ps) : AllCommon (everywhere f ps) := by
  apply hf
  rw [changeEach_eq]
  intro q hq
  obtain ⟨p, hp, rfl⟩ := List.mem_map.mp hq
  exact (hps p hp).changeInside hf

theorem AllCommon.onText_go (hf : ∀ ps, AllCommon ps → AllCommon (f ps)) (ps : List Piece) :
    ∀ text, AllCommon ps → AllCommon text → AllCommon (onText.go f ps text) := by
  induction ps with
  | nil =>
    intro text _ htext
    cases text with
    | nil => exact allCommon_nil
    | cons q qs =>
      rw [onText.go]
      · exact hf _ (allCommon_reverse.mpr htext)
      · simp
  | cons p ps ih =>
    intro text hps htext
    rw [allCommon_cons] at hps
    rw [onText.go]
    split
    · refine allCommon_append.mpr ⟨?_, allCommon_cons.mpr ⟨hps.1, ih _ hps.2 allCommon_nil⟩⟩
      split
      · exact allCommon_nil
      · exact hf _ (allCommon_reverse.mpr htext)
    · exact ih _ hps.2 (allCommon_cons.mpr ⟨hps.1, htext⟩)

theorem AllCommon.onText (hf : ∀ ps, AllCommon ps → AllCommon (f ps)) {ps : List Piece}
    (hps : AllCommon ps) : AllCommon (onText f ps) :=
  onText_go hf ps [] hps allCommon_nil

/-! ## Layout -/

theorem AllCommon.breakLines (fuel : Nat) :
    ∀ ps, AllCommon ps → AllCommon (breakLines fuel ps) := by
  induction fuel with
  | zero => exact fun ps hps => hps
  | succ n ih =>
    intro ps hps
    cases ps with
    | nil => exact hps
    | cons p ps =>
      rw [allCommon_cons] at hps
      have hbehind : AllCommon (behindElement p (Piece.leadingText ps)) := by
        unfold behindElement
        split
        · refine allCommon_cons.mpr ⟨.char _, ?_⟩
          split
          · exact allCommon_nil
          · exact hps.2.leadingText
        · split
          · exact allCommon_cons.mpr ⟨.char _, allCommon_nil⟩
          · exact hps.2.leadingText
      rw [Markdown.breakLines]
      split
      · rw [List.cons_append, allCommon_cons, allCommon_append]
        exact ⟨hps.1, hbehind, ih _ hps.2.afterText⟩
      · exact allCommon_cons.mpr ⟨hps.1, ih _ hps.2⟩

theorem AllCommon.laidOut {ps : List Piece} (hps : AllCommon ps) : AllCommon (laidOut ps) := by
  have hbroken := AllCommon.breakLines (ps.length + 1) ps hps
  unfold Markdown.laidOut
  dsimp only
  split
  · exact allCommon_cons.mpr ⟨.char _, hbroken.afterText⟩
  · exact hbroken

theorem AllCommon.codeLaidOut {ps : List Piece} (hps : AllCommon ps) :
    AllCommon (codeLaidOut ps) := by
  unfold Markdown.codeLaidOut
  split
  · next attributes code rest =>
    rw [allCommon_cons, isCommon_element] at hps ⊢
    obtain ⟨⟨hkind, hattributes, hcode⟩, hrest⟩ := hps
    refine ⟨⟨hkind, hattributes, ?_⟩, hrest⟩
    rw [allCommon_append, allCommon_reverse]
    exact ⟨(allCommon_reverse.mpr hcode).dropWhile _, allCommon_cons.mpr ⟨.literal _, allCommon_nil⟩⟩
  · exact hps

theorem inLinesEach_eq (ps : List Piece) : inLinesEach ps = ps.map inLines := by
  induction ps with
  | nil => rw [inLinesEach, List.map_nil]
  | cons p ps ih => rw [inLinesEach, ih, List.map_cons]

theorem Piece.IsCommon.inLines {p : Piece} (hp : p.IsCommon) : (inLines p).IsCommon := by
  induction hp with
  | char c => exact .char c
  | literal c => exact .literal c
  | entity hwritten => exact .entity hwritten
  | @element kind attributes content hkind hattributes _ ih =>
    have hcontent : AllCommon (inLinesEach content) := by
      rw [inLinesEach_eq]
      intro q hq
      obtain ⟨p, hp, rfl⟩ := List.mem_map.mp hq
      exact ih p hp
    rw [Markdown.inLines]
    refine .element hkind hattributes ?_
    split
    · exact hcontent.codeLaidOut
    · exact hcontent.laidOut

theorem AllCommon.inLinesEach {ps : List Piece} (hps : AllCommon ps) :
    AllCommon (inLinesEach ps) := by
  rw [inLinesEach_eq]
  intro q hq
  obtain ⟨p, hp, rfl⟩ := List.mem_map.mp hq
  exact (hps p hp).inLines

end Placard.Markdown
