import Placard.Markdown.Block
import Placard.Proofs.Markdown.Vocabulary

/-!
# Blocks stay in the common vocabulary

Reading blocks adds elements to the content read so far, and changes elements that end it. Each of
these edits keeps the vocabulary (`AllCommon.changeBelow` for the edits in depth), and what `formOf`
recognises brings in nothing else: a heading has one of six levels, and a list at most its first
number. So `readBlocks` keeps it too, by induction on its fuel.
-/

namespace Placard.Markdown

open Placard.Text Piece

/-! ## Code -/

theorem allCommon_ofCode (cs : List Char) : AllCommon (ofCode cs) := by
  intro p hp
  obtain ⟨c, -, rfl⟩ := List.mem_map.mp hp
  split_ifs
  · exact .entity (by decide)
  · exact .entity (by decide)
  · exact .entity (by decide)
  · exact .literal c

/-- The parts into which content is divided at its last element. -/
theorem AllCommon.lastElement {ps before after : List Piece} {p : Piece} (h : AllCommon ps)
    (hlast : lastElement? ps = some (before, p, after)) :
    AllCommon before ∧ p.IsCommon ∧ AllCommon after := by
  unfold lastElement? at hlast
  split at hlast
  · cases hlast
  · next q rest hrev =>
    obtain ⟨rfl, rfl, rfl⟩ : rest.reverse = before ∧ q = p ∧ Piece.trailingText ps = after := by
      simpa using hlast
    have hfront := allCommon_reverse.mpr h.beforeText
    rw [hrev, allCommon_cons] at hfront
    exact ⟨allCommon_reverse.mpr hfront.2, hfront.1, h.trailingText⟩

theorem AllCommon.extendCode {more ps qs : List Piece} (hmore : AllCommon more)
    (h : AllCommon ps) (hcode : extendCode? more ps = some qs) : AllCommon qs := by
  unfold extendCode? at hcode
  split at hcode
  · next before a b code after hlast =>
    obtain rfl := Option.some.inj hcode
    obtain ⟨hbefore, hblock, hafter⟩ := h.lastElement hlast
    simp only [isCommon_element, allCommon_cons, allCommon_append] at hblock ⊢
    tauto
  · cases hcode

theorem AllCommon.addCode {block : List Char} {ps : List Piece} (h : AllCommon ps) :
    AllCommon (addCode block ps).1 := by
  unfold Markdown.addCode
  have htext (cs : List Char) : AllCommon (ofCode cs ++ [literal '\n']) :=
    allCommon_append.mpr ⟨allCommon_ofCode cs, allCommon_cons.mpr ⟨.literal _, allCommon_nil⟩⟩
  dsimp only
  split
  · next qs hcode =>
    exact AllCommon.extendCode (allCommon_cons.mpr ⟨.literal _, htext _⟩) h hcode
  · refine allCommon_append.mpr ⟨h, allCommon_cons.mpr ⟨?_, allCommon_nil⟩⟩
    exact isCommon_plain trivial
      (allCommon_cons.mpr ⟨isCommon_plain trivial (htext _), allCommon_nil⟩)

/-! ## Items -/

theorem AllCommon.wrapText {ps : List Piece} (h : AllCommon ps) : AllCommon (wrapText ps) := by
  unfold Markdown.wrapText
  split
  · exact h
  · exact allCommon_cons.mpr ⟨isCommon_plain trivial h.leadingText, h.afterText⟩

theorem AllCommon.wrapTrailing {ps : List Piece} (h : AllCommon ps) :
    AllCommon (wrapTrailing ps) := by
  unfold Markdown.wrapTrailing
  split
  · exact h
  · exact h
  · refine allCommon_append.mpr ⟨h.beforeText, allCommon_cons.mpr ⟨?_, allCommon_nil⟩⟩
    exact isCommon_plain trivial (h.trailingText.dropWhile _)

theorem AllCommon.changeLast {p : Kind → Bool} {f : List Piece → List Piece}
    (hf : ∀ ps, AllCommon ps → AllCommon (f ps)) {ps : List Piece} (h : AllCommon ps) :
    AllCommon (changeLast p f ps) := by
  unfold Markdown.changeLast
  split
  · next before kind a inner after hlast =>
    obtain ⟨hbefore, helement, hafter⟩ := h.lastElement hlast
    obtain ⟨hkind, ha, hinner⟩ := isCommon_element.mp helement
    split
    · simp only [allCommon_append, allCommon_cons, isCommon_element]
      exact ⟨hbefore, ⟨hkind, ha, hf _ hinner⟩, hafter⟩
    · exact h
  · exact h

/-- An edit of the content that lies so many last elements below. -/
theorem AllCommon.changeBelow {f : Option Kind → List Piece → Definitions → Read}
    (hf : ∀ kind ps ds, AllCommon ps → AllCommon (f kind ps ds).1) (depth : Nat) :
    ∀ kind ps ds, AllCommon ps → AllCommon (changeBelow f depth kind ps ds).1 := by
  induction depth with
  | zero => exact hf
  | succ n ih =>
    intro kind ps ds h
    rw [Markdown.changeBelow]
    split
    · next before k a inner after hlast =>
      obtain ⟨hbefore, helement, hafter⟩ := h.lastElement hlast
      obtain ⟨hkind, ha, hinner⟩ := isCommon_element.mp helement
      have hchanged := ih (some k) inner ds hinner
      simp only [allCommon_append, allCommon_cons, isCommon_element]
      exact ⟨hbefore, ⟨hkind, ha, hchanged⟩, hafter⟩
    · exact hf _ _ _ h

theorem AllCommon.addText {mode : Mode} {block : List Char} {ps : List Piece}
    (h : AllCommon ps) : AllCommon (addText mode block ps) := by
  unfold Markdown.addText
  dsimp only
  split_ifs
  · exact h
  · exact allCommon_append.mpr ⟨h, allCommon_ofChars _⟩
  · exact allCommon_append.mpr ⟨h, allCommon_ofChars _⟩
  · exact allCommon_append.mpr ⟨h, allCommon_ofChars _⟩
  · refine allCommon_append.mpr ⟨h, allCommon_cons.mpr ⟨?_, allCommon_nil⟩⟩
    exact isCommon_plain trivial (allCommon_ofChars _)

/-! ## Forms -/

/-- What a form brings into the content belongs to the common vocabulary. -/
def Form.IsCommon : Form → Prop
  | .table _ => False
  | .heading _ level _ _ => 1 ≤ level ∧ level ≤ 6
  | .list _ start => ∀ a ∈ start, a.1 ∈ commonAttributes
  | _ => True

theorem heading_level {line text : List Char} {level : Nat}
    (h : heading? line = some (level, text)) : 1 ≤ level ∧ level ≤ 6 := by
  unfold heading? at h
  dsimp only at h
  split at h
  · cases h
  · next hne =>
    obtain ⟨t, -, ht⟩ := Option.map_eq_some_iff.mp h
    obtain ⟨rfl, -⟩ := Prod.mk.inj ht
    omega

theorem splitAtLine_found {α : Type} {p : List Char → Option α} {all before after : List (List Char)}
    {a : α} (h : splitAtLine p all = some (before, a, after)) : ∃ line, p line = some a := by
  induction all generalizing before with
  | nil => cases h
  | cons line rest ih =>
    rw [splitAtLine] at h
    split at h
    · next b hline =>
      obtain ⟨-, rfl, -⟩ : [] = before ∧ b = a ∧ rest = after := by simpa using h
      exact ⟨line, hline⟩
    · obtain ⟨⟨before', b, after'⟩, hrest, heq⟩ := Option.map_eq_some_iff.mp h
      obtain ⟨-, rfl, rfl⟩ : line :: before' = before ∧ b = a ∧ after' = after := by
        simpa using heq
      exact ih hrest

theorem headed_isCommon {block : List (List Char)} {f : Form} (h : headed? block = some f) :
    f.IsCommon := by
  obtain ⟨⟨before, ⟨level, text⟩, after⟩, hsplit, rfl⟩ := Option.map_eq_some_iff.mp h
  obtain ⟨line, hline⟩ := splitAtLine_found hsplit
  exact heading_level hline

theorem underlined_isCommon {block : List (List Char)} {f : Form}
    (h : underlined? block = some f) : f.IsCommon := by
  unfold underlined? at h
  split at h
  · split at h
    · obtain rfl := Option.some.inj h
      change 1 ≤ (if _ then 1 else 2) ∧ (if _ then 1 else 2) ≤ 6
      split_ifs <;> decide
    · cases h
  · cases h

theorem listed_isCommon {rules : BlockRules} {block : List (List Char)} {f : Form}
    (h : listed? rules block = some f) : f.IsCommon := by
  unfold listed? at h
  dsimp only at h
  split at h
  · obtain rfl := Option.some.inj h
    intro a ha
    split_ifs at ha
    · rw [List.mem_singleton.mp ha]
      exact (by decide : "start" ∈ commonAttributes)
    · cases ha
  · obtain rfl := Option.some.inj h
    exact fun _ ha => absurd ha List.not_mem_nil
  · cases h

/-- If a form is found, it is common. -/
def FindsCommon (found : Option Form) : Prop :=
  ∀ f, found = some f → f.IsCommon

theorem FindsCommon.or {found other : Option Form} (h : FindsCommon found)
    (h' : FindsCommon other) : FindsCommon (found.or other) := by
  intro f hf
  rcases Option.or_eq_some_iff.mp hf with hfound | ⟨-, hother⟩
  · exact h f hfound
  · exact h' f hother

theorem findsCommon_map {α : Type} {f : α → Form} (hf : ∀ a, (f a).IsCommon) (found : Option α) :
    FindsCommon (found.map f) := by
  intro g hg
  obtain ⟨a, -, rfl⟩ := Option.map_eq_some_iff.mp hg
  exact hf a

/-- What is no other form is text. -/
theorem FindsCommon.getD {found : Option Form} (h : FindsCommon found) :
    (found.getD .text).IsCommon := by
  cases found with
  | none => trivial
  | some f => exact h f rfl

/-- Without tables every form is common. -/
theorem formOf_isCommon {rules : BlockRules} (hrules : rules.tables = false) (mode : Mode)
    (parent : Option Kind) (content : List Piece) (block : List Char) :
    (formOf rules mode parent content block).IsCommon := by
  unfold formOf
  dsimp only
  split
  · trivial
  · trivial
  · split_ifs with hindented hcontinues htables
    · trivial
    · trivial
    · rw [hrules] at htables
      cases htables
    · rw [Option.none_or]
      refine FindsCommon.getD (.or (fun _ => headed_isCommon) ?_)
      refine .or (fun _ => underlined_isCommon) (.or (findsCommon_map (fun ⟨_, _, _⟩ => trivial) _) ?_)
      refine .or (fun _ => listed_isCommon) (.or (findsCommon_map (fun ⟨_, _, _⟩ => trivial) _) ?_)
      exact findsCommon_map (fun ⟨_, _, _⟩ => trivial) _

/-! ## Reading -/

/-- Reading that keeps the vocabulary, wherever it goes on. -/
def Keeps (read : Mode → Option Kind → List (List Char) → List Piece → Definitions → Read) : Prop :=
  ∀ mode parent blocks content ds, AllCommon content →
    AllCommon (read mode parent blocks content ds).1

/-- The content of a list with an item more, which is new or goes on with the one before it. -/
def withItem (read : Mode → Option Kind → List (List Char) → List Piece → Definitions → Read)
    (r : Read) (item : List Char) : Read :=
  if isIndented item then
    changeBelow (fun kind inner ds => read .tightItem kind [item] inner ds) 1 none r.1 r.2
  else
    let (inner, ds) := read .tightItem (some .item) [item] [] r.2
    (r.1 ++ [plain .item inner], ds)

section

variable {read : Mode → Option Kind → List (List Char) → List Piece → Definitions → Read}
  (hread : Keeps read)
include hread

/-- A new element behind the content, with blocks of its own. -/
theorem Keeps.append (mode : Mode) (kind : Kind) (hkind : kind.IsCommon)
    (blocks : List (List Char)) {content : List Piece} (ds : Definitions)
    (h : AllCommon content) :
    AllCommon (content ++ [plain kind (read mode (some kind) blocks [] ds).1]) :=
  allCommon_append.mpr ⟨h, allCommon_cons.mpr
    ⟨isCommon_plain hkind (hread mode (some kind) blocks [] ds allCommon_nil), allCommon_nil⟩⟩

/-- Blocks that go on with the last element of the content. -/
theorem Keeps.extend (mode : Mode) (blocks : List (List Char)) (kind : Option Kind)
    {content : List Piece} (ds : Definitions) (h : AllCommon content) :
    AllCommon
      (changeBelow (fun kind inner ds => read mode kind blocks inner ds) 1 kind content ds).1 :=
  AllCommon.changeBelow (fun kind ps ds hps => hread mode kind blocks ps ds hps) 1 _ _ _ h

/-- An item more at the end of a list. -/
theorem Keeps.withItem (item : List Char) {r : Read} (h : AllCommon r.1) :
    AllCommon (withItem read r item).1 := by
  unfold Markdown.withItem
  split
  · exact hread.extend _ _ _ _ h
  · exact hread.append _ .item trivial _ _ h

/-- The items of a list, each of them new or going on with the one before it. -/
theorem Keeps.withItems (items : List (List Char)) {r : Read} (h : AllCommon r.1) :
    AllCommon (items.foldl (Markdown.withItem read) r).1 := by
  induction items generalizing r with
  | nil => exact h
  | cons item items ih => exact ih (hread.withItem item h)

end

theorem AllCommon.readBlocks {rules : BlockRules} (hrules : rules.tables = false) (fuel : Nat) :
    Keeps (readBlocks rules fuel) := by
  -- blocks inside of a block are read with less fuel, and so is what follows it
  induction fuel with
  | zero => exact fun _ _ _ _ _ h => h
  | succ n ih =>
    intro mode parent blocks content ds h
    cases blocks with
    | nil => exact h
    | cons block rest =>
      have hform := formOf_isCommon hrules mode parent content block
      rw [Markdown.readBlocks]
      cases hcase : formOf rules mode parent content block with
      | blank breaks more =>
        refine ih _ _ _ _ _ ?_
        cases hcode : extendCode? (ofLiteral breaks) content with
        | none => exact h
        | some qs => exact AllCommon.extendCode (allCommon_ofLiteral _) h hcode
      | continuation =>
        dsimp only
        split
        · exact ih _ _ _ _ _ (AllCommon.changeBelow (fun _ _ _ hps => ih _ _ _ _ _ hps) _ _ _ _ h)
        · refine ih _ _ _ _ _ (AllCommon.changeBelow (fun kind ps ds hps => ?_) _ _ _ _ h)
          split
          · exact ih _ _ _ _ _ hps
          · split
            · exact ih.extend _ _ _ _ (AllCommon.changeLast (fun _ hqs => hqs.wrapText) hps)
            · exact ih.append _ .item trivial _ _ hps
      | code => exact ih _ _ _ _ _ h.addCode
      | table t =>
        rw [hcase] at hform
        exact hform.elim
      | heading before level text after =>
        rw [hcase] at hform
        refine ih _ _ _ _ _ (allCommon_append.mpr ⟨ih _ _ _ _ _ h, ?_⟩)
        exact allCommon_cons.mpr ⟨isCommon_plain hform (allCommon_ofChars _), allCommon_nil⟩
      | rule before after =>
        refine ih _ _ _ _ _ (allCommon_append.mpr ⟨ih _ _ _ _ _ h, ?_⟩)
        exact allCommon_cons.mpr ⟨isCommon_plain trivial allCommon_nil, allCommon_nil⟩
      | list numbered start =>
        rw [hcase] at hform
        dsimp -zeta only
        extract_lets items fresh
        have hfresh : AllCommon fresh.1 := by
          unfold fresh
          split
          · exact ih _ _ _ _ _ (ih.withItems _ h)
          · refine ih _ _ _ _ _ (allCommon_append.mpr ⟨h, allCommon_cons.mpr ⟨?_, allCommon_nil⟩⟩)
            refine .element ?_ hform (ih.withItems _ allCommon_nil)
            cases numbered <;> trivial
        split
        · next before kind a inner after hlast =>
          obtain ⟨hbefore, helement, hafter⟩ := h.lastElement hlast
          obtain ⟨hkind, ha, hinner⟩ := isCommon_element.mp helement
          split
          · -- the list before it goes on, and its last item is no longer tight
            have hwrapped : AllCommon (Markdown.changeLast (fun _ => true)
                (fun item => Markdown.wrapTrailing (Markdown.wrapText item)) inner) :=
              AllCommon.changeLast (fun _ hps => hps.wrapText.wrapTrailing) hinner
            refine ih _ _ _ _ _ (allCommon_append.mpr ⟨hbefore, allCommon_cons.mpr ⟨?_, hafter⟩⟩)
            exact .element hkind ha (ih.withItems _ (ih.append _ .item trivial _ _ hwrapped))
          · exact hfresh
        · exact hfresh
      | quote before text =>
        have hbefore := ih mode parent [before] content ds h
        dsimp only
        split
        · exact ih _ _ _ _ _ (ih.extend _ _ _ _ hbefore)
        · exact ih _ _ _ _ _ (ih.append _ .quote trivial _ _ hbefore)
      | definition before d after => exact ih _ _ _ _ _ h
      | text => exact ih _ _ _ _ _ h.addText

/-- The blocks of a text. -/
theorem allCommon_readText {rules : BlockRules} (hrules : rules.tables = false) (cs : List Char) :
    AllCommon (readText rules cs).1 :=
  AllCommon.readBlocks hrules _ _ _ _ _ _ allCommon_nil

end Placard.Markdown
