import Placard.Proofs.Markdown.CleanFragment

/-!
# The outline of markup

The tags of markup have the shape of its elements, with a span for every stretch of text that is kept
(`outline_of_markup`). Which stretches are kept is stated apart from the program (`keptText`):

* a stretch that is not blank, as it stands;
* a blank one inside an element, as it stands if it has no line end. If it has one, a space stands for
  it where both neighbours are there and neither begins a line of its own.

Nothing but blanks is lost: the letters of the tags are those of the markup (`letters_plainTags`).
-/

namespace Placard.Markdown

open Placard.Text Placard.Html

/-! ## Outlines -/

/-- Whether a node is an element that begins a line of its own. -/
def isBlock : Node → Bool
  | .element name _ _ => blockNames.contains (String.ofList name)
  | _ => false

/-- The text that a stretch of text is kept as, if it is kept. -/
def keptText (top : Bool) (before after : Option Node) (cs : List Char) : Option String :=
  if !allBlank cs then some (String.ofList cs)
  else if top then none
  else if '\n' ∉ cs then some (String.ofList cs)
  else if before.any (!isBlock ·) && after.any (!isBlock ·) then some " "
  else none

mutual

/-- What stands for a node between two neighbours: an element with its name alone, or a span. -/
def outline? (top : Bool) (before after : Option Node) : Node → Option Tag
  | .comment => none
  | .text cs => (keptText top before after cs).map span
  | .element name _ children =>
    some ((Tag.named (String.ofList name)).appendAll (outline false none children))

/-- The outline of nodes that stand next to each other behind a neighbour. -/
def outline (top : Bool) (before : Option Node) : List Node → List Tag
  | [] => []
  | node :: rest => (outline? top before rest.head? node).toList ++ outline top (some node) rest

end

/-- A tag without its classes, its styles and its attributes. -/
def bare (t : Tag) : Tag :=
  { t with classes := [], styles := [], attributes := [] }

theorem isInlineNeighbour_eq (n : Option Node) : isInlineNeighbour n = n.any (!isBlock ·) := by
  cases n with
  | none => rfl
  | some n => cases n <;> rfl

/-- A stretch of text has the span that it is kept as. -/
theorem ofText_eq_keptText (top : Bool) (before after : Option Node) (cs : List Char) :
    ofText top before after cs = (keptText top before after cs).map span := by
  unfold ofText keptText
  rw [isInlineNeighbour_eq, isInlineNeighbour_eq]
  cases allBlank cs with
  | false => rfl
  | true =>
    cases top with
    | true => rfl
    | false =>
      by_cases hbreak : '\n' ∈ cs
      · simp [hbreak]
      · simp [hbreak]

/-- The tags of nodes, stripped of all that attributes bring in, are their outline. -/
theorem editAll_plainTags (nodes : List Node) (top : Bool) (before : Option Node) :
    Tag.editAll bare (plainTags top before nodes) = outline top before nodes := by
  -- each node is the neighbour of the next, so the induction is over all neighbours
  induction nodes using Node.forestInduction generalizing top before with
  | nil => rw [plainTags_nil, Tag.editAll_nil, outline]
  | text cs rest ih =>
    have hspan : Tag.editAll bare (ofText top before rest.head? cs).toList =
        (ofText top before rest.head? cs).toList := by
      rw [ofText_eq_keptText]
      cases keptText top before rest.head? cs with
      | none => simp
      | some text => simp [bare, span, Tag.named, Tag.setText]
    rw [plainTags_text, Tag.editAll_append, hspan, ih, outline, outline?, ofText_eq_keptText]
  | comment rest ih =>
    rw [plainTags_comment, ih, outline, outline?, Option.toList_none, List.nil_append]
  | element name attributes children rest ihc ihr =>
    obtain ⟨classes, written, heq⟩ :=
      elementTag_eq name attributes (plainTags false none children)
    rw [plainTags_element, Tag.editAll_cons, ihr, heq, outline, outline?, ← ihc]
    rfl

/-! ## Letters -/

/-- The text of a node without those below it. -/
def ownText : Node → List Char
  | .text cs => cs
  | .comment => []
  | .element _ _ _ => []

/-- The characters of a text that are not blank. -/
def letters (cs : List Char) : List Char :=
  cs.filter (!isBlank ·)

theorem letters_append (cs ds : List Char) : letters (cs ++ ds) = letters cs ++ letters ds :=
  List.filter_append ..

theorem letters_of_allBlank {cs : List Char} (h : allBlank cs = true) : letters cs = [] := by
  rw [allBlank, List.all_eq_true] at h
  refine List.filter_eq_nil_iff.mpr fun c hc => ?_
  rw [h c hc]
  decide

/-- A stretch of text keeps its letters. -/
theorem letters_keptText (top : Bool) (before after : Option Node) (cs : List Char) :
    letters ((keptText top before after cs).getD "").toList = letters cs := by
  unfold keptText
  cases hblank : allBlank cs with
  | false => rw [Bool.not_false, if_pos rfl, Option.getD_some, String.toList_ofList]
  | true =>
    -- neither a blank stretch nor the space that stands for it has letters
    rw [letters_of_allBlank hblank, Bool.not_true, if_neg Bool.false_ne_true]
    split
    · rfl
    · split
      · rw [Option.getD_some, String.toList_ofList, letters_of_allBlank hblank]
      · split <;> decide

theorem textContentOf_span (text : Option String) :
    Tag.textContentOf (text.map span).toList = text.getD "" := by
  cases text <;> simp [span, Tag.setText, Tag.named]

/-- The letters of the tags are those of the nodes, in document order. -/
theorem letters_plainTags (nodes : List Node) (top : Bool) (before : Option Node) :
    letters (Tag.textContentOf (plainTags top before nodes)).toList =
      letters ((Node.descendantsOf nodes).flatMap ownText) := by
  induction nodes using Node.forestInduction generalizing top before with
  | nil =>
    rw [plainTags_nil, Tag.textContentOf_nil, Node.descendantsOf_nil, List.flatMap_nil,
      String.toList_empty]
  | text cs rest ih =>
    rw [plainTags_text, Tag.textContentOf_append, ofText_eq_keptText, textContentOf_span,
      String.toList_append, letters_append, letters_keptText, ih, Node.descendantsOf_text,
      List.flatMap_cons, letters_append, ownText]
  | comment rest ih =>
    rw [plainTags_comment, ih, Node.descendantsOf_comment, List.flatMap_cons, ownText,
      List.nil_append]
  | element name attributes children rest ihc ihr =>
    obtain ⟨classes, written, heq⟩ :=
      elementTag_eq name attributes (plainTags false none children)
    rw [plainTags_element, Tag.textContentOf_cons, heq]
    dsimp only
    rw [Option.getD_none, String.empty_append, String.toList_append, letters_append, ihc, ihr,
      Node.descendantsOf_element, List.flatMap_cons, ownText, List.nil_append, List.flatMap_append,
      letters_append]

/-! ## Markup -/

/-- **No text and no element of markup is lost.** If markup has tags, they have its outline, and their
text is that of the markup but for blanks. -/
theorem outline_of_markup {markup : String} {tags : List Tag} (h : ofMarkup markup = .ok tags) :
    ∃ nodes, Html.parse markup = .ok nodes ∧
      Tag.editAll bare tags = outline true none nodes ∧
      letters (Tag.textContentOf tags).toList =
        letters ((Node.descendantsOf nodes).flatMap ownText) := by
  obtain ⟨nodes, hparse, -, rfl⟩ := ofMarkup_eq_ok_iff.mp h
  exact ⟨nodes, hparse, editAll_plainTags nodes true none, letters_plainTags nodes true none⟩

/-- Blank stretches at the start of an element, between two elements of a line, at the end of a line,
between two blocks and outside all elements. -/
theorem outline_of_markup_blanks : ∃ tags,
    ofMarkup "<div>\n<p class=c><b>x</b>\n<i>y</i> </p>\n</div>\n" = .ok tags ∧
      Tag.editAll bare tags = [(Tag.named "div").append ((Tag.named "p").appendAll
        [(Tag.named "b").append (span "x"), span " ", (Tag.named "i").append (span "y"),
          span " "])] ∧
      letters (Tag.textContentOf tags).toList = "xy".toList := by
  have hnodes : Html.parse "<div>\n<p class=c><b>x</b>\n<i>y</i> </p>\n</div>\n" =
      .ok [.element "div".toList [] [.text "\n".toList,
        .element "p".toList [("class".toList, "c".toList)] [
          .element "b".toList [] [.text "x".toList], .text "\n".toList,
          .element "i".toList [] [.text "y".toList], .text " ".toList],
        .text "\n".toList], .text "\n".toList] := rfl
  have hmade := ofMarkup_eq_ok_iff.mpr ⟨_, hnodes, rfl, rfl⟩
  obtain ⟨nodes, hparse, houtline, hletters⟩ := outline_of_markup hmade
  obtain rfl := Except.ok.inj (hparse.symm.trans hnodes)
  exact ⟨_, hmade, houtline, hletters⟩

end Placard.Markdown
