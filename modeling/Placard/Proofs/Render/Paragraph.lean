import Placard.Proofs.Markdown.CleanFragment
import Placard.Proofs.Render.WiredContent

/-!
# The paragraphs of a text

A text is turned into fragments, and then the paragraphs among them are styled, however deep they
are (`restyled_textTag`). Two facts carry this:

* no fragment has a style of its own, whatever markup the fragments are made of. So the styles of a
  paragraph are exactly those that it is given (`styles_editEach`);
* nothing but styles is changed. Without its styles each tag is the fragment that it was
  (`editAll_unstyled`).
-/

namespace Placard.Render

open Placard.Text Placard.Document Tag

/-! ## Ways to make fragments -/

/-- The tags of a text, given how texts become markup. An empty text has none. -/
def convertBy (toMarkup : String → Except Markdown.TextFault String) (text : String) :
    Except Fault (List Tag) :=
  if text.isEmpty then .ok []
  else
    match toMarkup text with
    | .error e => .error (.markdown e)
    | .ok markup => (Markdown.ofMarkup markup).mapError .markdown

/-- How texts become markup under named extensions. -/
def markupUnder (extensions : List String) (text : String) : Except Markdown.TextFault String :=
  (Markdown.toXhtml extensions text).mapError .unknownExtension

/-- The standard stage makes fragments by way of markup. -/
theorem convert_standardStage (host : Host.Config) (extensions : List String) :
    (standardStage host extensions).convert = convertBy (markupUnder extensions) := by
  funext text
  change (Markdown.tagsOf extensions text).mapError Fault.markdown = _
  unfold Markdown.tagsOf convertBy markupUnder
  split
  · rfl
  · cases Markdown.toXhtml extensions text <;> rfl

/-- Fragments have no styles, whatever markup they are made of. -/
theorem styles_convertBy {toMarkup : String → Except Markdown.TextFault String} (text : String) :
    Gives (convertBy toMarkup text) fun tags => ∀ t ∈ descendantsOf tags, t.styles = [] := by
  intro tags h
  unfold convertBy at h
  split at h
  · obtain rfl := Except.ok.inj h
    simp
  · split at h
    · cases h
    · next markup hmarkup =>
      cases hmade : Markdown.ofMarkup markup with
      | error e =>
        rw [hmade] at h
        cases h
      | ok made =>
        rw [hmade] at h
        obtain rfl := Except.ok.inj h
        exact fun t ht => (Markdown.isClean_of_ofMarkup hmade t ht).styles

/-! ## Styling -/

/-- The styles of a paragraph, given whether its lines wrap. -/
def paragraphStyles (wrap : Bool) : List (Property × String) :=
  [(.marginTop, "0px"), (.marginBottom, "0px"), (.width, "100%")] ++
    if wrap then [] else [(.textOverflow, "ellipsis"), (.overflow, "hidden")]

/-- A tag without its styles. -/
def unstyled (t : Tag) : Tag :=
  { t with styles := [] }

/-- What a tag without styles becomes, when what is in it has been styled. -/
theorem styled_eq (wrap : Bool) {t : Tag} (h : t.styles = []) (inner : List Tag) :
    (if isParagraph t then styleParagraph wrap { t with children := inner }
      else { t with children := inner }) =
    { t with
      styles := if lowered t.name = "p" then paragraphStyles wrap else [], children := inner } := by
  have hname : isParagraph t = true ↔ lowered t.name = "p" := by
    rw [isParagraph, beq_iff_eq]
  simp only [hname]
  split
  · unfold styleParagraph
    cases wrap <;> simp [setStyle, h, writeAt, paragraphStyles]
  · rw [h]

section

variable {wrap : Bool} {ts : List Tag}

/-- Styling the paragraphs changes nothing but styles. -/
theorem editAll_unstyled (h : ∀ t ∈ descendantsOf ts, t.styles = []) :
    editAll unstyled (editEach isParagraph (styleParagraph wrap) ts) = ts := by
  induction ts using forestInduction with
  | nil => simp
  | cons t ts ihc ihr =>
    rw [descendantsOf_cons, List.cons_append, List.forall_mem_cons, List.forall_mem_append] at h
    obtain ⟨hself, hchildren, hrest⟩ := h
    rw [editEach_cons, styled_eq wrap hself, editAll_cons, ihc hchildren, ihr hrest]
    -- what is left is the tag itself, whose styles were none to begin with
    cases t
    rw [unstyled, ← hself]

/-- Each paragraph has the styles of a paragraph, and nothing else has any. -/
theorem styles_editEach (h : ∀ t ∈ descendantsOf ts, t.styles = []) :
    ∀ t ∈ descendantsOf (editEach isParagraph (styleParagraph wrap) ts),
      t.styles = if lowered t.name = "p" then paragraphStyles wrap else [] := by
  induction ts using forestInduction with
  | nil => simp
  | cons t ts ihc ihr =>
    rw [descendantsOf_cons, List.cons_append, List.forall_mem_cons, List.forall_mem_append] at h
    obtain ⟨hself, hchildren, hrest⟩ := h
    rw [editEach_cons, styled_eq wrap hself, descendantsOf_cons, List.cons_append,
      List.forall_mem_cons, List.forall_mem_append]
    exact ⟨rfl, ihc hchildren, ihr hrest⟩

end

/-! ## Texts -/

variable {s : Scene}

theorem children_textTag (t : TextBlock) : Gives (textTag s t) fun tag => ∃ fragments,
    s.convert (Time.expand t.text) = .ok fragments ∧
      tag.children = editEach isParagraph (styleParagraph t.wrap) fragments := by
  unfold textTag
  refine (textFrame_leaf s t).bind fun frame hframe => ?_
  refine Gives.bind (P := fun fragments => s.convert (Time.expand t.text) = .ok fragments)
    (fun _ h => h) fun fragments hfragments => .pure ⟨fragments, hfragments, ?_⟩
  rw [editBelow_eq, children_appendAll, hframe.empty, List.nil_append]

/-- **Every paragraph is styled, and nothing else is touched.** Whatever markup a text becomes: what
is in its tag is its fragments, but for styles. The paragraphs among them have the styles of
paragraphs, however deep they are, and no other tag has a style. -/
theorem restyled_textTag {toMarkup : String → Except Markdown.TextFault String}
    (hs : s.convert = convertBy toMarkup) {t : TextBlock} {tag : Tag}
    (h : textTag s t = .ok tag) :
    ∃ fragments, s.convert (Time.expand t.text) = .ok fragments ∧
      editAll unstyled tag.children = fragments ∧
      ∀ d ∈ tag.descendants, d.styles =
        if lowered d.name = "p" then
          [(.marginTop, "0px"), (.marginBottom, "0px"), (.width, "100%")] ++
            if t.wrap then [] else [(.textOverflow, "ellipsis"), (.overflow, "hidden")]
        else [] := by
  obtain ⟨fragments, hfragments, hchildren⟩ := children_textTag t tag h
  have hplain : ∀ u ∈ descendantsOf fragments, u.styles = [] :=
    styles_convertBy (Time.expand t.text) fragments (hs ▸ hfragments)
  refine ⟨fragments, hfragments, ?_, ?_⟩
  · rw [hchildren, editAll_unstyled hplain]
  · rw [descendants_eq, hchildren]
    exact styles_editEach hplain

/-- Paragraphs in a quotation and in an item of a list in it, where lines do not wrap. -/
theorem restyled_textTag_nested :
    let s := (standardStage {} ["sane_lists"]).scene fun _ => pure none
    let t : TextBlock := { text := "> a\n>\n> - b\n>\n>     c\n", wrap := false }
    ∃ tag fragments, textTag s t = .ok tag ∧
      (descendantsOf fragments).map (·.name) =
        ["blockquote", "p", "span", "ul", "li", "p", "span", "p", "span"] ∧
      editAll unstyled tag.children = fragments ∧
      ∀ d ∈ tag.descendants, d.styles =
        if lowered d.name = "p" then
          [(.marginTop, "0px"), (.marginBottom, "0px"), (.width, "100%"),
            (.textOverflow, "ellipsis"), (.overflow, "hidden")]
        else [] := by
  intro s t
  have hmade : (textTag s t).isOk = true := by decide +kernel
  have hnames : ((s.convert (Time.expand t.text)).toOption.map fun tags =>
      (descendantsOf tags).map (·.name)) =
        some ["blockquote", "p", "span", "ul", "li", "p", "span", "p", "span"] := by
    decide +kernel
  cases htag : textTag s t with
  | error e =>
    rw [htag] at hmade
    cases hmade
  | ok tag =>
    obtain ⟨fragments, hfragments, hshape, hstyles⟩ :=
      restyled_textTag (convert_standardStage {} ["sane_lists"]) htag
    rw [hfragments] at hnames
    exact ⟨tag, fragments, rfl, Option.some.inj hnames, hshape, hstyles⟩

end Placard.Render
