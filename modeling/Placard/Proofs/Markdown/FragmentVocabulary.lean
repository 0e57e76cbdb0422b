import Placard.Proofs.Markdown.CleanFragment
import Placard.Proofs.Markdown.MarkupScan

/-!
# The tags of a text

Tokens with common names become nodes with common names, whatever the order of the tags: the tree is
built from start tags alone, and end tags only close elements. What the nodes become is a fragment
of common tags and spans, without classes, without styles, and with safe addresses only.
-/

namespace Placard.Markdown

open Placard.Text Placard.Html

/-! ## Nodes -/

/-- A name and attributes of the common vocabulary. -/
def CommonElement (name : List Char) (attributes : List (List Char × List Char)) : Prop :=
  String.ofList name ∈ commonNames ∧ ∀ a ∈ attributes, String.ofList a.1 ∈ commonAttributes

/-- A node of the common vocabulary, with everything in it. -/
inductive IsCommonNode : Node → Prop where
  | text (cs : List Char) : IsCommonNode (.text cs)
  | element {name : List Char} {attributes : List (List Char × List Char)}
      {children : List Node} :
      CommonElement name attributes → (∀ n ∈ children, IsCommonNode n) →
      IsCommonNode (.element name attributes children)

theorem isCommonNode_ofTokens {ts : List Token} (h : ∀ t ∈ ts, IsCommonToken t) :
    ∀ n ∈ Node.ofTokens ts, IsCommonNode n := by
  refine Grows.ofTokens .text (fun _ _ _ => .element) fun t ht => ?_
  have hcommon := h t ht
  cases t with
  | start name attributes closed =>
    obtain ⟨hname, hattributes⟩ := hcommon
    refine ⟨hname, fun a ha => ?_⟩
    obtain ⟨b, hb, rfl⟩ := List.mem_map.mp ha
    -- the name of an attribute that is kept is the name of one that was written
    obtain ⟨c, hc, heq⟩ := List.mem_map.mp
      ((names_distinctAttributes attributes).2 (List.mem_map_of_mem hb))
    exact heq ▸ hattributes c hc
  | comment => exact hcommon.elim
  | _ => trivial

/-! ## Tags -/

/-- A tag of a text: no class, no style, and a name and attributes that text may have. Addresses in
it are safe. -/
structure IsTextTag (t : Tag) : Prop where
  name : t.name ∈ "span" :: commonNames
  classes : t.classes = []
  styles : t.styles = []
  attributes : ∀ a ∈ t.attributes, a.1 ∈ commonAttributes
  addresses : ∀ a ∈ t.attributes, a.1 = "href" ∨ a.1 = "src" → Url.isSafe a.2.toList = true

theorem isTextTag_span (text : String) : IsTextTag (span text) :=
  ⟨List.mem_cons_self, rfl, rfl, fun _ ha => absurd ha List.not_mem_nil,
    fun _ ha => absurd ha List.not_mem_nil⟩

/-- A result that is a part of a text's fragment. -/
def GivesTextTags (result : Except TextFault (List Tag)) : Prop :=
  ∃ tags, result = .ok tags ∧ ∀ t ∈ Tag.descendantsOf tags, IsTextTag t

/-- The tag of a common element is one of a text: nothing in the vocabulary brings in classes. -/
theorem IsTagOf.isTextTag {name : List Char} {attributes : List (List Char × List Char)}
    {inner : List Tag} {t : Tag} (htag : IsTagOf name attributes inner t) (hclean : IsClean t)
    (hcommon : CommonElement name attributes) : IsTextTag t where
  name := by
    rw [htag.name]
    exact List.mem_cons_of_mem _ hcommon.1
  classes := by
    refine List.eq_nil_iff_forall_not_mem.mpr fun c hc => ?_
    obtain ⟨a, ha, hname, -⟩ := (htag.classes c).mp hc
    have hclass := hcommon.2 a ha
    rw [hname] at hclass
    exact absurd hclass (by decide)
  styles := hclean.styles
  attributes a ha := by
    rw [htag.written] at ha
    obtain ⟨b, hb, rfl⟩ := List.mem_map.mp ha
    exact hcommon.2 b (List.mem_of_mem_filter hb)
  addresses := hclean.addresses

section

variable {nodes : List Node} (h : ∀ n ∈ nodes, IsCommonNode n)

include h

/-- The elements among common nodes and below them are common. -/
theorem commonElement_of_mem {name : List Char} {attributes : List (List Char × List Char)}
    {children : List Node}
    (hmem : .element name attributes children ∈ Node.descendantsOf nodes) :
    CommonElement name attributes := by
  have htree {n : Node} (hn : IsCommonNode n) :
      .element name attributes children ∈ Node.descendantsOf [n] →
        CommonElement name attributes := by
    induction hn with
    | text cs => simp
    | element helement _ ih =>
      intro hmem
      rw [Node.descendantsOf_element, Node.descendantsOf_nil, List.append_nil,
        List.mem_cons] at hmem
      rcases hmem with heq | hbelow
      · obtain ⟨rfl, rfl, -⟩ := Node.element.inj heq
        exact helement
      · obtain ⟨m, hm, hbelow⟩ := Node.mem_descendantsOf.mp hbelow
        exact ih m hm hbelow
  obtain ⟨n, hn, hmem⟩ := Node.mem_descendantsOf.mp hmem
  exact htree (h n hn) hmem

theorem hasInlineStyle_of_common : hasInlineStyle nodes = false := by
  refine List.any_eq_false.mpr fun n hn => ?_
  cases n with
  | element name attributes children =>
    intro hstyled
    obtain ⟨a, ha, hstyle⟩ := List.any_eq_true.mp hstyled
    have hname := (commonElement_of_mem h hn).2 a ha
    rw [decide_eq_true_eq.mp hstyle] at hname
    exact absurd hname (by decide)
  | _ => exact Bool.false_ne_true

/-- Markup that was read as common nodes gives tags of a text. -/
theorem givesTextTags_ofMarkup {markup : String} (hparse : Html.parse markup = .ok nodes) :
    GivesTextTags (ofMarkup markup) := by
  have hplain := hasInlineStyle_of_common h
  have hnodes := arePlain_of_parse hparse hplain
  refine ⟨_, ofMarkup_eq_ok_iff.mpr ⟨nodes, hparse, hplain, rfl⟩, fun t ht => ?_⟩
  rcases span_or_hasTag hnodes true none t ht with ⟨text, rfl⟩ | ⟨n, hn, htag⟩
  · exact isTextTag_span text
  · obtain ⟨name, attributes, children, inner, rfl, -, -, htag⟩ := htag
    exact htag.isTextTag (isClean_plainTags hnodes true none t ht) (commonElement_of_mem h hn)

end

/-! ## Texts -/

/-- A text under extensions that bring in neither tables nor lists of attributes. -/
theorem givesTextTags_tagsOf {names : List String} {extensions : List Extension}
    (hnames : extensionsNamed names = .ok extensions) (htables : Extension.tables ∉ extensions)
    (hlists : Extension.attributeLists ∉ extensions) (text : String) :
    GivesTextTags (tagsOf names text) := by
  have hmarkup : ∃ markup : String, IsMarkup markup.toList ∧ toXhtml names text = .ok markup := by
    unfold toXhtml
    rw [hnames]
    refine ⟨_, ?_, rfl⟩
    split
    · exact .nil
    · rw [String.toList_ofList]
      exact isMarkup_writeDocument (allCommon_readDocument htables hlists _)
  obtain ⟨markup, hmarkup, hxhtml⟩ := hmarkup
  obtain ⟨ts, htokens, hts⟩ := tokens_of_isMarkup hmarkup
  unfold tagsOf
  split
  · exact ⟨[], rfl, fun t ht => by simp at ht⟩
  · rw [hxhtml]
    dsimp only
    refine givesTextTags_ofMarkup (isCommonNode_ofTokens hts) ?_
    rw [Html.parse, htokens]
    rfl

end Placard.Markdown
