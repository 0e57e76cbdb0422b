import Mathlib.Data.List.Forall2
import Placard.Proofs.Markdown.ElementTag

/-!
# What the tags of markup are made of

The markup may be any text. Every tag that is made of it is the span of a text or the tag of an
element (`span_or_hasTag`), and the elements have their tags in document order (`hasTag_plainTags`).
So every tag is clean, whatever the markup holds (`markup_clean`):

* its classes are words, and no two are equal;
* no attribute of it is a style or a list of classes, and its addresses are safe;
* an element loses nothing else. An unsafe address is lost alone.
-/

namespace Placard.Markdown

open Placard.Text Placard.Html

/-! ## Clean tags -/

/-- A tag that has no style, inline or as an attribute, whose classes are different words, and whose
addresses are safe. -/
structure IsClean (t : Tag) : Prop where
  styles : t.styles = []
  attributes : ∀ a ∈ t.attributes, a.1 ≠ "style" ∧ a.1 ≠ "class"
  addresses : ∀ a ∈ t.attributes, a.1 = "href" ∨ a.1 = "src" → Url.isSafe a.2.toList = true
  classes : ∀ c ∈ t.classes, c ≠ "" ∧ ∀ ch ∈ c.toList, isBlank ch = false
  distinct : t.classes.Nodup

theorem isClean_span (text : String) : IsClean (span text) where
  styles := rfl
  attributes _ ha := absurd ha List.not_mem_nil
  addresses _ ha := absurd ha List.not_mem_nil
  classes _ hc := absurd hc List.not_mem_nil
  distinct := List.nodup_nil

/-- The tag of an element without an inline style is clean. -/
theorem IsTagOf.isClean {name : List Char} {attributes : List (List Char × List Char)}
    {inner : List Tag} {t : Tag} (h : IsTagOf name attributes inner t)
    (hplain : attributes.any isStyle = false) : IsClean t := by
  have hattribute : ∀ a ∈ t.attributes, ∃ b ∈ attributes, isKept b = true ∧
      a = (String.ofList b.1, String.ofList b.2) := by
    intro a ha
    rw [h.written] at ha
    obtain ⟨b, hb, rfl⟩ := List.mem_map.mp ha
    obtain ⟨hmem, hkept⟩ := List.mem_filter.mp hb
    exact ⟨b, hmem, hkept, rfl⟩
  refine ⟨h.styles, ?_, ?_, ?_, h.distinct⟩
  · intro a ha
    obtain ⟨b, hb, hkept, rfl⟩ := hattribute a ha
    have hstyle := List.any_eq_false.mp hplain b hb
    rw [isStyle, decide_eq_true_eq] at hstyle
    rw [isKept, Bool.and_eq_true, bne_iff_ne] at hkept
    exact ⟨hstyle, hkept.1⟩
  · intro a ha haddress
    obtain ⟨b, -, hkept, rfl⟩ := hattribute a ha
    have hname : (String.ofList b.1 = "href" || String.ofList b.1 = "src") = true := by
      simpa using haddress
    rw [isKept, isUnsafeAddress, hname, Bool.true_and, Bool.not_not, Bool.and_eq_true] at hkept
    rw [String.toList_ofList]
    exact hkept.2
  · intro c hc
    obtain ⟨b, -, -, hword⟩ := (h.classes c).mp hc
    obtain ⟨hne, hblank⟩ := isWord_of_mem hword
    refine ⟨?_, hblank⟩
    rintro rfl
    exact hne rfl

/-! ## Elements and their tags -/

/-- A node is an element, its attributes are tidy, and the tag is that of the element, around the tags
of all that is in it. -/
def HasTag (n : Node) (t : Tag) : Prop :=
  ∃ name attributes children inner, n = .element name attributes children ∧
    IsTidy name attributes ∧ ofNodes false none children = .ok inner ∧
    IsTagOf name attributes inner t

/-- No element among the nodes and below them carries an inline style, and all have tidy attributes.
-/
structure ArePlain (nodes : List Node) : Prop where
  plain : hasInlineStyle nodes = false
  tidy : ∀ name attributes children,
    .element name attributes children ∈ Node.descendantsOf nodes → IsTidy name attributes

namespace ArePlain

variable {cs name : List Char} {attributes : List (List Char × List Char)}
  {children rest : List Node}

theorem behind_text (h : ArePlain (.text cs :: rest)) : ArePlain rest where
  plain := by rw [← hasInlineStyle_text cs, h.plain]
  tidy n a c hmem := h.tidy n a c (by rw [Node.descendantsOf_text]; exact .tail _ hmem)

theorem behind_comment (h : ArePlain (.comment :: rest)) : ArePlain rest where
  plain := by rw [← hasInlineStyle_comment, h.plain]
  tidy n a c hmem := h.tidy n a c (by rw [Node.descendantsOf_comment]; exact .tail _ hmem)

theorem element (h : ArePlain (.element name attributes children :: rest)) :
    IsTidy name attributes ∧ attributes.any isStyle = false ∧ ArePlain children ∧
      ArePlain rest := by
  obtain ⟨hplain, htidy⟩ := h
  rw [hasInlineStyle_element, Bool.or_eq_false_iff, Bool.or_eq_false_iff] at hplain
  rw [Node.descendantsOf_element] at htidy
  exact ⟨htidy _ _ _ List.mem_cons_self, hplain.1,
    ⟨hplain.2.1, fun n a c hmem => htidy n a c (.tail _ (List.mem_append_left _ hmem))⟩,
    ⟨hplain.2.2, fun n a c hmem => htidy n a c (.tail _ (List.mem_append_right _ hmem))⟩⟩

theorem hasTag (hchildren : ArePlain children) (htidy : IsTidy name attributes) :
    HasTag (.element name attributes children)
      (elementTag name attributes (plainTags false none children)) := by
  refine ⟨name, attributes, children, _, rfl, htidy, ?_, isTagOf_elementTag name htidy.distinct _⟩
  rw [ofNodes_eq, hchildren.plain]
  rfl

end ArePlain

theorem ofText_eq_span {top : Bool} {before after : Option Node} {cs : List Char} {t : Tag}
    (h : ofText top before after cs = some t) : ∃ text, t = span text := by
  unfold ofText at h
  split at h
  · split at h
    · exact ⟨_, (Option.some.inj h).symm⟩
    · cases h
  · exact ⟨_, (Option.some.inj h).symm⟩

/-- The tags of texts are not those of elements. -/
theorem filter_ofText (top : Bool) (before after : Option Node) (cs : List Char) :
    (Tag.descendantsOf (ofText top before after cs).toList).filter (·.text.isNone) = [] := by
  cases htag : ofText top before after cs with
  | none => simp
  | some t =>
    obtain ⟨text, rfl⟩ := ofText_eq_span htag
    rfl

/-- The elements have their tags in document order. -/
theorem hasTag_plainTags {nodes : List Node} (h : ArePlain nodes) (top : Bool)
    (before : Option Node) :
    List.Forall₂ HasTag ((Node.descendantsOf nodes).filter Node.isElement)
      ((Tag.descendantsOf (plainTags top before nodes)).filter (·.text.isNone)) := by
  induction nodes using Node.forestInduction generalizing top before with
  | nil => simp
  | text cs rest ih =>
    rw [plainTags_text, Tag.descendantsOf_append, List.filter_append, filter_ofText,
      Node.descendantsOf_text, List.filter_cons_of_neg (by simp [Node.isElement]), List.nil_append]
    exact ih h.behind_text top _
  | comment rest ih =>
    rw [plainTags_comment, Node.descendantsOf_comment,
      List.filter_cons_of_neg (by simp [Node.isElement])]
    exact ih h.behind_comment top _
  | element name attributes children rest ihc ihr =>
    obtain ⟨htidy, -, hchildren, hrest⟩ := h.element
    have htag := isTagOf_elementTag name htidy.distinct (plainTags false none children)
    rw [plainTags_element, Tag.descendantsOf_cons, htag.children, Node.descendantsOf_element,
      List.filter_cons_of_pos (by rfl), List.cons_append,
      List.filter_cons_of_pos (by rw [htag.text]; rfl), List.filter_append, List.filter_append]
    -- the element leads its descendants, and its tag leads theirs
    exact .cons (hchildren.hasTag htidy) (List.rel_append (ihc hchildren _ _) (ihr hrest _ _))

/-- Every tag is the span of a text or the tag of an element. -/
theorem span_or_hasTag {nodes : List Node} (h : ArePlain nodes) (top : Bool)
    (before : Option Node) : ∀ t ∈ Tag.descendantsOf (plainTags top before nodes),
      (∃ text, t = span text) ∨ ∃ n ∈ Node.descendantsOf nodes, HasTag n t := by
  induction nodes using Node.forestInduction generalizing top before with
  | nil => simp
  | text cs rest ih =>
    intro t ht
    rw [plainTags_text, Tag.descendantsOf_append, List.mem_append] at ht
    rcases ht with ht | ht
    · obtain ⟨u, hu, hcases⟩ := Tag.mem_descendantsOf.mp ht
      obtain ⟨text, rfl⟩ := ofText_eq_span (Option.mem_toList.mp hu)
      rcases hcases with rfl | hbelow
      · exact .inl ⟨text, rfl⟩
      · simp [span] at hbelow
    · refine (ih h.behind_text _ _ t ht).imp_right fun ⟨n, hn, htag⟩ => ⟨n, ?_, htag⟩
      rw [Node.descendantsOf_text]
      exact .tail _ hn
  | comment rest ih =>
    intro t ht
    rw [plainTags_comment] at ht
    refine (ih h.behind_comment _ _ t ht).imp_right fun ⟨n, hn, htag⟩ => ⟨n, ?_, htag⟩
    rw [Node.descendantsOf_comment]
    exact .tail _ hn
  | element name attributes children rest ihc ihr =>
    obtain ⟨htidy, -, hchildren, hrest⟩ := h.element
    have htag := isTagOf_elementTag name htidy.distinct (plainTags false none children)
    intro t ht
    rw [plainTags_element, Tag.descendantsOf_cons, htag.children, List.cons_append, List.mem_cons,
      List.mem_append] at ht
    rw [Node.descendantsOf_element]
    rcases ht with rfl | ht | ht
    · exact .inr ⟨_, List.mem_cons_self, hchildren.hasTag htidy⟩
    · exact (ihc hchildren _ _ t ht).imp_right fun ⟨n, hn, htag⟩ =>
        ⟨n, .tail _ (List.mem_append_left _ hn), htag⟩
    · exact (ihr hrest _ _ t ht).imp_right fun ⟨n, hn, htag⟩ =>
        ⟨n, .tail _ (List.mem_append_right _ hn), htag⟩

/-- All tags of nodes without inline styles are clean. -/
theorem isClean_plainTags {nodes : List Node} (h : ArePlain nodes) (top : Bool)
    (before : Option Node) : ∀ t ∈ Tag.descendantsOf (plainTags top before nodes), IsClean t := by
  intro t ht
  rcases span_or_hasTag h top before t ht with ⟨text, rfl⟩ | ⟨n, hn, htag⟩
  · exact isClean_span text
  · obtain ⟨name, attributes, children, inner, rfl, -, -, htag⟩ := htag
    exact htag.isClean (Bool.eq_false_iff.mpr (List.any_eq_false.mp h.plain _ hn))

/-! ## Markup -/

theorem arePlain_of_parse {markup : String} {nodes : List Node}
    (hparse : Html.parse markup = .ok nodes) (hplain : hasInlineStyle nodes = false) :
    ArePlain nodes :=
  ⟨hplain, fun _ _ _ hmem => isTidy_of_parse hparse hmem⟩

/-- What is made of markup that has been read. -/
theorem ofMarkup_of_parse {markup : String} {nodes : List Node}
    (hparse : Html.parse markup = .ok nodes) :
    ofMarkup markup =
      if hasInlineStyle nodes then .error .inlineStyle else .ok (plainTags true none nodes) := by
  rw [ofMarkup, hparse]
  exact ofNodes_eq nodes true none

theorem ofMarkup_eq_ok_iff {markup : String} {tags : List Tag} :
    ofMarkup markup = .ok tags ↔ ∃ nodes, Html.parse markup = .ok nodes ∧
      hasInlineStyle nodes = false ∧ tags = plainTags true none nodes := by
  cases hparse : Html.parse markup with
  | error r => simp [ofMarkup, hparse]
  | ok nodes =>
    rw [ofMarkup_of_parse hparse]
    constructor
    · intro h
      split at h
      · cases h
      · next hplain => exact ⟨nodes, rfl, Bool.eq_false_iff.mpr hplain, (Except.ok.inj h).symm⟩
    · rintro ⟨_, hnodes, hplain, rfl⟩
      obtain rfl := Except.ok.inj hnodes
      rw [hplain]
      rfl

theorem isClean_of_ofMarkup {markup : String} {tags : List Tag} (h : ofMarkup markup = .ok tags) :
    ∀ t ∈ Tag.descendantsOf tags, IsClean t := by
  obtain ⟨nodes, hparse, hplain, rfl⟩ := ofMarkup_eq_ok_iff.mp h
  exact isClean_plainTags (arePlain_of_parse hparse hplain) true none

/-- **Whatever the markup holds, its tags are clean.** An inline style is refused at any depth, and
nothing else is once the markup has been read. If there is none, all tags are clean, and the elements
have their tags in document order. -/
theorem markup_clean (markup : String) :
    (ofMarkup markup = .error .inlineStyle ↔
      ∃ nodes, Html.parse markup = .ok nodes ∧ hasInlineStyle nodes = true) ∧
    ∀ nodes, Html.parse markup = .ok nodes → hasInlineStyle nodes = false →
      ∃ tags, ofMarkup markup = .ok tags ∧
        (∀ t ∈ Tag.descendantsOf tags, IsClean t) ∧
        List.Forall₂ HasTag ((Node.descendantsOf nodes).filter Node.isElement)
          ((Tag.descendantsOf tags).filter (·.text.isNone)) := by
  constructor
  · cases hparse : Html.parse markup with
    | error r => simp [ofMarkup, hparse]
    | ok nodes =>
      rw [ofMarkup_of_parse hparse]
      cases hstyle : hasInlineStyle nodes <;> simp [hstyle]
  · intro nodes hparse hplain
    have h := arePlain_of_parse hparse hplain
    exact ⟨_, ofMarkup_eq_ok_iff.mpr ⟨nodes, hparse, hplain, rfl⟩, isClean_plainTags h true none,
      hasTag_plainTags h true none⟩

/-- A link whose address runs a script, with other attributes and an element in it, and a style in
capital letters two levels down. -/
theorem markup_clean_nested :
    (∃ tags, ofMarkup "<p class=' b\ta b'>x<a href='java\nscript:y' rel='u  v'><em>l</em></a></p>" =
        .ok tags ∧ (∀ t ∈ Tag.descendantsOf tags, IsClean t) ∧
      List.Forall₂ HasTag
        [.element "p".toList [("class".toList, "b a b".toList)] [.text "x".toList,
          .element "a".toList [("href".toList, "java\nscript:y".toList), ("rel".toList, "u v".toList)]
            [.element "em".toList [] [.text "l".toList]]],
        .element "a".toList [("href".toList, "java\nscript:y".toList), ("rel".toList, "u v".toList)]
          [.element "em".toList [] [.text "l".toList]],
        .element "em".toList [] [.text "l".toList]]
        ((Tag.descendantsOf tags).filter (·.text.isNone))) ∧
    ofMarkup "<ul><li><b STYLE=x>y" = .error .inlineStyle :=
  ⟨(markup_clean _).2
    [.element "p".toList [("class".toList, "b a b".toList)] [.text "x".toList,
      .element "a".toList [("href".toList, "java\nscript:y".toList), ("rel".toList, "u v".toList)]
        [.element "em".toList [] [.text "l".toList]]]] rfl rfl,
    (markup_clean _).1.mpr
      ⟨[.element "ul".toList [] [.element "li".toList [] [
        .element "b".toList [("style".toList, "x".toList)] [.text "y".toList]]]], rfl, rfl⟩⟩

end Placard.Markdown
