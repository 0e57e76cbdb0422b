import Mathlib.Data.List.ReduceOption
import Placard.Proofs.Render.WiredGroup
import Placard.Render.Content
import Placard.Render.Misplaced

/-!
# Texts, facts and images are wired

Most of what these renderers make are leaves, tags without children that ids do not concern. A text
is a frame around tags of that kind, and facts and images are blocks next to each other.
-/

namespace Placard.Render

open Tag Data Document

/-! ## Leaves -/

/-- A tag without children that ids do not concern. -/
structure IsLeaf (t : Tag) : Prop extends IsInert t where
  empty : t.children = []

/-- Whether an attribute says nothing about wiring. -/
def IsOther (name : String) : Prop :=
  name ≠ "id" ∧ name ≠ cardLink

instance (name : String) : Decidable (IsOther name) :=
  inferInstanceAs (Decidable (_ ∧ _))

section

variable {t : Tag}

theorem IsLeaf.block (ht : IsLeaf t) : IsBlock [] t :=
  (ht.toIsInert.emptyBox ht.empty).toIsBlock

theorem IsLeaf.gives (ht : IsLeaf t) : GivesBlock [] (some t) :=
  givesBlock_some.mpr ht.block

theorem isLeaf_named (name : String) (hname : name ≠ "label") : IsLeaf (Tag.named name) :=
  ⟨⟨⟨hname, by simp, by simp⟩, rfl, rfl⟩, rfl⟩

theorem IsLeaf.setStyle (ht : IsLeaf t) (p : Property) (value : String) :
    IsLeaf (t.setStyle p value) :=
  ⟨⟨⟨ht.notLabel, ht.notCard, ht.notStrip⟩, ht.noId, ht.noLink⟩, ht.empty⟩

theorem IsLeaf.setText (ht : IsLeaf t) (text : Option String) : IsLeaf (t.setText text) :=
  ⟨⟨⟨ht.notLabel, ht.notCard, ht.notStrip⟩, ht.noId, ht.noLink⟩, ht.empty⟩

theorem IsLeaf.addClass (ht : IsLeaf t) (className : String) (hcard : className ≠ "ac-showCard")
    (hstrip : className ≠ "ac-actionset") : IsLeaf (t.addClass className) :=
  ⟨⟨ht.toIsPlain.addClass className hcard hstrip, by simpa using ht.noId, by simpa using ht.noLink⟩,
    by simpa using ht.empty⟩

theorem IsLeaf.setAttr (ht : IsLeaf t) (name : String) (hname : IsOther name) (value : String) :
    IsLeaf (t.setAttr name value) := by
  refine ⟨⟨⟨ht.notLabel, ht.notCard, ht.notStrip⟩, ?_, ?_⟩, ht.empty⟩
  · rw [attr_setAttr, if_neg hname.1]
    exact ht.noId
  · rw [attr_setAttr, if_neg hname.2]
    exact ht.noLink

theorem IsLeaf.setFilled (ht : IsLeaf t) (name : String) (hname : IsOther name)
    (value : Option String) : IsLeaf (setFilled name value t) := by
  unfold Render.setFilled
  split
  · exact ht.setAttr _ hname _
  · exact ht

theorem IsLeaf.setNumber (ht : IsLeaf t) (name : String) (hname : IsOther name)
    (x : Option Number.Double) : IsLeaf (setNumber name x t) := by
  unfold Render.setNumber
  split
  · exact ht
  · exact ht
  · exact ht.setAttr _ hname _

theorem IsLeaf.setPresent (ht : IsLeaf t) (name : String) (hname : IsOther name) (v : Value) :
    IsLeaf (setPresent name v t) := by
  unfold Render.setPresent
  split
  · exact ht.setAttr _ hname _
  · exact ht

end

/-! ## Edits below a tag -/

theorem editBelow_eq (p : Tag → Bool) (f : Tag → Tag) (t : Tag) :
    editBelow p f t = { t with children := editEach p f t.children } := by
  cases t
  rw [editBelow]

/-- A tag that differs from another one in its styles and its children only. -/
structure IsRestyled (t u : Tag) : Prop where
  name : u.name = t.name
  text : u.text = t.text
  classes : u.classes = t.classes
  attributes : u.attributes = t.attributes

theorem IsRestyled.attr {t u : Tag} (h : IsRestyled t u) (name : String) :
    u.attr? name = t.attr? name := by
  rw [attr?, h.attributes, attr?]

/-- A tag among edited ones was there before, but for its styles and its children. -/
theorem mem_descendantsOf_editEach {p : Tag → Bool} {f : Tag → Tag}
    (hf : ∀ t, IsRestyled t (f t) ∧ (f t).children = t.children) {ts : List Tag} {t : Tag}
    (h : t ∈ descendantsOf (editEach p f ts)) : ∃ u ∈ descendantsOf ts, IsRestyled u t := by
  induction ts using forestInduction with
  | nil => simp at h
  | cons u ts ihc ihr =>
    let inner : Tag := { u with children := editEach p f u.children }
    -- the tag itself is edited last, when everything below it has been
    have hedited : IsRestyled u (if p u then f inner else inner) ∧
        (if p u then f inner else inner).children = editEach p f u.children := by
      split
      · obtain ⟨hstyled, hchildren⟩ := hf inner
        exact ⟨⟨hstyled.1, hstyled.2, hstyled.3, hstyled.4⟩, hchildren⟩
      · exact ⟨⟨rfl, rfl, rfl, rfl⟩, rfl⟩
    rw [editEach_cons, descendantsOf_cons, hedited.2, List.cons_append, List.mem_cons,
      List.mem_append] at h
    rw [descendantsOf_cons, List.cons_append]
    rcases h with rfl | hbelow | hbehind
    · exact ⟨u, List.mem_cons_self, hedited.1⟩
    · obtain ⟨v, hv, hstyled⟩ := ihc hbelow
      exact ⟨v, .tail _ (List.mem_append_left _ hv), hstyled⟩
    · obtain ⟨v, hv, hstyled⟩ := ihr hbehind
      exact ⟨v, .tail _ (List.mem_append_right _ hv), hstyled⟩

theorem IsRestyled.inert {t u : Tag} (h : IsRestyled t u) (ht : IsInert t) : IsInert u where
  notLabel := h.name ▸ ht.notLabel
  notCard := h.classes ▸ ht.notCard
  notStrip := h.classes ▸ ht.notStrip
  noId := by rw [h.attr, ht.noId]
  noLink := by rw [h.attr, ht.noLink]

/-! ## Texts -/

theorem styleParagraph_restyled (wrap : Bool) (t : Tag) :
    IsRestyled t (styleParagraph wrap t) ∧ (styleParagraph wrap t).children = t.children := by
  unfold styleParagraph
  dsimp only
  split <;> exact ⟨⟨rfl, rfl, rfl, rfl⟩, rfl⟩

section

variable {s : Scene}

theorem textFrame_leaf (s : Scene) (t : TextBlock) : Gives (textFrame s t) IsLeaf := by
  have hclass : kindClass "TextBlock" = "ac-textblock" := by decide
  have hdiv := (isLeaf_named "div" (by decide)).addClass
    (kindClass "TextBlock") (by rw [hclass]; decide) (by rw [hclass]; decide)
  have hend {tag : Tag} (htag : IsLeaf tag) : IsLeaf
      (if t.wrap then tag.setStyle .wordWrap "break-word"
        else tag.setStyle .whiteSpace "nowrap") := by
    split <;> exact htag.setStyle _ _
  unfold textFrame
  refine Gives.seq fun size => ?_
  dsimp only
  have hstyled (height : String) := (((((hdiv.setStyle .boxSizing "border-box").setStyle .textAlign
    (Keyword.text t.alignment)).setStyle .color (s.textColor t.color t.isSubtle)).setStyle
    .lineHeight height).setStyle .fontSize (pixels (s.host.fontSizes.size t.size))).setStyle
    .fontWeight (fontWeight t.weight)
  split
  · exact .pure (hend (hstyled _))
  · refine Gives.seq fun lines => ?_
    exact .pure (hend (((hstyled _).setStyle _ _).setStyle _ _))

theorem issues_textTag (hs : s.Wires) (t : TextBlock) :
    Issues (some <$> ofExcept (textTag s t)) GivesBlock := by
  refine Issues.map (Issues.ofExcept (Q := IsBlock) ?_) fun new u hu => givesBlock_some.mpr hu
  unfold textTag
  refine (textFrame_leaf s t).bind fun frame hframe => ?_
  refine (hs.convert _).bind fun content hcontent => .pure ?_
  have hinside : ∀ u ∈ descendantsOf (editEach isParagraph (styleParagraph t.wrap)
      (frame.appendAll content).children), IsInert u := by
    rw [children_appendAll, hframe.empty, List.nil_append]
    intro u hu
    obtain ⟨v, hv, hstyled⟩ := mem_descendantsOf_editEach (styleParagraph_restyled t.wrap) hu
    exact hstyled.inert (hcontent v hv)
  rw [editBelow_eq]
  have hinert : IsInert { frame.appendAll content with
      children := editEach isParagraph (styleParagraph t.wrap) (frame.appendAll content).children } :=
    ⟨⟨hframe.notLabel, hframe.notCard, hframe.notStrip⟩, hframe.noId, hframe.noLink⟩
  exact (hinert.box (fun u hu => (hinside u (mem_descendantsOf_self hu)).toIsPlain)
    (wired_of_inert hinside)).toIsBlock

/-! ## Facts -/

/-- Blocks that stand next to each other. -/
def AreBlocks (new : List String) (ts : List Tag) : Prop :=
  Wired new ts ∧ ∀ t ∈ ts, IsPlain t

theorem areBlocks_nil : AreBlocks [] [] :=
  ⟨.nil, fun _ ht => absurd ht List.not_mem_nil⟩

theorem AreBlocks.append {new more : List String} {ts us : List Tag} (hts : AreBlocks new ts)
    (hus : AreBlocks more us) : AreBlocks (new ++ more) (ts ++ us) :=
  ⟨hts.1.append hus.1, List.forall_mem_append.mpr ⟨hts.2, hus.2⟩⟩

theorem IsBlock.areBlocks {new : List String} {t : Tag} (ht : IsBlock new t) : AreBlocks new [t] :=
  ⟨ht.wired, List.forall_mem_singleton.mpr ht.plain⟩

theorem GivesBlock.areBlocks {new : List String} {tag : Option Tag} (h : GivesBlock new tag) :
    AreBlocks new tag.toList := by
  cases tag with
  | none => exact ⟨Wired.nil.weaken new, fun _ ht => absurd ht List.not_mem_nil⟩
  | some t => exact (givesBlock_some.mp h).areBlocks

/-- Blocks in a leaf make a box. -/
theorem IsLeaf.box {new : List String} {t : Tag} {ts : List Tag} (ht : IsLeaf t)
    (hts : AreBlocks new ts) : IsBox new (t.appendAll ts) :=
  (ht.toIsInert.emptyBox ht.empty).appendAll hts.1 hts.2

/-- Changes that concern neither ids nor what is in a tag keep it a block. -/
theorem GivesBlock.map {new : List String} {tag : Option Tag} (h : GivesBlock new tag)
    {f : Tag → Tag} (hf : ∀ t, IsPlain t → IsPlain (f t) ∧ (f t).children = t.children ∧
      (f t).attr? "id" = t.attr? "id" ∧ (f t).attr? cardLink = t.attr? cardLink) :
    GivesBlock new (tag.map f) := by
  intro u hu
  obtain ⟨t, ht, rfl⟩ := Option.map_eq_some_iff.mp hu
  obtain ⟨hplain, hchildren, hid, hlink⟩ := hf t (h t ht).plain
  exact (h t ht).congr hplain hchildren hid hlink

/-- The cells of a fact, and the line that they stand in. -/
theorem titleCell_leaf (width : Int) : IsLeaf (Tag.named "h3" |>.addClass "ac-factset-titlecell"
    |>.setStyle .height "inherit" |>.setStyle .maxWidth (pixels width)) :=
  (((isLeaf_named "h3" (by decide)).addClass _ (by decide) (by decide)).setStyle _ _).setStyle _ _

theorem valueCell_leaf : IsLeaf (Tag.named "span" |>.addClass "ac-factset-valuecell"
    |>.setStyle .height "inherit") :=
  ((isLeaf_named "span" (by decide)).addClass _ (by decide) (by decide)).setStyle _ _

theorem factLine_leaf : IsLeaf (Tag.named "li" |>.setStyle .height "1px") :=
  (isLeaf_named "li" (by decide)).setStyle _ _

theorem issues_factRow (hs : s.Wires) (f : Fact) : Issues (factRow s f) IsBlock := by
  unfold factRow
  refine (hs.element _).bind fun new title htitle => ?_
  refine (hs.element _).give fun more value hvalue => ?_
  have htitle := htitle.map (f := fun t => t.addClass "ac-facttitle" |>.setStyle .marginRight
    (pixels s.host.factSet.spacing)) fun t ht => by
      have hclass := ht.addClass "ac-facttitle" (by decide) (by decide)
      exact ⟨⟨hclass.1, hclass.2, hclass.3⟩, by simp, by simp, by simp⟩
  have hvalue := hvalue.map (f := (·.addClass "ac-factvalue")) fun t ht =>
    ⟨ht.addClass _ (by decide) (by decide), by simp, by simp, by simp⟩
  have hcells := ((titleCell_leaf s.host.factSet.title.maxWidth).box
    htitle.areBlocks).toIsBlock.areBlocks.append
    (valueCell_leaf.box hvalue.areBlocks).toIsBlock.areBlocks
  have hboth := (factLine_leaf.box hcells).toIsBlock
  simpa [Tag.append, Tag.appendAll] using hboth

theorem issues_renderFactSet (hs : s.Wires) (facts : FactSet) :
    Issues (renderFactSet s facts) GivesBlock := by
  have hclass : kindClass "FactSet" = "ac-factset" := by decide
  have hlist := ((isLeaf_named "ul" (by decide)).addClass (kindClass "FactSet")
    (by rw [hclass]; decide) (by rw [hclass]; decide)).setStyle .overflow "hidden"
  refine Issues.give (Q := AreBlocks) ?_ fun new rows hrows => ?_
  · exact Issues.mapM (Q := IsBlock) areBlocks_nil
      (fun _ _ _ _ hrow hrows => hrow.areBlocks.append hrows) _ fun f _ => issues_factRow hs f
  · exact givesBlock_some.mpr (hlist.box hrows).toIsBlock

/-! ## Images -/

theorem picture_leaf (url : String) (alt : Option String) (style : ImageStyle) :
    IsLeaf (picture url alt style) := by
  have hpicture (alt : String) := (((isLeaf_named "img" (by decide)).setStyle .width
    "100%").setAttr "alt" (by decide) alt).setAttr "src" (by decide) url
  unfold picture
  dsimp only
  split
  · exact hpicture _
  · exact (((hpicture _).setStyle _ _).setStyle _ _).setStyle _ _

theorem placed_leaf {t : Tag} (ht : IsLeaf t) (alignment : Placement) :
    IsLeaf (placed alignment t) := by
  unfold placed
  dsimp only
  split
  · exact ((ht.setStyle _ _).setStyle _ _).setStyle _ _
  · exact (ht.setStyle _ _).setStyle _ _
  · exact ht.setStyle _ _

theorem sizedFor_leaf {t : Tag} (ht : IsLeaf t) (sizes : Host.ImageSizes) (size : ImageSize) :
    IsLeaf (sizedFor sizes size t) := by
  unfold sizedFor
  split <;> exact ht.setStyle _ _

theorem imageFrame_leaf : IsLeaf imageFrame := by
  have hclass : kindClass "Image" = "ac-image" := by decide
  exact (((isLeaf_named _ (by decide)).addClass _ (by rw [hclass]; decide)
    (by rw [hclass]; decide)).setStyle _ _).setStyle _ _

/-- An image in its frame. -/
theorem framedPicture_box (alignment : Placement) (sizes : Host.ImageSizes) (size : ImageSize)
    (url : String) (alt : Option String) (style : ImageStyle) :
    IsBox [] ((placed alignment (sizedFor sizes size imageFrame)).append (picture url alt style)) :=
  (placed_leaf (sizedFor_leaf imageFrame_leaf sizes size) alignment).box
    (picture_leaf url alt style).block.areBlocks

theorem issues_renderImage (hs : s.Wires) (i : Image) : Issues (renderImage s i) GivesBlock := by
  have hbox := framedPicture_box i.alignment s.host.imageSizes i.size i.url i.altText i.style
  exact (issues_selectable hs.transformers i.selectAction hbox).give fun new t ht =>
    givesBlock_some.mpr ht.toIsBlock

theorem issues_setMember (hs : s.Wires) (size : ImageSize) (i : Image) :
    Issues (setMember s size i) GivesBlock := by
  unfold setMember
  refine (hs.element _).give fun new tag htag => ?_
  exact htag.map fun t ht => ⟨⟨ht.1, ht.2, ht.3⟩, rfl, rfl, rfl⟩

theorem issues_renderImageSet (hs : s.Wires) (images : ImageSet) :
    Issues (renderImageSet s images) GivesBlock := by
  have hclass : kindClass "ImageSet" = "ac-imageset" := by decide
  have hlist := (isLeaf_named "ul" (by decide)).addClass (kindClass "ImageSet")
    (by rw [hclass]; decide) (by rw [hclass]; decide)
  refine Issues.give (Q := fun new tags => AreBlocks new tags.reduceOption) ?_
    fun new tags htags => ?_
  · refine Issues.mapM (Q := GivesBlock) areBlocks_nil ?_ _ fun i _ => issues_setMember hs _ i
    intro new more tag tags htag htags
    cases tag with
    | none =>
      rw [List.reduceOption_cons_of_none]
      exact htag.areBlocks.append htags
    | some t =>
      rw [List.reduceOption_cons_of_some]
      exact htag.areBlocks.append htags
  · exact givesBlock_some.mpr (hlist.box htags).toIsBlock

end

end Placard.Render
