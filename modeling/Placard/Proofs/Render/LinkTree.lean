import Mathlib.Data.List.Forall2
import Placard.Proofs.Render.LinkGroup
import Placard.Proofs.Render.WiredTree

/-!
# The links of a card

By induction on heights, whatever is rendered for a node has the links of the node. In the tree of a
card that gives, link by link: the link of a button leads to the hidden card that its action shows,
and to no other tag; any other link leads nowhere.
-/

namespace Placard.Render

open Tag Data Document

/-! ## Lists of tags -/

/-- Tags with these links, and with the cards that they lead to. -/
def AreLinked (shown : Card → Tag → Prop) (cards : List (Option Card)) (new : List String)
    (ts : List Tag) : Prop :=
  ∃ ls, ls.map Prod.snd = cards ∧ Counted new ls ts ∧ Leads shown ls ts

section

variable {shown : Card → Tag → Prop} {new more : List String} {cards cards' : List (Option Card)}
  {t : Tag} {ts us : List Tag}

theorem areLinked_nil : AreLinked shown [] [] [] :=
  ⟨[], rfl, counted_nil, leads_nil⟩

theorem AreLinked.append (h : AreLinked shown cards new ts) (h' : AreLinked shown cards' more us) :
    AreLinked shown (cards ++ cards') (new ++ more) (ts ++ us) := by
  obtain ⟨ls, hcards, hcounted, hleads⟩ := h
  obtain ⟨ms, hcards', hcounted', hleads'⟩ := h'
  exact ⟨ls ++ ms, by rw [List.map_append, hcards, hcards'], hcounted.append hcounted',
    hleads.append hleads'⟩

theorem GivesLinked.areLinked {tag : Option Tag} (h : GivesLinked shown cards new tag) :
    AreLinked shown cards new tag.toList := by
  obtain ⟨ls, hcards, hcounted, hleads⟩ := h
  exact ⟨ls, hcards, hcounted, hleads.of_below⟩

/-- A leaf with these tags put into it. -/
theorem IsLeaf.hold (ht : IsLeaf t) (hts : AreLinked shown cards new ts) :
    GivesLinked shown cards new (some (t.appendAll ts)) := by
  obtain ⟨ls, hcards, hcounted, hleads⟩ := hts
  exact ((ht.linked shown).appendAll hcounted hleads).gives hcards

theorem link_mapM {α β : Type} {source : IdSource} {f : α → Render β} {g : β → List Tag}
    {cards : α → List (Option Card)} {as : List α}
    (h : ∀ a ∈ as, IssuesFrom source (f a) fun new b => AreLinked shown (cards a) new (g b)) :
    IssuesFrom source (as.mapM f) fun new bs =>
      AreLinked shown (as.flatMap cards) new (bs.flatMap g) := by
  induction as with
  | nil => exact .pure areLinked_nil
  | cons a as ih =>
    rw [List.forall_mem_cons] at h
    rw [List.mapM_cons]
    refine h.1.bind fun new b hb => (ih h.2).bind fun more bs hbs => .pure ?_
    rw [List.append_nil, List.flatMap_cons, List.flatMap_cons]
    exact hb.append hbs

/-- What can not be activated has no links. -/
theorem GivesBlock.linked {tag : Option Tag} (h : GivesBlock new tag)
    (hstill : AllObey stillness tag.toList) : GivesLinked shown [] new tag :=
  ⟨[], rfl, h.areBlocks.1.counted (linksOf_of_still hstill), leads_nil⟩

/-- What is rendered for an action that stands among elements leads nowhere. -/
theorem GivesLink.linked {action : Node} {tag : Option Tag} (h : GivesLink action new tag) :
    GivesLinked shown (linkFor action none) new tag := by
  rcases h with ⟨hkind, id, button, rfl, rfl, hchildren, hid, hlink⟩ | ⟨hkind, hcounted⟩
  · refine ⟨[(id, none)], ?_, ⟨?_, fun v => ?_⟩, ?_⟩
    · rw [linkFor, if_pos hkind]
      rfl
    · rw [Option.toList_some, linksOf_singleton, hlink, hchildren, linksOf_nil]
      rfl
    · rw [Option.toList_some, occurrences_singleton, hchildren, hid, occurrences_nil, loose_none]
      simp
    · intro v card hmem
      cases (Prod.mk.inj (List.mem_singleton.mp hmem)).2
  · refine ⟨[], ?_, hcounted, leads_nil⟩
    rw [linkFor, if_neg hkind]
    rfl

end

section

variable {s : Scene} {source : IdSource} (hs : s.Wires)
  (hactive : s.host.supportsInteractivity = true)

include hs hactive

/-! ## Actions -/

theorem link_renderAction (action : Node) : Issues (renderAction s action) (GivesLink action) := by
  have hleaf : IsLeaf ((button s.host.actions (titleOf action)).addClass
      (actionClass action.kind)) := by
    have hclass := actionClass_ne action.kind
    exact IsLeaf.addClass ⟨isInert_button _ _, by simp [button]⟩ _ hclass.1 hclass.2
  unfold renderAction
  rw [if_pos hactive]
  refine (issues_asAction hs.transformers _ _).give fun new u hu => ?_
  rcases hu.link with ⟨hkind, rfl, hlink⟩ | ⟨hkind, id, rfl, hlink⟩
  · refine .inr ⟨hkind, ?_⟩
    exact hleaf.counted.congr hu.children hu.id hlink
  · exact .inl ⟨hkind, id, u, rfl, rfl, hu.children.trans hleaf.empty, hu.id.trans hleaf.noId,
      hlink⟩

theorem link_renderMisplaced (hstill : s.Suits stillness) {node : Node} {u : Unknown}
    (hnode : node.kind = u.kind) : Issues (renderMisplaced s node u) (GivesLink node) := by
  have hurl : "src" ∉ activeAttributes := by decide
  rcases follows_or_renderAction hstill node u (fun _ _ _ _ _ => trivial) (fun _ _ _ => hurl) with
    ⟨hkind, hstill⟩ | haction
  · refine (hstill.and (issues_renderMisplaced hs hnode)).mono fun new tag htag => .inr ⟨?_, ?_⟩
    · rw [hnode]
      rintro hshow
      rw [hshow] at hkind
      exact absurd hkind (by decide)
    · exact htag.2.block.areBlocks.1.counted (linksOf_of_still htag.1)
  · rw [haction]
    exact link_renderAction hs hactive node

/-! ## Elements -/

/-- What an element is selected by gives it a link that leads nowhere. -/
theorem link_selectable {shown : Card → Tag → Prop} {new : List String}
    {ls : List (String × Option Card)} {t : Tag} (action : Option Action)
    (ht : IsLinked shown none new ls t) : Issues (selectable s action t) fun more u =>
      ∃ own ms, ms.map Prod.snd = (action.toList.flatMap fun a => linkFor (.action a) none) ∧
        IsLinked shown own (new ++ more) (ms ++ ls) u := by
  unfold selectable
  cases action with
  | none => exact .pure ⟨none, [], rfl, by rwa [List.append_nil]⟩
  | some a =>
    dsimp only
    rw [if_pos hactive, Option.toList_some, List.flatMap_singleton]
    refine (issues_asAction hs.transformers (.action a) _).mono fun more u hu => ?_
    refine IsLinked.select ?_ hu
    exact ⟨ht.toCounted.congr (by simp) (by simp) (by simp), by simpa using ht.own,
      by simpa using ht.cards⟩

omit hs in
theorem link_renderCard {c : Card} (hbody : ∀ e ∈ c.body, s.Links source e)
    (haction : ∀ a, IssuesFrom source (s.render (.action a)) (GivesLink (.action a)))
    (hcard : ∀ a ∈ c.actions, ∀ card, cardOf? a = some card → s.LinksCard source card) :
    IssuesFrom source (renderCard s c)
      (GivesLinked (IsHidden s source) (cardLinks s.host (.element (.card c)))) := by
  refine (link_addElements hbody
    ((cardFrame_leaf s.host c.backgroundImage).linked _)).bind fun new t ht => ?_
  obtain ⟨ls, hls, hlinked⟩ := ht
  have hcards : ∀ card ∈ (c.actions.take s.host.actions.maxActions).filterMap cardOf?,
      s.LinksCard source card := by
    intro card hmem
    obtain ⟨a, ha, hshown⟩ := List.mem_filterMap.mp hmem
    exact hcard a (List.mem_of_mem_take ha) card hshown
  unfold addStrip
  rw [if_pos hactive]
  refine IssuesFrom.give (Q := fun more u => GivesLinked (IsHidden s source)
    (cardLinks s.host (.element (.card c))) (new ++ more) (some u)) ?_ fun _ _ hu => hu
  refine (link_addActions (fun a _ => haction a) hcards (linkedStrip_empty _)).give
    fun more strip hstrip => ?_
  obtain ⟨bs, cs, hbs, hcs, hstrip⟩ := hstrip
  refine (hlinked.appendStrip hstrip s.host).gives ?_
  rw [cardLinks_group rfl, shownParts, if_pos hactive]
  simp [hls, hbs, hcs, shownBy]

theorem link_renderStack {kind : String} (hcard : kindClass kind ≠ "ac-showCard")
    (hstrip : kindClass kind ≠ "ac-actionset") {items : List Element}
    (h : ∀ e ∈ items, s.Links source e) (action : Option Action) :
    IssuesFrom source (renderStack s kind items action) (GivesLinked (IsHidden s source)
      ((action.toList.flatMap fun a => linkFor (.action a) none) ++
        (items.map Node.element).flatMap (cardLinks s.host))) := by
  have hframe := (isLeaf_named "div" (by decide)).addClass (kindClass kind) hcard hstrip
  refine (link_addElements h (hframe.linked _)).bind fun new t ht => ?_
  obtain ⟨ls, hls, hlinked⟩ := ht
  refine ((link_selectable hs hactive action hlinked).from_source source).give fun more u hu => ?_
  obtain ⟨own, ms, hms, hselected⟩ := hu
  refine hselected.gives ?_
  rw [List.nil_append, List.map_append, hms, hls]

theorem link_renderColumnSet {c : ColumnSet}
    (h : ∀ column ∈ c.columns, s.Links source (.column column)) :
    IssuesFrom source (renderColumnSet s c)
      (GivesLinked (IsHidden s source) (cardLinks s.host (.element (.columnSet c)))) := by
  have hrow := link_selectable hs hactive c.selectAction
    (emptyRow_leaf.linked (IsHidden s source))
  refine (hrow.from_source source).bind fun new row hrow => ?_
  obtain ⟨own, ms, hms, hselected⟩ := hrow
  refine (link_addColumns _ h hselected).give fun more u hu => ?_
  obtain ⟨ls, hls, hlinked⟩ := hu
  refine hlinked.gives ?_
  rw [cardLinks_eq, ownLinks, shownParts, List.append_nil, List.map_append, hms, hls]

theorem link_renderImage (i : Image) : IssuesFrom source (renderImage s i)
    (GivesLinked (IsHidden s source) (cardLinks s.host (.element (.image i)))) := by
  have hframe := (placed_leaf (sizedFor_leaf imageFrame_leaf s.host.imageSizes i.size)
    i.alignment).linked (IsHidden s source)
  have hbox := hframe.appendAll (picture_leaf i.url i.altText i.style).counted leads_nil
  refine ((link_selectable hs hactive i.selectAction hbox).from_source source).give
    fun new u hu => ?_
  obtain ⟨own, ms, hms, hselected⟩ := hu
  refine hselected.gives ?_
  rw [cardLinks_leaf rfl, ownLinks, List.append_nil, List.append_nil, hms]

omit hs hactive

/-- A title and a value, each in a cell of their row. -/
theorem link_factRow {f : Fact}
    (htitle : s.Links source (.textBlock (factText s.host.factSet.title f.title)))
    (hvalue : s.Links source (.textBlock (factText s.host.factSet.value f.value))) :
    IssuesFrom source (factRow s f) fun new row => AreLinked (IsHidden s source)
      (cardLinks s.host (.element (.textBlock (factText s.host.factSet.title f.title))) ++
        cardLinks s.host (.element (.textBlock (factText s.host.factSet.value f.value))))
      new [row] := by
  unfold factRow
  refine htitle.bind fun new title ht => hvalue.give fun more value hv => ?_
  have ht' := ht.map (f := fun t => t.addClass "ac-facttitle" |>.setStyle .marginRight
    (pixels s.host.factSet.spacing)) fun t => ⟨by simp, by simp, by simp⟩
  have hv' := hv.map (f := (·.addClass "ac-factvalue")) fun t => ⟨by simp, by simp, by simp⟩
  have hcells := ((titleCell_leaf s.host.factSet.title.maxWidth).hold
    ht'.areLinked).areLinked.append (valueCell_leaf.hold hv'.areLinked).areLinked
  simpa [Tag.append, Tag.appendAll] using (factLine_leaf.hold hcells).areLinked

theorem link_renderFactSet {facts : FactSet}
    (h : ∀ layout text, s.Links source (.textBlock (factText layout text))) :
    IssuesFrom source (renderFactSet s facts)
      (GivesLinked (IsHidden s source) (cardLinks s.host (.element (.factSet facts)))) := by
  have hclass : kindClass "FactSet" = "ac-factset" := by decide
  have hlist := ((isLeaf_named "ul" (by decide)).addClass (kindClass "FactSet")
    (by rw [hclass]; decide) (by rw [hclass]; decide)).setStyle .overflow "hidden"
  refine (link_mapM (g := fun row => [row]) fun f _ => link_factRow (h _ _) (h _ _)).give
    fun new rows hrows => ?_
  rw [List.flatMap_singleton'] at hrows
  rw [cardLinks_group rfl, shownParts, List.flatMap_assoc]
  simpa using hlist.hold hrows

theorem link_renderImageSet {images : ImageSet}
    (h : ∀ i ∈ images.images, s.Links source (.image (inSet images.imageSize i))) :
    IssuesFrom source (renderImageSet s images)
      (GivesLinked (IsHidden s source) (cardLinks s.host (.element (.imageSet images)))) := by
  have hclass : kindClass "ImageSet" = "ac-imageset" := by decide
  have hlist := (isLeaf_named "ul" (by decide)).addClass (kindClass "ImageSet")
    (by rw [hclass]; decide) (by rw [hclass]; decide)
  -- the size that a set gives an image is not what the image is selected by
  have hsame (i : Image) : cardLinks s.host (.element (.image (inSet images.imageSize i))) =
      cardLinks s.host (.element (.image i)) := by
    have haction : (inSet images.imageSize i).selectAction = i.selectAction := by
      unfold inSet
      split <;> rfl
    rw [cardLinks_leaf rfl, cardLinks_leaf rfl, ownLinks, ownLinks, haction]
  have hmember : ∀ i ∈ images.images, IssuesFrom source (setMember s images.imageSize i)
      fun new tag => AreLinked (IsHidden s source) (cardLinks s.host (.element (.image i))) new
        tag.toList := by
    intro i hi
    have hi := h i hi
    rw [Scene.Links, hsame] at hi
    refine hi.give fun new tag htag => ?_
    exact (htag.map (f := fun t => t.setStyle .display "inline-block" |>.setStyle .marginRight
      "10px") fun _ => ⟨rfl, rfl, rfl⟩).areLinked
  refine (link_mapM hmember).give fun new tags htags => ?_
  have hshown : tags.flatMap Option.toList = tags.reduceOption :=
    (List.filterMap_eq_flatMap_toList id tags).symm
  rw [hshown] at htags
  rw [cardLinks_group rfl, shownParts, List.flatMap_map]
  exact hlist.hold htags

include hs hactive

/-- **One element.** What is rendered for an element has the links of the element if what is rendered
for lower ones has theirs. -/
theorem link_renderNode (hstill : s.Suits stillness)
    (haction : ∀ a, IssuesFrom source (s.render (.action a)) (GivesLink (.action a)))
    (hsome : ∀ card, GivesTag (s.render (.element (.card card))))
    {e : Element} (hlower : ∀ e', (Node.element e').height < (Node.element e).height →
      s.Links source e') :
    IssuesFrom source (renderNode s (.element e))
      (GivesLinked (IsHidden s source) (cardLinks s.host (.element e))) := by
  have hr := hstill.lenient
  have hpart : ∀ e', Node.element e' ∈ (Node.element e).parts → s.Links source e' :=
    fun e' he' => hlower e' (Node.lt_of_mem_parts he')
  -- what holds no nodes and is selected by nothing has no links
  have hleaf (hlinks : cardLinks s.host (.element e) = [])
      (hfollows : Follows stillness (renderNode s (.element e))) :
      IssuesFrom source (renderNode s (.element e))
        (GivesLinked (IsHidden s source) (cardLinks s.host (.element e))) := by
    rw [hlinks]
    refine Issues.from_source ?_ source
    exact (hfollows.and (issues_renderNode_element hs e)).mono fun _ _ h => h.2.linked h.1
  cases e with
  | card c =>
    refine link_renderCard hactive (fun e he => hpart e ?_) haction fun a ha card hcard => ⟨?_, ?_⟩
    · exact List.mem_append_left _ (List.mem_map_of_mem he)
    · have hpart : Node.action a ∈ (Node.element (.card c)).parts :=
        List.mem_append_right _ (List.mem_map_of_mem ha)
      exact hlower _ (lt_of_cardOf hpart hcard)
    · exact hsome card
  | container c =>
    rw [cardLinks_eq, ownLinks, shownParts]
    exact link_renderStack hs hactive (by decide) (by decide)
      (fun e he => hpart e (List.mem_map_of_mem he)) c.selectAction
  | column c =>
    rw [cardLinks_eq, ownLinks, shownParts]
    exact link_renderStack hs hactive (by decide) (by decide)
      (fun e he => hpart e (List.mem_map_of_mem he)) c.selectAction
  | columnSet c =>
    exact link_renderColumnSet hs hactive fun c hc => hpart _ (List.mem_map_of_mem
      (f := fun c => Node.element (.column c)) hc)
  | factSet f => exact link_renderFactSet fun layout text => hlower _ (factText_lt layout text f)
  | image i => exact link_renderImage hs hactive i
  | imageSet images =>
    exact link_renderImageSet fun i hi => hlower _ (inSet_lt hi _)
  | textBlock t =>
    exact hleaf (cardLinks_leaf rfl) ((Issues.ofExcept (obeys_textTag hstill t)).map
      fun _ _ ht => ht)
  | choiceSet c => exact hleaf (cardLinks_leaf rfl) (follows_renderChoiceSet hstill c)
  | textInput i => exact hleaf (cardLinks_leaf rfl) (.pure (obeys_textInputTag hr i))
  | numberInput i => exact hleaf (cardLinks_leaf rfl) (.pure (obeys_numberInputTag hr i))
  | dateInput p => exact hleaf (cardLinks_leaf rfl) (.pure (obeys_pickerTag hr _ (by decide) p))
  | timeInput p => exact hleaf (cardLinks_leaf rfl) (.pure (obeys_pickerTag hr _ (by decide) p))
  | toggle t => exact hleaf (cardLinks_leaf rfl) (follows_renderToggle hstill t)
  | unknown u =>
    rw [cardLinks_leaf rfl]
    exact ((link_renderMisplaced hs hactive hstill rfl).from_source source).mono
      fun _ _ h => h.linked

end

/-! ## Cards -/

section

variable {host : Host.Config}

theorem wires_render (host : Host.Config) :
    (({ host := host } : Session).stage.scene ({ host := host } : Session).stage.render).Wires where
  transformers := rfl
  convert := (isStandard_stage host).convert
  element e := (wires_renderWithin (isStandard_stage host) _).element e
  action a := (wires_renderWithin (isStandard_stage host) _).action a

variable (hactive : host.supportsInteractivity = true)

include hactive

theorem link_render_action (a : Action) :
    Issues (({ host := host } : Session).stage.render (.action a)) (GivesLink (.action a)) := by
  rw [render_eq rfl rfl]
  by_cases hkind : (Node.action a).kind ∈ renderedKinds
  · rw [if_pos hkind]
    cases a with
    | unknown u => exact link_renderMisplaced (wires_render host) hactive (suits_stillness host _) rfl
    | _ => exact link_renderAction (wires_render host) hactive _
  · rw [if_neg hkind]
    refine (Issues.warn _).give fun new _ hnew => .inr ⟨?_, ?_⟩
    · rintro hshow
      rw [hshow] at hkind
      exact hkind (by decide)
    · rw [hnew]
      exact counted_nil

theorem link_render (source : IdSource) (e : Element) :
    (({ host := host } : Session).stage.scene ({ host := host } : Session).stage.render).Links
      source e := by
  have hsome (card : Card) :
      GivesTag (({ host := host } : Session).stage.render (.element (.card card))) :=
    fun source p tag q hrun => (render_isSome_iff rfl rfl hactive hrun).mpr (kind_mem_renderedKinds rfl)
  generalize hn : Node.element e = n
  induction n using Node.heightInduction generalizing e with
  | step n ih =>
    subst hn
    change IssuesFrom source (({ host := host } : Session).stage.render (.element e)) _
    rw [render_eq rfl rfl]
    by_cases hkind : (Node.element e).kind ∈ renderedKinds
    · rw [if_pos hkind]
      exact link_renderNode (wires_render host) hactive (suits_stillness host _)
        (fun a => (link_render_action hactive a).from_source source) hsome
        fun e' he' => ih _ he' e' rfl
    · rw [if_neg hkind]
      have hlinks : cardLinks host (.element e) = [] := by
        cases e with
        | unknown u =>
          rw [cardLinks_leaf rfl, ownLinks, linkFor, if_neg]
          rintro hshow
          rw [hshow] at hkind
          exact hkind (by decide)
        | _ => exact absurd (kind_mem_renderedKinds rfl) hkind
      refine ((Issues.warn _).give fun new _ hnew => ?_).from_source source
      subst hnew
      exact ⟨[], hlinks.symm, counted_nil, leads_nil⟩

omit hactive

/-- Where a link leads in a tree. If a card is rendered for it, then just one tag has its id, and that
tag is the card, which is hidden; otherwise no tag has its id. -/
def LeadsIn (host : Host.Config) (source : IdSource) (tree : Tag) (id : String) :
    Option Card → Prop
  | some card => occurrences "id" id [tree] = 1 ∧ ∃ t ∈ descendantsOf [tree],
      t.attr? "id" = some id ∧ valueAt? .display t.styles = some "none" ∧
      let stage := ({ host := host } : Session).stage
      IsHidden (stage.scene stage.render) source card t
  | none => occurrences "id" id [tree] = 0

theorem display_shownCard (layout : Host.ActionLayout) (button t : Tag) :
    valueAt? .display (shownCard layout button t).styles = some "none" := by
  change valueAt? Property.display (writeAt _ _ (writeAt _ _ _)) = _
  rw [valueAt_writeAt, if_neg (by decide), valueAt_writeAt, if_pos rfl]

theorem leadsIn_of_linked {source : IdSource} {new : List String} (hnew : new.Nodup) {tree : Tag}
    {cards : List (Option Card)}
    (h : GivesLinked (IsHidden (({ host := host } : Session).stage.scene
      ({ host := host } : Session).stage.render) source) cards new (some tree)) :
    List.Forall₂ (LeadsIn host source tree) (linksOf [tree]) cards := by
  obtain ⟨ls, rfl, hcounted, hleads⟩ := h
  rw [Option.toList_some, List.flatMap_singleton] at hleads
  have hlinks := hcounted.links
  rw [Option.toList_some] at hlinks
  rw [hlinks, List.forall₂_map_left_iff, List.forall₂_map_right_iff, List.forall₂_same]
  rintro ⟨id, card⟩ hmem
  have hids := hcounted.ids id
  have hone := List.nodup_iff_count.mp hnew id
  rw [Option.toList_some] at hids
  cases card with
  | some card =>
    obtain ⟨t, ht, hid, hhidden⟩ := hleads.of_children id card hmem
    have hpos : 0 < occurrences "id" id [tree] :=
      List.countP_pos_iff.mpr ⟨t, ht, beq_iff_eq.mpr hid⟩
    have hsingle : occurrences "id" id [tree] = 1 := by omega
    refine ⟨hsingle, t, ht, hid, ?_, hhidden⟩
    obtain ⟨button, tag, p, q, -, rfl⟩ := hhidden
    exact display_shownCard _ button tag
  | none =>
    have hpos : 0 < loose ls id := List.countP_pos_iff.mpr ⟨(id, none), hmem, by simp⟩
    change occurrences "id" id [tree] = 0
    omega

/-- **Where links lead.** If a card is rendered for a host with interactivity, then the links in its
tree are those of what shows of the card, in the order of the document. A button leads to the card
that its action shows, which is hidden below the strip and is the only tag with that id. What an
element is selected by leads to no tag, and neither does a button without a card. -/
theorem links_of_render (hactive : host.supportsInteractivity = true) (source : IdSource) (c : Card)
    {rendered : Rendered} (h : ({ host := host } : Session).render source (some c) = .ok rendered) :
    List.Forall₂ (LeadsIn host source rendered.tag) (linksOf [rendered.tag])
      (cardLinks host (.element (.card c))) := by
  obtain ⟨pass, hrun, -⟩ := render_eq_ok h
  have hcard := IssuesFrom.cardPass (Q := fun new t => GivesLinked _ _ new (some t))
    ((link_render hactive source (.card c)).mono fun new tag htag t ht => by
      obtain rfl := Option.mem_def.mp ht
      exact htag)
  obtain ⟨new, hissued, hnodup, hlinked⟩ := hcard source {} _ _ hrun
  have hnew : new.Nodup := by
    rw [List.nil_append] at hissued
    exact hissued ▸ hnodup List.nodup_nil
  exact leadsIn_of_linked hnew hlinked

/-- A button that shows a card, within a card that a button shows, behind a container that is selected
by such an action. -/
def linkingCard : Card :=
  cardOf [.container { frame := {}, items := [], selectAction := some (.showCard {} none none) }]
    [.showCard {} none (some (cardOf [] [.showCard {} none (some (cardOf [.toggle {}] []))]))]

theorem links_of_render_linking :
    ({} : Host.Config).supportsInteractivity = true ∧
    ∃ rendered, ({ host := {} } : Session).render (listedIds ["a", "b", "c", "d"])
        (some linkingCard) = .ok rendered ∧
      linksOf [rendered.tag] = ["a", "b", "c"] ∧
      List.Forall₂ (LeadsIn {} (listedIds ["a", "b", "c", "d"]) rendered.tag) (linksOf [rendered.tag])
        (cardLinks {} (.element (.card linkingCard))) := by
  refine ⟨rfl, _, rfl, rfl, ?_⟩
  exact links_of_render rfl (listedIds ["a", "b", "c", "d"]) linkingCard rfl

/-- A container that is selected by an action that shows a card. -/
def danglingCard : Card :=
  let action := .showCard {} none (some (cardOf [] []))
  cardOf [.container { frame := {}, items := [], selectAction := some action }] []

/-- **A link that dangles.** The container gets a link, but the card of its action is not rendered:
no tag has the id that the link is. -/
theorem link_dangling : ∃ rendered,
    ({ host := {} } : Session).render (listedIds ["a"]) (some danglingCard) = .ok rendered ∧
    linksOf [rendered.tag] = ["a"] ∧ occurrences "id" "a" [rendered.tag] = 0 :=
  ⟨_, rfl, rfl, rfl⟩

end

end Placard.Render
