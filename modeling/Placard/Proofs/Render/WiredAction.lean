import Placard.Proofs.Render.Issue
import Placard.Proofs.Render.Standard
import Placard.Proofs.Render.Wiring

/-!
# Actions and their strips

An action takes a fresh id only if it shows a card, and its tag is the one that holds the link. In a
strip that link and the id of the card are the same id, which was issued once: the button has no id
of its own and the card no link of its own, so each of the two uses it once
(`WiredStrip.addAction`).
-/

namespace Placard.Render

open Tag Data Document

/-! ## Links -/

/-- What is done to the tag of an action of a kind: it may get a link, for which an id is issued. -/
structure Linked (kind : String) (t : Tag) (new : List String) (u : Tag) : Prop where
  name : u.name = t.name
  classes : u.classes = t.classes
  children : u.children = t.children
  id : u.attr? "id" = t.attr? "id"
  link : (kind ≠ "Action.ShowCard" ∧ new = [] ∧ u.attr? cardLink = t.attr? cardLink) ∨
    (kind = "Action.ShowCard" ∧ ∃ id, new = [id] ∧ u.attr? cardLink = some id)

theorem linked_setAttr {kind name value : String} {t : Tag} (hkind : kind ≠ "Action.ShowCard")
    (hid : name ≠ "id") (hlink : name ≠ cardLink) : Linked kind t [] (t.setAttr name value) where
  name := rfl
  classes := rfl
  children := rfl
  id := by rw [attr_setAttr, if_neg hid]
  link := .inl ⟨hkind, rfl, by rw [attr_setAttr, if_neg hlink]⟩

theorem issues_linkAddress {kind : String} (hkind : kind ≠ "Action.ShowCard") (action : Node)
    (t : Tag) : Issues (linkAddress action t) (Linked kind t) := by
  rw [linkAddress_eq]
  exact .read fun url => .pure (linked_setAttr hkind (by decide) (by decide))

theorem issues_linkData {kind : String} (hkind : kind ≠ "Action.ShowCard") (action : Node)
    (t : Tag) : Issues (linkData action t) (Linked kind t) := by
  rw [linkData_eq]
  exact .read fun text => .pure (linked_setAttr hkind (by decide) (by decide))

theorem issues_linkCard {kind : String} (hkind : kind = "Action.ShowCard") (action : Node)
    (t : Tag) : Issues (linkCard action t) (Linked kind t) := by
  refine issues_freshId.bind fun new id hnew => ?_
  subst hnew
  refine .pure ⟨rfl, rfl, rfl, ?_, .inr ⟨hkind, id, rfl, ?_⟩⟩
  · rw [attr_setAttr, if_neg (by decide)]
  · rw [attr_setAttr, if_pos rfl]

/-- Whatever the kind of an action is, its tag gets at most a link, and just if it shows a card. -/
theorem issues_transform {s : Scene} (hs : s.transformers = standardTransformers.get?) (action : Node)
    (t : Tag) : Issues (s.transform action t) (Linked action.kind t) := by
  refine transform_cases (P := fun treat => Issues (treat t) (Linked action.kind t)) hs action
    ?_ ?_ ?_ ?_
  · exact fun hkind => issues_linkAddress (hkind ▸ by decide) action t
  · exact fun hkind => issues_linkData (hkind ▸ by decide) action t
  · exact fun hkind => issues_linkCard hkind action t
  · exact fun hkind => .pure ⟨rfl, rfl, rfl, rfl, .inl ⟨hkind, rfl, rfl⟩⟩

/-! ## Activation -/

/-- The class of an action's tag says nothing about wiring. -/
theorem actionClass_ne (kind : String) :
    actionClass kind ≠ "ac-showCard" ∧ actionClass kind ≠ "ac-actionset" := by
  have hbegins (rest other : String) (hother : other.toList.take 10 ≠ "ac-action-".toList) :
      "ac-action-" ++ rest ≠ other := by
    rintro rfl
    rw [String.toList_append] at hother
    exact hother rfl
  exact ⟨hbegins _ _ (by decide), hbegins _ _ (by decide)⟩

theorem IsPlain.addClass {t : Tag} (ht : IsPlain t) (name : String)
    (hcard : name ≠ "ac-showCard") (hstrip : name ≠ "ac-actionset") : IsPlain (t.addClass name) where
  notLabel := by simpa using ht.notLabel
  notCard := by simpa using ⟨ht.notCard, fun _ => Ne.symm hcard⟩
  notStrip := by simpa using ⟨ht.notStrip, fun _ => Ne.symm hstrip⟩

theorem IsPlain.of_linked {kind : String} {t u : Tag} {new : List String} (ht : IsPlain t)
    (h : Linked kind t new u) : IsPlain u where
  notLabel := h.name ▸ ht.notLabel
  notCard := h.classes ▸ ht.notCard
  notStrip := h.classes ▸ ht.notStrip

theorem Wired.of_linked {kind : String} {t u : Tag} {new more : List String} (ht : Wired new [t])
    (h : Linked kind t more u) : Wired (new ++ more) [u] := by
  rcases h.link with ⟨-, rfl, hlink⟩ | ⟨-, id, rfl, hlink⟩
  · rw [List.append_nil]
    exact ht.congr h.children h.id hlink
  · exact ht.link h.children h.id hlink

theorem issues_asAction {s : Scene} (hs : s.transformers = standardTransformers.get?) (action : Node)
    (t : Tag) : Issues (asAction s action t)
      (Linked action.kind (t.addClass (actionClass action.kind))) := by
  refine (issues_transform hs action _).mono fun new u h => ?_
  have hlink := h.link
  rw [attr_setAttr, if_neg (by decide), attr_setAttr, if_neg (by decide)] at hlink
  refine ⟨h.name, h.classes, h.children, ?_, hlink⟩
  rw [h.id, attr_setAttr, if_neg (by decide), attr_setAttr, if_neg (by decide)]

/-- A box that can be selected is a box. -/
theorem issues_selectable {s : Scene} (hs : s.transformers = standardTransformers.get?)
    (action : Option Action) {t : Tag} {new : List String} (ht : IsBox new t) :
    Issues (selectable s action t) fun more u => IsBox (new ++ more) u := by
  have hkept : Issues (pure t) fun more u => IsBox (new ++ more) u :=
    .pure (by rwa [List.append_nil])
  unfold selectable
  split
  · next a =>
    split
    · refine (issues_asAction hs _ _).mono fun more u h => ?_
      have hclass := actionClass_ne (Node.action a).kind
      have hselectable := ht.plain.addClass "ac-selectable" (by decide) (by decide)
      have hplain := hselectable.addClass _ hclass.1 hclass.2
      have hbox := ht.congr hplain (by simp) (by simp) (by simp)
      refine ⟨⟨hbox.wired.of_linked h, hplain.of_linked h⟩, ?_⟩
      rw [h.children]
      exact hbox.inside
    · exact hkept
  · exact hkept

/-! ## Buttons -/

/-- The button of an action that shows a card. -/
structure IsCardButton (t : Tag) : Prop where
  name : t.name = "a"
  pushes : "ac-pushButton" ∈ t.classes
  children : t.children = []
  noId : t.attr? "id" = none
  link : ∃ id, t.attr? cardLink = some id

theorem isInert_button (layout : Host.ActionLayout) (title : Data.Value) :
    IsInert (button layout title) where
  notLabel := by simp [button]
  notCard := by simp [button]
  notStrip := by simp [button]
  noId := by simp [button]
  noLink := by simp [button]

/-- What a renderer gives for an action. -/
def GivesButton (kind : String) (new : List String) (tag : Option Tag) : Prop :=
  ∀ t ∈ tag, IsBlock new t ∧ (kind = "Action.ShowCard" → IsCardButton t)

theorem issues_renderAction {s : Scene} (hs : s.transformers = standardTransformers.get?)
    (action : Node) : Issues (renderAction s action) (GivesButton action.kind) := by
  unfold renderAction
  split
  · refine (issues_asAction hs _ _).give fun new t h => ?_
    rintro u hu
    obtain rfl := Option.some.inj hu
    have hclass := actionClass_ne action.kind
    have hinert := isInert_button s.host.actions (titleOf action)
    have hplain := hinert.toIsPlain.addClass _ hclass.1 hclass.2
    have hempty : (button s.host.actions (titleOf action)).children = [] := by simp [button]
    have hbox := (hinert.emptyBox hempty).congr hplain (by simp) (by simp) (by simp)
    refine ⟨⟨hbox.wired.of_linked h, hplain.of_linked h⟩, fun hkind => ?_⟩
    refine ⟨?_, ?_, ?_, ?_, ?_⟩
    · rw [h.name]
      simp [button]
    · rw [h.classes]
      simp [button]
    · rw [h.children]
      simp [button]
    · rw [h.id]
      simp [button]
    · rcases h.link with ⟨hne, -⟩ | ⟨-, id, -, hid⟩
      · exact absurd hkind hne
      · exact ⟨id, hid⟩
  · exact .pure fun _ ht => by cases ht

/-! ## Strips -/

/-- A strip whose buttons lead to its cards. -/
structure WiredStrip (new : List String) (strip : Strip) : Prop where
  wired : Wired new (strip.bar :: strip.cards)
  notLabel : strip.bar.name ≠ "label"
  notCard : "ac-showCard" ∉ strip.bar.classes
  isStrip : "ac-actionset" ∈ strip.bar.classes
  inside : ∀ t ∈ strip.bar.children, IsPlain t
  cards : ∀ t ∈ strip.cards, IsShown strip.bar t

theorem wiredStrip_empty (layout : Host.ActionLayout) :
    WiredStrip [] { bar := emptyBar layout, cards := [] } := by
  have hbar : (emptyBar layout).name ≠ "label" ∧ "ac-showCard" ∉ (emptyBar layout).classes ∧
      "ac-actionset" ∈ (emptyBar layout).classes ∧ (emptyBar layout).children = [] ∧
      (emptyBar layout).attr? "id" = none ∧ (emptyBar layout).attr? cardLink = none := by
    unfold emptyBar
    dsimp only
    split <;> simp
  obtain ⟨hname, hcard, hstrip, hchildren, hid, hlink⟩ := hbar
  refine ⟨.element hid hlink ?_ ?_, hname, hcard, hstrip, ?_, ?_⟩
  · rw [hchildren]
    exact wiredRow_nil
  · rw [hchildren]
    exact .nil
  · rw [hchildren]
    exact fun _ ht => absurd ht List.not_mem_nil
  · exact fun _ ht => absurd ht List.not_mem_nil

theorem isInert_gap (layout : Host.ActionLayout) : IsInert (gap layout) := by
  unfold gap
  dsimp only
  split <;> exact ⟨⟨by simp, by simp, by simp⟩, by simp, by simp⟩

/-- A bar with a button more differs from it only in what is in it. -/
theorem appendButton_eq (layout : Host.ActionLayout) (bar button : Tag) :
    ∃ gaps, (∀ t ∈ descendantsOf gaps, IsInert t) ∧
      appendButton layout bar button = bar.appendAll (gaps ++ [button]) := by
  have hgap : (gap layout).children = [] := by
    unfold gap
    dsimp only
    split <;> rfl
  unfold appendButton
  dsimp only
  split
  · refine ⟨[gap layout], ?_, ?_⟩
    · rw [descendantsOf_cons, hgap]
      simpa using isInert_gap layout
    · simp [append, appendAll]
  · exact ⟨[], by simp, rfl⟩

section

variable {new more most : List String} {strip : Strip} {button tag : Tag}

/-- A strip with a button and cards more that this button shows. -/
theorem WiredStrip.add (h : WiredStrip new strip) {cards : List Tag} (hbutton : IsPlain button)
    (hmore : Wired more (button :: cards))
    (hcards : ∀ bar : Tag, button ∈ bar.children → ∀ t ∈ cards, IsShown bar t)
    (layout : Host.ActionLayout) :
    WiredStrip (new ++ more)
      { bar := appendButton layout strip.bar button, cards := strip.cards ++ cards } := by
  obtain ⟨gaps, hgaps, heq⟩ := appendButton_eq layout strip.bar button
  have hplain : ∀ t ∈ strip.bar.children ++ (gaps ++ [button]), IsPlain t := by
    refine List.forall_mem_append.mpr ⟨h.inside, List.forall_mem_append.mpr ⟨?_, ?_⟩⟩
    · exact fun t ht => (hgaps t (mem_descendantsOf_self ht)).toIsPlain
    · exact List.forall_mem_singleton.mpr hbutton
  have hall : Wired more ((gaps ++ [button]) ++ cards) := by
    rw [List.append_assoc]
    exact (wired_of_inert hgaps).append hmore
  rw [heq]
  -- the gap and the button go into the bar, the cards behind it
  refine ⟨h.wired.insert hall (wiredRow_of_plain hplain), h.notLabel, h.notCard, h.isStrip, hplain,
    List.forall_mem_append.mpr ⟨?_, hcards _ ?_⟩⟩
  · intro t ht
    obtain ⟨hlabel, hstrip, id, hid, b, hb, hleads⟩ := h.cards t ht
    exact ⟨hlabel, hstrip, id, hid, b, List.mem_append_left _ hb, hleads⟩
  · rw [children_appendAll]
    exact List.mem_append_right _ (List.mem_append_right _ (List.mem_singleton.mpr rfl))

/-- A button and the card that it shows. The id of the card is the one that was issued for the link
of the button. -/
theorem wired_shownCard (hblock : IsBlock more button) (hbutton : IsCardButton button)
    (htag : IsBlock most tag) (layout : Host.ActionLayout) :
    Wired (more ++ most) [button, shownCard layout button tag] ∧
      ∀ bar : Tag, button ∈ bar.children → IsShown bar (shownCard layout button tag) := by
  obtain ⟨id, hlink⟩ := hbutton.link
  have hshown : (shownCard layout button tag).name = tag.name ∧
      (shownCard layout button tag).children = tag.children ∧
      (∀ c, c ∈ (shownCard layout button tag).classes ↔ c ∈ tag.classes ∨ c = "ac-showCard") ∧
      (shownCard layout button tag).attr? "id" = some id ∧
      (shownCard layout button tag).attr? cardLink = tag.attr? cardLink := by
    have hne : "id" ≠ cardLink := by decide
    simp [shownCard, hlink, hne]
  obtain ⟨hname, hchildren, hclasses, hid, hkept⟩ := hshown
  constructor
  · refine ⟨fun v => ?_, fun v => ?_, ?_⟩
    · -- the button uses the id for its link only
      have hissued := hblock.wired.links v
      have hinside := htag.wired.children.ids v
      rw [occurrences_singleton, hbutton.children, occurrences_nil, hlink] at hissued
      rw [occurrences_cons, occurrences_singleton, occurrences_singleton, hbutton.children,
        occurrences_nil, hbutton.noId, hchildren, hid, List.count_append]
      simp only [reduceCtorEq, if_false] at hissued ⊢
      omega
    · -- and the card for its id only, so its own links are those of the tag that was rendered
      have hissued := hblock.wired.links v
      have hinside := htag.wired.links v
      rw [occurrences_cons, occurrences_singleton _ _ (shownCard layout button tag), hchildren,
        hkept, ← occurrences_singleton, List.count_append]
      omega
    · rw [← List.singleton_append, descendantsOf_append]
      refine List.forall_mem_append.mpr ⟨hblock.wired.rows, Wired.rows_singleton ?_ ?_⟩
      · exact hchildren ▸ htag.wired.row
      · exact hchildren ▸ htag.wired.children.rows
  · intro bar hbar
    refine ⟨hname ▸ htag.plain.notLabel, ?_, id, hid, button, hbar,
      ⟨hbutton.name, hbutton.pushes, hlink⟩⟩
    rw [hclasses]
    rintro (hstrip | hcard)
    · exact htag.plain.notStrip hstrip
    · exact absurd hcard (by decide)

end

end Placard.Render
