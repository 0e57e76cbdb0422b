import Placard.Proofs.Document.Prune
import Placard.Proofs.Render.Presence
import Placard.Proofs.Render.Renaming
import Placard.Proofs.Render.Share
import Placard.Proofs.Render.Shed

/-!
# Nodes without renderers leave nothing behind

A node that is taken out of a list was rendered to a warning and to nothing else: neither a tag nor
a separator nor an id. So a group is rendered as the group without such nodes, and the warnings that
are gone are those for the nodes that are gone, in their order (`sheds_renderNode`).
-/

namespace Placard.Render

open Document

section

variable {s : Scene}

/-! ## Scenes -/

/-- What is picked has no renderer. -/
def OnlyStrays (pick : Pick) : Prop :=
  ∀ place n, pick place n = true → n.isUnknown = true ∧ n.kind ∉ renderedKinds

theorem OnlyStrays.below {pick : Pick} (h : OnlyStrays pick) (i : Nat) :
    OnlyStrays (pick.below i) :=
  fun place n => h (i :: place) n

/-- What is rendered for an element is the same without the nodes that are picked. -/
def Scene.Sheds (s : Scene) (e : Element) : Prop :=
  ∀ pick, OnlyStrays pick → Render.Sheds (unsupported (e.prune pick).gone)
    (s.render (.element e)) (s.render (.element (e.prune pick).rest))

/-- A scene for cards with actions, in which all but the elements with parts is steady. -/
structure Scene.IsOpen (s : Scene) : Prop where
  transformers : s.transformers = standardTransformers.get?
  active : s.host.supportsInteractivity = true
  stray : ∀ n, n.kind ∉ renderedKinds →
    s.render n = do warn (.unsupported n.kind); return none
  text : ∀ t, Steady (s.render (.element (.textBlock t)))
  image : ∀ i, Steady (s.render (.element (.image i)))
  action : ∀ a, Steady (s.render (.action a))
  showCard : ∀ frame title card, s.render (.action (.showCard frame title card)) =
    renderAction s (.action (.showCard frame title card))

section

variable {pick : Pick} (hpick : OnlyStrays pick)

include hpick

/-! ## Elements and columns -/

theorem sheds_addElements (hs : s.IsOpen) {es : List Element} (h : ∀ e ∈ es, s.Sheds e) (i : Nat)
    (t : Tag) : Sheds (unsupported (pruneElements pick i es).gone) (addElements s t es)
      (addElements s t (pruneElements pick i es).rest) := by
  induction es generalizing i t with
  | nil =>
    rw [pruneElements]
    exact Steady.pure t
  | cons e es ih =>
    rw [List.forall_mem_cons] at h
    rw [pruneElements]
    dsimp only
    split
    · next hpicked =>
      -- the element is rendered to nothing, so the container stays as it is
      have hgone : addElement s t e = do
          warn (.unsupported e.kind)
          return t := by
        unfold addElement
        rw [hs.stray _ (hpick _ _ hpicked).2, bind_assoc]
        rfl
      rw [addElements, hgone, bind_assoc]
      exact (ih h.2 (i + 1) t).warned _
    · have hfirst : Sheds (unsupported (e.prune (pick.below i)).gone) (addElement s t e)
          (addElement s t (e.prune (pick.below i)).rest) := by
        unfold addElement
        rw [Element.prune_frame]
        refine (h.1 _ (hpick.below i)).before fun tag => ?_
        cases tag with
        | none => exact Steady.pure t
        | some u => exact Steady.pure _
      rw [addElements, addElements, unsupported_append]
      exact hfirst.bind fun u => ih h.2 (i + 1) u

theorem sheds_addColumns {cs : List Column} (h : ∀ c ∈ cs, s.Sheds (.column c)) (i : Nat)
    (total : Number.Double) (t : Tag) :
    Sheds (unsupported (pruneColumns pick i cs).gone) (addColumns s total t cs)
      (addColumns s total t (pruneColumns pick i cs).rest) := by
  induction cs generalizing i t with
  | nil =>
    rw [pruneColumns]
    exact Steady.pure t
  | cons c cs ih =>
    rw [List.forall_mem_cons] at h
    have hcolumn := h.1 _ (hpick.below i)
    rw [Element.prune] at hcolumn
    have hfirst : Sheds (unsupported (c.prune (pick.below i)).gone) (addColumn s total t c)
        (addColumn s total t (c.prune (pick.below i)).rest) := by
      unfold addColumn
      rw [Column.prune_frame, flex_congr (c.prune_width _) (c.prune_size _)]
      refine hcolumn.before fun tag => ?_
      cases tag with
      | none => exact Steady.pure t
      | some u => exact Steady.read fun width => .pure _
    rw [pruneColumns, addColumns, addColumns, unsupported_append]
    exact hfirst.bind fun u => ih h.2 (i + 1) u

omit hpick in
theorem totalWeight_prune (i : Nat) (cs : List Column) :
    totalWeight (pruneColumns pick i cs).rest = totalWeight cs := by
  refine totalWeight_congr ?_
  induction cs generalizing i with
  | nil => rw [pruneColumns]
  | cons c cs ih =>
    have hweight := weight_congr (c.prune_width (pick.below i)) (c.prune_size (pick.below i))
    rw [pruneColumns]
    dsimp only
    rw [List.map_cons, hweight, ih, List.map_cons]

/-! ## Actions -/

omit hpick in
/-- The button of an action does not depend on the card that the action shows. -/
theorem renderAction_showCard (hs : s.transformers = standardTransformers.get?) (frame : Frame)
    (title : Option String) (card card' : Option Card) :
    renderAction s (.action (.showCard frame title card)) =
      renderAction s (.action (.showCard frame title card')) := by
  have htransform (card : Option Card) (t : Tag) :
      s.transform (.action (.showCard frame title card)) t =
        linkCard (.action (.submit {} none .null)) t := by
    unfold Scene.transform
    rw [hs]
    rfl
  unfold renderAction asAction
  rw [htransform, htransform]
  rfl

theorem sheds_addAction (hs : s.IsOpen) {a : Action}
    (hcard : ∀ card, cardOf? a = some card → s.Sheds (.card card)) (strip : Strip) :
    Sheds (unsupported (a.prune pick).gone) (addAction s strip a)
      (addAction s strip (a.prune pick).rest) := by
  have halone {a : Action} (ha : cardOf? a = none) : Steady (addAction s strip a) := by
    refine (hs.action a).bind fun tag => ?_
    rw [ha]
    cases tag with
    | none => exact .pure strip
    | some button => exact .pure _
  cases a with
  | showCard frame title card =>
    rw [Action.prune]
    cases card with
    | none =>
      rw [pruneCard?]
      exact halone rfl
    | some card =>
      have hshown := hcard card rfl _ (hpick.below 0)
      rw [Element.prune] at hshown
      have hbutton : Steady (s.render (.action (.showCard frame title (some card)))) := hs.action _
      rw [pruneCard?]
      dsimp only
      unfold addAction
      rw [hs.showCard, hs.showCard,
        renderAction_showCard hs.transformers frame title (some (card.prune _).rest) (some card)]
      rw [hs.showCard] at hbutton
      -- where cards have actions the action has a button, so its card is rendered
      refine Sheds.bind_of (P := fun tag => tag.isSome = true) hbutton
        (fun source p tag q => givesTag_renderAction hs.active _ source p tag q) fun tag htag => ?_
      obtain ⟨button, rfl⟩ := Option.isSome_iff_exists.mp htag
      dsimp only
      exact hshown.before fun tag => Steady.pure _
  | _ =>
    simp only [Action.prune]
    exact halone rfl

theorem sheds_addActions (hs : s.IsOpen) {as : List Action}
    (h : ∀ a ∈ as, ∀ card, cardOf? a = some card → s.Sheds (.card card)) (i : Nat) (strip : Strip) :
    Sheds (unsupported (pruneActions pick i as).gone) (addActions s strip as)
      (addActions s strip (pruneActions pick i as).rest) := by
  induction as generalizing i strip with
  | nil =>
    rw [pruneActions]
    exact Steady.pure strip
  | cons a as ih =>
    rw [List.forall_mem_cons] at h
    rw [pruneActions]
    dsimp only
    split
    · next hpicked =>
      have hgone : addAction s strip a = do
          warn (.unsupported a.kind)
          return strip := by
        unfold addAction
        dsimp only
        rw [hs.stray _ (hpick _ _ hpicked).2, bind_assoc]
        rfl
      rw [addActions, hgone, bind_assoc]
      exact (ih h.2 (i + 1) strip).warned _
    · rw [addActions, addActions, unsupported_append]
      exact (sheds_addAction (hpick.below i) hs h.1 strip).bind fun strip => ih h.2 (i + 1) strip

/-! ## Nodes -/

theorem sheds_renderCard (hs : s.IsOpen) {c : Card}
    (hroom : c.actions.length ≤ s.host.actions.maxActions) (hbody : ∀ e ∈ c.body, s.Sheds e)
    (hcards : ∀ a ∈ c.actions, ∀ card, cardOf? a = some card → s.Sheds (.card card)) :
    Sheds (unsupported (c.prune pick).gone) (renderCard s c)
      (renderCard s (c.prune pick).rest) := by
  obtain ⟨frame, version, body, actions, fallback, image⟩ := c
  have hroom' := Nat.le_trans (length_pruneActions pick body.length actions) hroom
  rw [Card.prune]
  unfold renderCard
  rw [unsupported_append]
  refine (sheds_addElements hpick hs hbody 0 _).bind fun t => ?_
  unfold addStrip stripOf
  rw [if_pos hs.active, if_pos hs.active, List.take_of_length_le hroom,
    List.take_of_length_le hroom', bind_assoc, bind_assoc]
  exact (sheds_addActions hpick hs hcards _ _).before fun strip => Steady.pure _

theorem sheds_renderStack (hs : s.IsOpen) (kind : String) {items : List Element}
    (h : ∀ e ∈ items, s.Sheds e) (action : Option Action) :
    Sheds (unsupported (pruneElements pick 0 items).gone) (renderStack s kind items action)
      (renderStack s kind (pruneElements pick 0 items).rest action) := by
  unfold renderStack
  exact (sheds_addElements hpick hs h 0 _).before fun t =>
    (quiet_selectable hs.transformers action t).steady.bind fun t => .pure _

/-- **One element.** It is rendered the same without the nodes that are picked, if this is so for
the elements in it and for the cards that its actions show. -/
theorem sheds_renderNode (hs : s.IsOpen) {e : Element}
    (hroom : ∀ c, e = .card c → c.actions.length ≤ s.host.actions.maxActions)
    (hparts : ∀ e', .element e' ∈ (Node.element e).parts → s.Sheds e')
    (hcards : ∀ a, .action a ∈ (Node.element e).parts → ∀ card, cardOf? a = some card →
      s.Sheds (.card card)) :
    Sheds (unsupported (e.prune pick).gone) (renderNode s (.element e))
      (renderNode s (.element (e.prune pick).rest)) := by
  -- only groups lose parts, and a row keeps its total weight
  cases e with
  | card c =>
    rw [Element.prune]
    refine sheds_renderCard hpick hs (hroom c rfl) (fun e he => ?_) fun a ha => ?_
    · exact hparts e (List.mem_append_left _ (List.mem_map_of_mem he))
    · exact hcards a (List.mem_append_right _ (List.mem_map_of_mem ha))
  | container c =>
    obtain ⟨frame, items, action⟩ := c
    rw [Element.prune, Container.prune]
    exact sheds_renderStack hpick hs _ (fun e he => hparts e (List.mem_map_of_mem he)) action
  | column c =>
    obtain ⟨frame, items, width, size, action⟩ := c
    rw [Element.prune, Column.prune]
    exact sheds_renderStack hpick hs _ (fun e he => hparts e (List.mem_map_of_mem he)) action
  | columnSet c =>
    obtain ⟨frame, columns, action⟩ := c
    have hcolumns : ∀ c ∈ columns, s.Sheds (.column c) := fun c hc =>
      hparts (.column c) (List.mem_map_of_mem hc)
    rw [Element.prune, ColumnSet.prune]
    change Sheds _ (renderColumnSet s _) (renderColumnSet s _)
    unfold renderColumnSet
    rw [totalWeight_prune]
    refine (quiet_selectable hs.transformers action emptyRow).steady.sheds fun row => ?_
    exact (sheds_addColumns hpick hcolumns 0 _ row).before fun row => Steady.pure _
  | factSet f =>
    simp only [Element.prune]
    exact (Steady.mapM fun fact _ => (hs.text _).bind fun title => (hs.text _).bind fun value =>
      .pure _).bind fun rows => .pure _
  | imageSet images =>
    simp only [Element.prune]
    exact (Steady.mapM fun i _ => (hs.image _).bind fun tag => .pure _).bind fun tags => .pure _
  | image i =>
    simp only [Element.prune]
    exact (quiet_renderImage hs.transformers i).steady
  | choiceSet c =>
    simp only [Element.prune]
    exact (quiet_renderChoiceSet c).steady
  | toggle t =>
    simp only [Element.prune]
    exact (quiet_renderToggle t).steady
  | textBlock t =>
    simp only [Element.prune]
    exact ((Quiet.ofExcept _).map _).steady
  | unknown u =>
    simp only [Element.prune]
    exact (quiet_renderMisplaced hs.transformers _ u).steady
  | _ =>
    simp only [Element.prune]
    exact Steady.pure _

end

end

end Placard.Render
