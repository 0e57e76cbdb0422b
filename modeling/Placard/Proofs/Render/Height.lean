import Placard.Proofs.Document.Node
import Placard.Proofs.Render.Issue
import Placard.Proofs.Render.Standard
import Placard.Render.Session

/-!
# Depths do not show

A node is rendered with a depth that is no less than its height. For the standard renderers more
changes nothing (`renderWithin_eq`), since they only ever ask for lower nodes (`renderNode_congr`). So
rendering satisfies the equation without depths that one would write down for it (`render_eq`), and
what is said of rendered nodes can be proved along the document.
-/

namespace Placard.Render

open Document

/-! ## Lower nodes -/

/-- The card that an action shows is a part of it. -/
theorem mem_parts_of_cardOf {a : Action} {card : Card} (h : cardOf? a = some card) :
    Node.element (.card card) ∈ (Node.action a).parts := by
  cases a with
  | showCard frame title shown =>
    obtain rfl : shown = some card := h
    exact List.mem_singleton.mpr rfl
  | _ => cases h

/-- The card that an action of a node shows lies two steps below the node. -/
theorem lt_of_cardOf {n : Node} {a : Action} {card : Card} (ha : Node.action a ∈ n.parts)
    (h : cardOf? a = some card) : (Node.element (.card card)).height < n.height :=
  Nat.lt_trans (Node.lt_of_mem_parts (mem_parts_of_cardOf h)) (Node.lt_of_mem_parts ha)

/-- The texts that facts are rendered as are no parts of the list of facts, but lower. -/
theorem factText_lt (layout : Host.FactText) (text : String) (facts : FactSet) :
    (Node.element (.textBlock (factText layout text))).height <
      (Node.element (.factSet facts)).height := by
  rw [Node.height, Element.height, Node.height, Element.height]
  exact Nat.lt_succ_self 1

/-- The size of an image is no part of its height. -/
theorem height_inSet (size : ImageSize) (i : Image) : (inSet size i).height = i.height := by
  unfold inSet
  split
  · rfl
  · cases i
    rw [Image.height, Image.height]

theorem inSet_lt {images : ImageSet} {i : Image} (h : i ∈ images.images) (size : ImageSize) :
    (Node.element (.image (inSet size i))).height < (Node.element (.imageSet images)).height := by
  have hpart : Node.element (.image i) ∈ (Node.element (.imageSet images)).parts :=
    List.mem_map_of_mem (f := fun i => Node.element (.image i)) h
  have hlower := Node.lt_of_mem_parts hpart
  rw [Node.height, Element.height] at hlower ⊢
  rwa [height_inSet]

/-! ## Renderers ask for lower nodes only -/

section

variable {s : Scene} {r : Node → Render (Option Tag)} {q : Node → Tag → Render Tag}

theorem addElements_congr {es : List Element}
    (h : ∀ e ∈ es, s.render (.element e) = r (.element e)) (t : Tag) :
    addElements s t es = addElements { s with render := r, treat := q } t es := by
  induction es generalizing t with
  | nil => rfl
  | cons e es ih =>
    rw [List.forall_mem_cons] at h
    have hfirst : addElement s t e = addElement { s with render := r, treat := q } t e := by
      unfold addElement
      rw [h.1]
    rw [addElements, addElements, hfirst]
    exact bind_congr fun u => ih h.2 u

theorem addActions_congr {as : List Action}
    (h : ∀ a ∈ as, s.render (.action a) = r (.action a) ∧
      ∀ card, cardOf? a = some card → s.render (.element (.card card)) = r (.element (.card card)))
    (strip : Strip) : addActions s strip as = addActions { s with render := r, treat := q } strip as := by
  induction as generalizing strip with
  | nil => rfl
  | cons a as ih =>
    rw [List.forall_mem_cons] at h
    have hfirst : addAction s strip a = addAction { s with render := r, treat := q } strip a := by
      unfold addAction
      rw [h.1.1]
      refine bind_congr fun button => ?_
      cases button with
      | none => rfl
      | some button =>
        dsimp only
        split
        · next card hcard => rw [h.1.2 card hcard]
        · rfl
    rw [addActions, addActions, hfirst]
    exact bind_congr fun strip => ih h.2 strip

theorem addColumns_congr {cs : List Column}
    (h : ∀ c ∈ cs, s.render (.element (.column c)) = r (.element (.column c)))
    (total : Number.Double) (t : Tag) :
    addColumns s total t cs = addColumns { s with render := r, treat := q } total t cs := by
  induction cs generalizing t with
  | nil => rfl
  | cons c cs ih =>
    rw [List.forall_mem_cons] at h
    have hfirst : addColumn s total t c = addColumn { s with render := r, treat := q } total t c := by
      unfold addColumn
      rw [h.1]
    rw [addColumns, addColumns, hfirst]
    exact bind_congr fun u => ih h.2 u

theorem mapM_congr_mem {α β : Type} {f g : α → Render β} {as : List α} (h : ∀ a ∈ as, f a = g a) :
    as.mapM f = as.mapM g := by
  induction as with
  | nil => rfl
  | cons a as ih =>
    rw [List.forall_mem_cons] at h
    rw [List.mapM_cons, List.mapM_cons, h.1, ih h.2]

theorem renderCard_congr {c : Card}
    (hbody : ∀ e ∈ c.body, s.render (.element e) = r (.element e))
    (hactions : ∀ a ∈ c.actions, s.render (.action a) = r (.action a) ∧
      ∀ card, cardOf? a = some card → s.render (.element (.card card)) = r (.element (.card card))) :
    renderCard s c = renderCard { s with render := r, treat := q } c := by
  have hstrip : stripOf s c.actions = stripOf { s with render := r, treat := q } c.actions :=
    addActions_congr (fun a ha => hactions a (List.mem_of_mem_take ha)) _
  unfold renderCard addStrip
  rw [addElements_congr hbody, hstrip]

theorem renderFactSet_congr {facts : FactSet}
    (h : ∀ layout text, s.render (.element (.textBlock (factText layout text))) =
      r (.element (.textBlock (factText layout text)))) :
    renderFactSet s facts = renderFactSet { s with render := r, treat := q } facts := by
  have hrow (fact : Fact) : factRow s fact = factRow { s with render := r, treat := q } fact := by
    unfold factRow
    dsimp only
    rw [h]
    refine bind_congr fun title => ?_
    rw [h]
  unfold renderFactSet
  rw [mapM_congr_mem fun fact _ => hrow fact]

theorem renderImageSet_congr {images : ImageSet}
    (h : ∀ i ∈ images.images, s.render (.element (.image (inSet images.imageSize i))) =
      r (.element (.image (inSet images.imageSize i)))) :
    renderImageSet s images = renderImageSet { s with render := r, treat := q } images := by
  have hmember (i : Image) (hi : i ∈ images.images) : setMember s images.imageSize i =
      setMember { s with render := r, treat := q } images.imageSize i := by
    unfold setMember
    rw [h i hi]
  unfold renderImageSet
  rw [mapM_congr_mem hmember]

section

variable (hs : s.transformers = standardTransformers.get?) (r) (q)

include hs

theorem asAction_congr (action : Node) (t : Tag) :
    asAction s action t = asAction { s with render := r, treat := q } action t :=
  transform_congr hs r q action _

theorem selectable_congr (action : Option Action) (t : Tag) :
    selectable s action t = selectable { s with render := r, treat := q } action t := by
  cases action with
  | none => rfl
  | some a =>
    unfold selectable
    dsimp only
    rw [asAction_congr r q hs]

theorem renderAction_congr (action : Node) :
    renderAction s action = renderAction { s with render := r, treat := q } action := by
  unfold renderAction
  rw [asAction_congr r q hs]

/-- All kinds but those of actions are rendered from members alone. -/
theorem renderMisplaced_congr (node : Node) (u : Unknown) :
    renderMisplaced s node u = renderMisplaced { s with render := r, treat := q } node u := by
  unfold renderMisplaced
  rw [renderAction_congr r q hs]
  dsimp only
  split <;> rfl

theorem renderStack_congr {items : List Element}
    (h : ∀ e ∈ items, s.render (.element e) = r (.element e)) (kind : String)
    (action : Option Action) :
    renderStack s kind items action =
      renderStack { s with render := r, treat := q } kind items action := by
  unfold renderStack
  rw [addElements_congr h]
  refine bind_congr fun t => ?_
  rw [selectable_congr r q hs]

theorem renderColumnSet_congr {c : ColumnSet}
    (h : ∀ d ∈ c.columns, s.render (.element (.column d)) = r (.element (.column d))) :
    renderColumnSet s c = renderColumnSet { s with render := r, treat := q } c := by
  unfold renderColumnSet
  rw [selectable_congr r q hs]
  refine bind_congr fun row => ?_
  rw [addColumns_congr h]

theorem renderImage_congr (i : Image) :
    renderImage s i = renderImage { s with render := r, treat := q } i := by
  unfold renderImage
  dsimp only
  rw [selectable_congr r q hs]

end

/-- **A renderer asks for lower nodes only.** What is given for other nodes does not matter. -/
theorem renderNode_congr (hs : s.transformers = standardTransformers.get?) {node : Node}
    (h : ∀ n, n.height < node.height → s.render n = r n) :
    renderNode s node = renderNode { s with render := r, treat := q } node := by
  have hparts : ∀ n ∈ node.parts, s.render n = r n := fun n hn => h n (Node.lt_of_mem_parts hn)
  cases node with
  | element e =>
    cases e with
    | card c =>
      refine renderCard_congr (fun e he => ?_) fun a ha => ?_
      · exact hparts _ (List.mem_append_left _ (List.mem_map_of_mem he))
      · have hpart : Node.action a ∈ (Node.element (.card c)).parts :=
          List.mem_append_right _ (List.mem_map_of_mem ha)
        exact ⟨hparts _ hpart, fun card hcard => h _ (lt_of_cardOf hpart hcard)⟩
    | container c =>
      exact renderStack_congr r q hs (fun e he => hparts _ (List.mem_map_of_mem he)) _ _
    | column c =>
      exact renderStack_congr r q hs (fun e he => hparts _ (List.mem_map_of_mem he)) _ _
    | columnSet c =>
      exact renderColumnSet_congr r q hs fun d hd => hparts _ (List.mem_map_of_mem
        (f := fun d => Node.element (.column d)) hd)
    | factSet f => exact renderFactSet_congr fun layout text => h _ (factText_lt layout text f)
    | image i => exact renderImage_congr r q hs i
    | imageSet i => exact renderImageSet_congr fun image himage => h _ (inSet_lt himage _)
    | unknown u => exact renderMisplaced_congr r q hs _ u
    | _ => rfl
  | action a =>
    cases a with
    | unknown u => exact renderMisplaced_congr r q hs _ u
    | _ => exact renderAction_congr r q hs _

end

/-! ## Rendering without depths -/

/-- Nodes of known kinds have renderers. -/
theorem kind_mem_renderedKinds {n : Node} (h : n.isUnknown = false) : n.kind ∈ renderedKinds := by
  have hkinds : ∀ kind ∈ elementKinds ++ actionKinds, kind ∈ renderedKinds := by decide
  refine hkinds n.kind ?_
  cases n with
  | element e =>
    cases e with
    | unknown u => cases h
    | _ => simp [Node.kind, Element.kind, elementKinds]
  | action a =>
    cases a with
    | unknown u => cases h
    | _ => simp [Node.kind, Action.kind, actionKinds]

section

variable {stage : Stage} (hstage : stage.renderers = standardRenderers)
  (htransformers : stage.transformers = standardTransformers)

include hstage htransformers

/-- Of two depths at which the same is given for all lower nodes, it is the same for the node. -/
theorem renderWithin_succ_congr {depth depth' : Nat} {node : Node}
    (h : ∀ n, n.height < node.height → stage.renderWithin depth n = stage.renderWithin depth' n) :
    stage.renderWithin (depth + 1) node = stage.renderWithin (depth' + 1) node := by
  rw [Stage.renderWithin, Stage.renderWithin]
  split
  · next renderer hget =>
    rw [hstage] at hget
    rw [standardRenderers_get hget]
    exact renderNode_congr (scene_transformers htransformers _) h
  · rfl

/-- All depths that are no less than the height of a node are alike for it. -/
theorem renderWithin_eq_renderWithin (node : Node) {depth depth' : Nat} (h : node.height ≤ depth)
    (h' : node.height ≤ depth') : stage.renderWithin depth node = stage.renderWithin depth' node := by
  induction depth generalizing node depth' with
  | zero => exact absurd h (Nat.not_le.mpr node.height_pos)
  | succ depth ih =>
    cases depth' with
    | zero => exact absurd h' (Nat.not_le.mpr node.height_pos)
    | succ depth' =>
      exact renderWithin_succ_congr hstage htransformers fun n hn => ih n (by omega) (by omega)

/-- More depth than the height of the node changes nothing. -/
theorem renderWithin_eq (node : Node) {depth : Nat} (h : node.height ≤ depth) :
    stage.renderWithin depth node = stage.render node :=
  renderWithin_eq_renderWithin hstage htransformers node h (Nat.le_add_right _ _)

/-- **Rendering, without depths.** A node with a renderer is rendered with its parts rendered in
the same way; a node without one is left out with a warning. -/
theorem render_eq (node : Node) : stage.render node =
    if node.kind ∈ renderedKinds then renderNode (stage.scene stage.render) node
    else do
      warn (.unsupported node.kind)
      return none := by
  obtain ⟨k, hk⟩ : ∃ k, node.height + stage.reserve = k + 1 :=
    Nat.exists_eq_add_one_of_ne_zero (by have := node.height_pos; omega)
  rw [Stage.render, hk, Stage.renderWithin, hstage, standardRenderers_get_eq]
  by_cases hkind : node.kind ∈ renderedKinds
  · rw [if_pos hkind, if_pos hkind]
    refine renderNode_congr (s := stage.scene (stage.renderWithin k))
      (scene_transformers htransformers _) fun n hn => ?_
    exact renderWithin_eq hstage htransformers n (by omega)
  · rw [if_neg hkind, if_neg hkind]

end

end Placard.Render
