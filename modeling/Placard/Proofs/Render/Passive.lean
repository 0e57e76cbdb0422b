import Placard.Proofs.Document.Passive
import Placard.Proofs.Render.Height
import Placard.Proofs.Render.Renaming
import Placard.Proofs.Render.Share

/-!
# Hosts without interactivity ignore actions

Where cards have no actions, a renderer asks neither for the actions of a card nor for what a node
is selected by. So a card is rendered as the same card without any (`render_passive_element`).
-/

namespace Placard.Render

open Document

/-! ## Renderers -/

section

variable {s : Scene} (hoff : s.host.supportsInteractivity = false)

include hoff

theorem selectable_off (action : Option Action) (t : Tag) : selectable s action t = pure t := by
  unfold selectable
  rw [hoff]
  cases action <;> rfl

theorem addStrip_off (t : Tag) (as : List Action) : addStrip s t as = pure t := by
  unfold addStrip
  rw [hoff]
  rfl

omit hoff

theorem addElements_passive {es : List Element}
    (h : ∀ e ∈ es, s.render (.element e.passive) = s.render (.element e)) (t : Tag) :
    addElements s t (es.map Element.passive) = addElements s t es := by
  induction es generalizing t with
  | nil => rfl
  | cons e es ih =>
    rw [List.forall_mem_cons] at h
    have hfirst : addElement s t e.passive = addElement s t e := by
      unfold addElement
      rw [h.1, Element.passive_frame]
    rw [List.map_cons, addElements, addElements, hfirst]
    exact bind_congr fun u => ih h.2 u

theorem totalWeight_passive (cs : List Column) :
    totalWeight (cs.map Column.passive) = totalWeight cs := by
  refine totalWeight_congr ?_
  rw [List.map_map]
  exact List.map_congr_left fun c _ => weight_congr c.passive_width c.passive_size

theorem addColumns_passive {cs : List Column}
    (h : ∀ c ∈ cs, s.render (.element (.column c.passive)) = s.render (.element (.column c)))
    (total : Number.Double) (t : Tag) :
    addColumns s total t (cs.map Column.passive) = addColumns s total t cs := by
  induction cs generalizing t with
  | nil => rfl
  | cons c cs ih =>
    rw [List.forall_mem_cons] at h
    have hfirst : addColumn s total t c.passive = addColumn s total t c := by
      unfold addColumn
      rw [h.1, flex_congr c.passive_width c.passive_size, Column.passive_frame]
    rw [List.map_cons, addColumns, addColumns, hfirst]
    exact bind_congr fun u => ih h.2 u

theorem inSet_passive (size : ImageSize) (i : Image) :
    inSet size i.passive = (inSet size i).passive := by
  unfold inSet
  split <;> rfl

include hoff

theorem renderImage_passive (i : Image) : renderImage s i.passive = renderImage s i := by
  unfold renderImage
  dsimp only
  rw [selectable_off hoff, selectable_off hoff]
  rfl

theorem renderStack_passive {items : List Element}
    (h : ∀ e ∈ items, s.render (.element e.passive) = s.render (.element e)) (kind : String)
    (action action' : Option Action) :
    renderStack s kind (items.map Element.passive) action' = renderStack s kind items action := by
  unfold renderStack
  rw [addElements_passive h]
  refine bind_congr fun tag => ?_
  rw [selectable_off hoff, selectable_off hoff]

/-- A renderer makes the same of an element without its actions, if this is so for the parts of the
element and for images. -/
theorem renderNode_passive {e : Element}
    (hparts : ∀ e', .element e' ∈ (Node.element e).parts →
      s.render (.element e'.passive) = s.render (.element e'))
    (himage : ∀ i : Image, s.render (.element (.image i.passive)) = s.render (.element (.image i))) :
    renderNode s (.element e.passive) = renderNode s (.element e) := by
  -- the host leaves out what the passive element lacks
  cases e with
  | card c =>
    have hbody : ∀ e ∈ c.body, s.render (.element e.passive) = s.render (.element e) :=
      fun e he => hparts e (List.mem_append_left _ (List.mem_map_of_mem he))
    rw [Element.passive]
    change renderCard s c.passive = renderCard s c
    unfold renderCard
    rw [Card.passive_body, Card.passive_backgroundImage, addElements_passive hbody]
    refine bind_congr fun tag => ?_
    rw [addStrip_off hoff, addStrip_off hoff]
  | container c =>
    rw [Element.passive]
    change renderStack s _ c.passive.items _ = renderStack s _ c.items _
    rw [Container.passive_items]
    exact renderStack_passive hoff (fun e he => hparts e (List.mem_map_of_mem he)) _ _ _
  | column c =>
    rw [Element.passive]
    change renderStack s _ c.passive.items _ = renderStack s _ c.items _
    rw [Column.passive_items]
    exact renderStack_passive hoff (fun e he => hparts e (List.mem_map_of_mem he)) _ _ _
  | columnSet c =>
    have hcolumns : ∀ c' ∈ c.columns,
        s.render (.element (.column c'.passive)) = s.render (.element (.column c')) := by
      intro c' hc'
      have hcolumn := hparts (.column c') (List.mem_map_of_mem hc')
      rwa [Element.passive] at hcolumn
    rw [Element.passive]
    change renderColumnSet s c.passive = renderColumnSet s c
    unfold renderColumnSet
    rw [ColumnSet.passive_columns, totalWeight_passive, selectable_off hoff, selectable_off hoff]
    refine bind_congr fun row => ?_
    rw [addColumns_passive hcolumns]
  | image i =>
    rw [Element.passive]
    exact renderImage_passive hoff i
  | imageSet i =>
    rw [Element.passive]
    change renderImageSet s i.passive = renderImageSet s i
    have hmember (image : Image) :
        setMember s i.imageSize image.passive = setMember s i.imageSize image := by
      unfold setMember
      rw [inSet_passive, himage]
    unfold renderImageSet ImageSet.passive
    rw [List.mapM_map]
    simp only [Function.comp_def, hmember]
  | _ => rw [Element.passive] <;> simp

end

/-! ## Nodes -/

section

variable {stage : Stage} (hstage : stage.renderers = standardRenderers)
  (htransformers : stage.transformers = standardTransformers)

include hstage htransformers

/-- An element without its actions is rendered by the renderer of the element. -/
theorem render_passive_of_renderNode {e : Element}
    (h : renderNode (stage.scene stage.render) (.element e.passive) =
      renderNode (stage.scene stage.render) (.element e)) :
    stage.render (.element e.passive) = stage.render (.element e) := by
  have hkind : (Node.element e.passive).kind = (Node.element e).kind := Element.passive_kind e
  rw [render_eq hstage htransformers, render_eq hstage htransformers, hkind, h]

variable (hoff : stage.host.supportsInteractivity = false)

include hoff

/-- **Actions are not looked at.** An element is rendered as the same element without actions. -/
theorem render_passive_element (e : Element) :
    stage.render (.element e.passive) = stage.render (.element e) := by
  have himage (i : Image) :
      stage.render (.element (.image i.passive)) = stage.render (.element (.image i)) := by
    have h := render_passive_of_renderNode hstage htransformers (e := .image i)
    rw [Element.passive] at h
    exact h (renderImage_passive hoff i)
  have hnode (n : Node) : ∀ e, n = .element e →
      stage.render (.element e.passive) = stage.render (.element e) := by
    induction n using Node.partsInduction with
    | step n ih =>
      rintro e rfl
      refine render_passive_of_renderNode hstage htransformers (renderNode_passive hoff ?_ himage)
      exact fun e' he' => ih (.element e') he' e' rfl
  exact hnode (.element e) e rfl

/-- The pass of a card is the pass of the card without actions. -/
theorem cardPass_passive (c : Card) : cardPass stage c.passive = cardPass stage c := by
  have hcard := render_passive_element hstage htransformers hoff (.card c)
  rw [Element.passive] at hcard
  unfold cardPass
  rw [Card.passive_version, hcard]
  rfl

end

end Placard.Render
