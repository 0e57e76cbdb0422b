import Placard.Proofs.Render.Height

/-!
# What shows

Where cards have actions, a node shows if there is a renderer for its kind, and is left out with a
warning if there is none (`render_isSome_iff`). What the node holds makes no difference: every
renderer gives a tag, unless it fails.
-/

namespace Placard.Render

open Document

/-- The step gives a tag whenever it succeeds. -/
def GivesTag (m : Render (Option Tag)) : Prop :=
  ∀ source p tag q, m source p = (.ok tag, q) → tag.isSome = true

namespace GivesTag

variable {α : Type}

theorem pure (t : Tag) : GivesTag (pure (some t)) := by
  intro source p tag q h
  rw [run_pure] at h
  obtain ⟨htag, -⟩ := Prod.mk.inj h
  obtain rfl := Except.ok.inj htag
  rfl

theorem bind {m : Render α} {f : α → Render (Option Tag)} (h : ∀ a, GivesTag (f a)) :
    GivesTag (m >>= f) := by
  intro source p tag r hrun
  match hm : m source p with
  | (.ok a, q) =>
    rw [run_bind_ok hm] at hrun
    exact h a source q tag r hrun
  | (.error e, q) =>
    rw [run_bind_error hm] at hrun
    cases (Prod.mk.inj hrun).1

theorem map (m : Render Tag) : GivesTag (some <$> m) := by
  rw [map_eq_pure_bind]
  exact bind pure

end GivesTag

section

variable {s : Scene} (hactive : s.host.supportsInteractivity = true)

include hactive

theorem givesTag_renderAction (action : Node) : GivesTag (renderAction s action) := by
  unfold renderAction
  rw [if_pos hactive]
  exact .bind .pure

theorem givesTag_renderMisplaced (node : Node) (u : Unknown) :
    GivesTag (renderMisplaced s node u) := by
  unfold renderMisplaced
  dsimp only
  split
  case h_15 => exact givesTag_renderAction hactive node
  all_goals exact .map _

/-- **Every renderer gives a tag.** -/
theorem givesTag_renderNode (node : Node) : GivesTag (renderNode s node) := by
  cases node with
  | element e =>
    cases e with
    | card c => exact .bind fun _ => .bind .pure
    | container c => exact .bind fun _ => .bind .pure
    | column c => exact .bind fun _ => .bind .pure
    | columnSet c => exact .bind fun _ => .bind .pure
    | factSet f => exact .bind fun _ => .pure _
    | image i => exact .bind .pure
    | imageSet i => exact .bind fun _ => .pure _
    | textBlock t => exact .map _
    | choiceSet c =>
      change GivesTag (renderChoiceSet s c)
      unfold renderChoiceSet
      split
      · exact .bind .pure
      · split
        · exact .pure _
        · exact .bind .pure
    | toggle t => exact .bind fun _ => .pure _
    | unknown u => exact givesTag_renderMisplaced hactive _ u
    | _ => exact .pure _
  | action a =>
    cases a with
    | unknown u => exact givesTag_renderMisplaced hactive _ u
    | _ => exact givesTag_renderAction hactive _

end

/-- A node shows just if there is a renderer for its kind. -/
theorem render_isSome_iff {stage : Stage} (hstage : stage.renderers = standardRenderers)
    (htransformers : stage.transformers = standardTransformers)
    (hactive : stage.host.supportsInteractivity = true) {node : Node} {source : IdSource}
    {p q : Pass} {tag : Option Tag} (h : stage.render node source p = (.ok tag, q)) :
    tag.isSome = true ↔ node.kind ∈ renderedKinds := by
  rw [render_eq hstage htransformers] at h
  by_cases hkind : node.kind ∈ renderedKinds
  · rw [if_pos hkind] at h
    have hsome := givesTag_renderNode (s := stage.scene stage.render) hactive node source p tag q h
    exact ⟨fun _ => hkind, fun _ => hsome⟩
  · rw [if_neg hkind, run_bind_ok (run_warn _ _ _), run_pure] at h
    obtain ⟨htag, -⟩ := Prod.mk.inj h
    obtain rfl := Except.ok.inj htag
    exact ⟨fun hsome => absurd hsome (by decide), fun h => absurd h hkind⟩

end Placard.Render
