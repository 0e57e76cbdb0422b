import Placard.Proofs.Render.ShedNode

/-!
# Nodes without renderers leave one warning each

By induction on heights, a card is rendered to the same tree and with the same ids when nodes
without renderers are taken out of it. The warnings that are gone are those for these nodes, one for
each and in the order in which they are come upon.
-/

namespace Placard.Render

open Document

section

variable {stage : Stage} (hrenderers : stage.renderers = standardRenderers)
  (htransformers : stage.transformers = standardTransformers)
  (hactive : stage.host.supportsInteractivity = true)

include hrenderers htransformers hactive

theorem isOpen_scene : (stage.scene stage.render).IsOpen where
  transformers := scene_transformers htransformers _
  active := hactive
  stray n hn := by
    change stage.render n = _
    rw [render_eq hrenderers htransformers, if_neg hn]
  text t := by
    change Steady (stage.render _)
    rw [render_eq hrenderers htransformers, if_pos (kind_mem_renderedKinds rfl)]
    exact ((Quiet.ofExcept _).map _).steady
  image i := by
    change Steady (stage.render _)
    rw [render_eq hrenderers htransformers, if_pos (kind_mem_renderedKinds rfl)]
    exact (quiet_renderImage (scene_transformers htransformers stage.render) i).steady
  action a := by
    change Steady (stage.render _)
    rw [render_eq hrenderers htransformers]
    split
    · cases a with
      | unknown u =>
        exact (quiet_renderMisplaced (scene_transformers htransformers stage.render) _ u).steady
      | _ => exact (quiet_renderAction (scene_transformers htransformers stage.render) _).steady
    · exact (Steady.warn _).bind fun _ => .pure none
  showCard frame title card := by
    change stage.render _ = _
    rw [render_eq hrenderers htransformers, if_pos (kind_mem_renderedKinds rfl)]
    rfl

/-- **Every element.** It is rendered the same without the nodes that are picked, if there is room
for the actions of all cards in it. -/
theorem sheds_render (e : Element)
    (hroom : ∀ card, .element (.card card) ∈ (Node.element e).nodes →
      card.actions.length ≤ stage.host.actions.maxActions) :
    (stage.scene stage.render).Sheds e := by
  have hopen := isOpen_scene hrenderers htransformers hactive
  have hnode (n : Node) : ∀ e, n = .element e →
      (∀ card, .element (.card card) ∈ n.nodes →
        card.actions.length ≤ stage.host.actions.maxActions) →
      (stage.scene stage.render).Sheds e := by
    induction n using Node.heightInduction with
    | step n ih =>
      rintro e rfl hroom pick hpick
      have hkind : (Node.element (e.prune pick).rest).kind = (Node.element e).kind :=
        e.prune_kind pick
      change Sheds _ (stage.render _) (stage.render _)
      rw [render_eq hrenderers htransformers, render_eq hrenderers htransformers, hkind]
      split
      · refine sheds_renderNode hpick hopen ?_ ?_ ?_
        · rintro c rfl
          exact hroom c (Node.mem_nodes_self _)
        · intro e' he'
          exact ih _ (Node.lt_of_mem_parts he') e' rfl fun card hcard =>
            hroom card (Node.nodes_subset_of_mem_parts he' hcard)
        · intro a ha card hcard
          have hpart := mem_parts_of_cardOf hcard
          refine ih _ (lt_of_cardOf ha hcard) _ rfl fun card' hcard' => hroom card' ?_
          exact Node.nodes_subset_of_mem_parts ha (Node.nodes_subset_of_mem_parts hpart hcard')
      · next hstray =>
        -- an element without a renderer is of unknown kind and has no parts
        cases e with
        | unknown u =>
          simp only [Element.prune]
          exact (Steady.warn _).bind fun _ => .pure none
        | _ => exact absurd (kind_mem_renderedKinds rfl) hstray
  exact hnode (.element e) e rfl hroom

theorem sheds_cardPass {c : Card}
    (hroom : ∀ card, .element (.card card) ∈ (Node.element (.card c)).nodes →
      card.actions.length ≤ stage.host.actions.maxActions) {pick : Pick} (hpick : OnlyStrays pick) :
    Sheds (unsupported (c.prune pick).gone) (cardPass stage c)
      (cardPass stage (c.prune pick).rest) := by
  have hcard := sheds_render hrenderers htransformers hactive (.card c) hroom pick hpick
  simp only [Element.prune] at hcard
  have hannounce : Steady (announce c.version) := by
    unfold announce
    split
    · exact .warn _
    · exact .pure _
  rw [cardPass_eq, cardPass_eq, Card.prune_version]
  refine hannounce.sheds fun _ => hcard.before fun tag => ?_
  cases tag with
  | none => exact (Quiet.ofExcept (.error _)).steady
  | some t => exact Steady.pure t

end

/-- **One warning each.** Let no card have more actions than the host has room for, the shown cards
in it included, and let it be rendered. With some of the nodes that have no renderer taken out,
whichever they are, it is rendered to the same tree and with the same ids. The warnings are those of
the whole card but for one for each node that is gone, which stand among the others in the order of
the document. -/
theorem render_prune {s : Session} (hrenderers : s.renderers = standardRenderers)
    (htransformers : s.transformers = standardTransformers)
    (hactive : s.host.supportsInteractivity = true) {source : IdSource} {c : Card}
    (hroom : ∀ card, .element (.card card) ∈ (Node.element (.card c)).nodes →
      card.actions.length ≤ s.host.actions.maxActions)
    {pick : Pick} (hpick : OnlyStrays pick) {rendered : Rendered}
    (h : s.render source (some c) = .ok rendered) :
    ∃ rendered', s.render source (some (c.prune pick).rest) = .ok rendered' ∧
      rendered'.tag = rendered.tag ∧
      s.issuedIds source (c.prune pick).rest = s.issuedIds source c ∧
      Interleaved (unsupported (c.prune pick).gone) rendered'.warnings rendered.warnings := by
  obtain ⟨pass, hrun, hwarnings⟩ := render_eq_ok h
  have hsheds : Sheds (unsupported (c.prune pick).gone) (cardPass s.stage c)
      (cardPass s.stage (c.prune pick).rest) :=
    sheds_cardPass hrenderers htransformers hactive hroom hpick
  obtain ⟨pass', ws, vs, hrun', hids, hws, hvs, hgone⟩ :=
    hsheds source {} _ _ hrun {} ⟨rfl, rfl⟩
  refine ⟨{ tag := rendered.tag, warnings := pass'.warnings }, ?_, rfl, ?_, ?_⟩
  · unfold Session.render
    dsimp only
    rw [hrun']
  · unfold Session.issuedIds
    rw [hrun, hrun', hids.issued]
  · rw [hwarnings, hws, hvs]
    exact hgone

/-- All nodes without renderers. -/
def strays : Pick := fun _ n =>
  n.isUnknown && !renderedKinds.contains n.kind

theorem onlyStrays_strays : OnlyStrays strays := by
  intro place n h
  simpa [strays] using h

/-- A card without a version, with a chart before a toggle, a bell before an action, and a map
behind the toggle of the card that the action shows. -/
def mapCard : Card where
  frame := {}
  version := none
  body := [.unknown { kind := "Chart" }, .toggle {}]
  actions := [.unknown { kind := "Action.Bell" }, .showCard {} none (some {
    frame := {}, version := none, body := [.toggle {}, .unknown { kind := "Map" }], actions := []
    fallbackText := none, backgroundImage := none })]
  fallbackText := none
  backgroundImage := none

/-- The chart, the bell and the map are gone, and with them all warnings but the one on the
version. -/
theorem render_prune_map :
    (∀ card, .element (.card card) ∈ (Node.element (.card mapCard)).nodes →
      card.actions.length ≤ ({} : Session).host.actions.maxActions) ∧
    OnlyStrays strays ∧ (mapCard.prune strays).gone = ["Chart", "Action.Bell", "Map"] ∧
    ∃ rendered rendered',
      ({} : Session).render (listedIds ["a", "b", "c"]) (some mapCard) = .ok rendered ∧
      ({} : Session).render (listedIds ["a", "b", "c"]) (some (mapCard.prune strays).rest) =
        .ok rendered' ∧
      rendered'.tag = rendered.tag ∧ rendered'.warnings = [.noVersion] ∧
      Interleaved (unsupported (mapCard.prune strays).gone) rendered'.warnings
        rendered.warnings := by
  have hroom : ∀ card, .element (.card card) ∈ (Node.element (.card mapCard)).nodes →
      card.actions.length ≤ ({} : Session).host.actions.maxActions := by
    simp [Node.nodes_eq, Node.parts, mapCard]
  obtain ⟨rendered', hrendered', htag, -, hgone⟩ :=
    render_prune (s := {}) rfl rfl rfl hroom onlyStrays_strays
      (show ({} : Session).render (listedIds ["a", "b", "c"]) (some mapCard) = .ok _ from rfl)
  have hwarnings : ∀ r, ({} : Session).render (listedIds ["a", "b", "c"])
      (some (mapCard.prune strays).rest) = .ok r → r.warnings = [.noVersion] := by
    intro r hr
    obtain rfl := Except.ok.inj hr
    rfl
  exact ⟨hroom, onlyStrays_strays, rfl, _, rendered', rfl, hrendered', htag,
    hwarnings rendered' hrendered', hgone⟩

end Placard.Render
