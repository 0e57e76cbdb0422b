import Placard.Proofs.Render.CardPass
import Placard.Proofs.Render.Presence
import Placard.Proofs.Render.Quiet
import Placard.Proofs.Tag.Tree

/-!
# What becomes of unknown nodes

An unknown node of a list is left out, with one warning, if there is no renderer for its kind. If its
kind is known in the other family there is a renderer: then the node is rendered from its members,
without a warning, and that may fail. An unknown action that an element is selected by is never
warned of: it makes the element look selectable, as any action does.

So the warnings of a rendered card, but for the one on its version, are one for each node without a
renderer that is come upon (`strayKinds`).
-/

namespace Placard.Render

open Tag Data Document

/-! ## Nodes without renderers -/

/-- The nodes that are come upon in a node, in the order in which they are. The card that an action
shows is rendered right after its button. -/
def metParts (host : Host.Config) : Node → List Node
  | .element (.card c) => c.body.map .element ++
    (c.actions.take host.actions.maxActions).flatMap fun a =>
      .action a :: (cardOf? a).toList.map fun card => .element (.card card)
  | .element (.container c) => c.items.map .element
  | .element (.column c) => c.items.map .element
  | .element (.columnSet s) => s.columns.map fun c => .element (.column c)
  | _ => []

theorem lt_of_mem_metParts {host : Host.Config} {n m : Node} (h : m ∈ metParts host n) :
    m.height < n.height := by
  cases n with
  | element e =>
    cases e with
    | card c =>
      rcases List.mem_append.mp h with h | h
      · exact Node.lt_of_mem_parts (List.mem_append_left _ h)
      · obtain ⟨a, ha, h⟩ := List.mem_flatMap.mp h
        have hpart : Node.action a ∈ (Node.element (.card c)).parts :=
          List.mem_append_right _ (List.mem_map_of_mem (List.mem_of_mem_take ha))
        rcases List.mem_cons.mp h with rfl | h
        · exact Node.lt_of_mem_parts hpart
        · obtain ⟨card, hcard, rfl⟩ := List.mem_map.mp h
          exact lt_of_cardOf hpart (Option.mem_toList.mp hcard)
    | container c => exact Node.lt_of_mem_parts h
    | column c => exact Node.lt_of_mem_parts h
    | columnSet s => exact Node.lt_of_mem_parts h
    | _ => cases h
  | action a => cases h

/-- The kinds of the nodes without renderers that are come upon when a node is rendered. -/
def strayKinds (host : Host.Config) (n : Node) : List String :=
  if n.kind ∈ renderedKinds then
    (metParts host n).attach.flatMap fun m => strayKinds host m.1
  else [n.kind]
termination_by n.height
decreasing_by exact lt_of_mem_metParts m.2

theorem strayKinds_of_mem {host : Host.Config} {n : Node} (h : n.kind ∈ renderedKinds) :
    strayKinds host n = (metParts host n).flatMap (strayKinds host) := by
  rw [strayKinds, if_pos h, List.flatMap_subtype (g := strayKinds host) (fun _ _ => rfl),
    List.unattach_attach]

theorem strayKinds_of_not_mem {host : Host.Config} {n : Node} (h : n.kind ∉ renderedKinds) :
    strayKinds host n = [n.kind] := by
  rw [strayKinds, if_neg h]

/-! ## Warnings of groups -/

/-- What is rendered for a node warns of the nodes without renderers that are come upon. -/
def Scene.WarnsOfStrays (s : Scene) (n : Node) : Prop :=
  Warns (unsupported (strayKinds s.host n)) (s.render n)

section

variable {s : Scene}

theorem warns_addElements {es : List Element} (h : ∀ e ∈ es, s.WarnsOfStrays (.element e))
    (t : Tag) : Warns (unsupported ((es.map Node.element).flatMap (strayKinds s.host)))
      (addElements s t es) := by
  induction es generalizing t with
  | nil => exact (Quiet.pure t).warns
  | cons e es ih =>
    rw [List.forall_mem_cons] at h
    rw [List.map_cons, List.flatMap_cons, unsupported_append]
    refine Warns.bind (h.1.before fun tag => ?_) fun u => ih h.2 u
    cases tag with
    | none => exact .pure t
    | some u => exact .pure _

theorem warns_addColumns {cs : List Column}
    (h : ∀ c ∈ cs, s.WarnsOfStrays (.element (.column c))) (total : Number.Double) (t : Tag) :
    Warns (unsupported ((cs.map fun c => Node.element (.column c)).flatMap (strayKinds s.host)))
      (addColumns s total t cs) := by
  induction cs generalizing t with
  | nil => exact (Quiet.pure t).warns
  | cons c cs ih =>
    rw [List.forall_mem_cons] at h
    rw [List.map_cons, List.flatMap_cons, unsupported_append]
    refine Warns.bind (h.1.before fun tag => ?_) fun u => ih h.2 u
    cases tag with
    | none => exact .pure t
    | some u => exact .read fun width => .pure _

/-- A button, and the card that it shows. An action that shows a card always has a button. -/
theorem warns_addAction {a : Action} (haction : s.WarnsOfStrays (.action a))
    (hbutton : ∀ card, cardOf? a = some card → GivesTag (s.render (.action a)))
    (hcard : ∀ card, cardOf? a = some card → s.WarnsOfStrays (.element (.card card)))
    (strip : Strip) :
    Warns (unsupported ((Node.action a :: (cardOf? a).toList.map fun card =>
      Node.element (.card card)).flatMap (strayKinds s.host))) (addAction s strip a) := by
  rw [List.flatMap_cons, unsupported_append]
  unfold addAction
  cases hshown : cardOf? a with
  | none =>
    refine Warns.bind haction fun tag => ?_
    cases tag with
    | none => exact (Quiet.pure strip).warns
    | some button => exact (Quiet.pure _).warns
  | some card =>
    refine Warns.bind_of (P := fun tag => tag.isSome = true) haction
      (fun source p tag q => hbutton card hshown source p tag q) fun tag htag => ?_
    obtain ⟨button, rfl⟩ := Option.isSome_iff_exists.mp htag
    rw [Option.toList_some, List.map_singleton, List.flatMap_singleton]
    exact (hcard card hshown).before fun tag => .pure _

theorem warns_addActions {as : List Action} (haction : ∀ a ∈ as, s.WarnsOfStrays (.action a))
    (hbutton : ∀ a ∈ as, ∀ card, cardOf? a = some card → GivesTag (s.render (.action a)))
    (hcard : ∀ a ∈ as, ∀ card, cardOf? a = some card → s.WarnsOfStrays (.element (.card card)))
    (strip : Strip) :
    Warns (unsupported ((as.flatMap fun a => Node.action a :: (cardOf? a).toList.map fun card =>
      Node.element (.card card)).flatMap (strayKinds s.host))) (addActions s strip as) := by
  induction as generalizing strip with
  | nil => exact (Quiet.pure strip).warns
  | cons a as ih =>
    rw [List.forall_mem_cons] at haction hbutton hcard
    rw [List.flatMap_cons, List.flatMap_append, unsupported_append]
    exact (warns_addAction haction.1 hbutton.1 hcard.1 strip).bind fun strip =>
      ih haction.2 hbutton.2 hcard.2 strip

/-! ## Warnings of nodes -/

variable (hs : s.transformers = standardTransformers.get?)
  (hactive : s.host.supportsInteractivity = true)

include hs hactive

/-- **One node.** A renderer warns of what is come upon in its node, and of nothing else. -/
theorem warns_renderNode {n : Node} (hkind : n.kind ∈ renderedKinds)
    (hbutton : ∀ frame title card, GivesTag (s.render (.action (.showCard frame title card))))
    (h : ∀ m ∈ metParts s.host n, s.WarnsOfStrays m)
    (htext : ∀ t, Quiet (s.render (.element (.textBlock t))))
    (himage : ∀ i, Quiet (s.render (.element (.image i)))) :
    Warns (unsupported (strayKinds s.host n)) (renderNode s n) := by
  rw [strayKinds_of_mem hkind]
  -- only cards, stacks and rows come upon other nodes, and the rest gives no warning of its own
  cases n with
  | element e =>
    cases e with
    | card c =>
      change Warns _ (renderCard s c)
      rw [metParts, List.forall_mem_append, List.forall_mem_map] at h
      rw [metParts, List.flatMap_append, unsupported_append]
      refine (warns_addElements h.1 _).bind fun t => ?_
      unfold addStrip
      rw [if_pos hactive]
      refine Warns.before (Warns.before (warns_addActions ?_ ?_ ?_ _) fun _ => .pure _)
        fun _ => .pure _
      · exact fun a ha => h.2 _ (List.mem_flatMap.mpr ⟨a, ha, List.mem_cons_self⟩)
      · -- without a button the card would not be come upon
        intro a _ card hshown
        cases a with
        | showCard => exact hbutton _ _ _
        | _ => cases hshown
      · intro a ha card hshown
        refine h.2 _ (List.mem_flatMap.mpr ⟨a, ha, List.mem_cons_of_mem _ ?_⟩)
        exact List.mem_map_of_mem (Option.mem_toList.mpr hshown)
    | container c =>
      rw [metParts, List.forall_mem_map] at h
      exact (warns_addElements h _).before fun t => (quiet_selectable hs _ t).bind fun _ => .pure _
    | column c =>
      rw [metParts, List.forall_mem_map] at h
      exact (warns_addElements h _).before fun t => (quiet_selectable hs _ t).bind fun _ => .pure _
    | columnSet c =>
      rw [metParts, List.forall_mem_map] at h
      exact (quiet_selectable hs _ _).then_warns fun row =>
        (warns_addColumns h _ row).before fun _ => .pure _
    | factSet f =>
      exact Quiet.warns ((Quiet.mapM fun fact _ => (htext _).bind fun title =>
        (htext _).bind fun value => .pure _).bind fun rows => .pure _)
    | imageSet images =>
      exact Quiet.warns ((Quiet.mapM fun i _ => (himage _).bind fun tag => .pure _).bind
        fun tags => .pure _)
    | image i => exact (quiet_renderImage hs i).warns
    | textBlock t => exact ((Quiet.ofExcept _).map _).warns
    | choiceSet c => exact (quiet_renderChoiceSet c).warns
    | toggle t => exact (quiet_renderToggle t).warns
    | unknown u => exact (quiet_renderMisplaced hs _ u).warns
    | _ => exact (Quiet.pure _).warns
  | action a =>
    cases a with
    | unknown u => exact (quiet_renderMisplaced hs _ u).warns
    | _ => exact (quiet_renderAction hs _).warns

end

/-! ## Unknown nodes -/

section

variable {stage : Stage} (hrenderers : stage.renderers = standardRenderers)
  (htransformers : stage.transformers = standardTransformers)

include hrenderers htransformers

/-- A node without a renderer is left out with a warning, whatever it holds. -/
theorem render_of_not_mem {n : Node} (h : n.kind ∉ renderedKinds) (source : IdSource) (p : Pass) :
    stage.render n source p =
      (.ok none, { p with warnings := p.warnings ++ [.unsupported n.kind] }) := by
  rw [render_eq hrenderers htransformers, if_neg h]
  rfl

/-- An unknown node with a renderer is not warned of. -/
theorem quiet_render_unknown {n : Node} (hunknown : n.isUnknown = true)
    (h : n.kind ∈ renderedKinds) : Quiet (stage.render n) := by
  rw [render_eq hrenderers htransformers, if_pos h]
  cases n with
  | element e =>
    cases e with
    | unknown u => exact quiet_renderMisplaced (scene_transformers htransformers stage.render) _ u
    | _ => cases hunknown
  | action a =>
    cases a with
    | unknown u => exact quiet_renderMisplaced (scene_transformers htransformers stage.render) _ u
    | _ => cases hunknown

variable (hactive : stage.host.supportsInteractivity = true)

include hactive

theorem warnsOfStrays_render (n : Node) : (stage.scene stage.render).WarnsOfStrays n := by
  induction n using Node.heightInduction with
  | step n ih =>
    by_cases hkind : n.kind ∈ renderedKinds
    · change Warns _ (stage.render n)
      rw [render_eq hrenderers htransformers, if_pos hkind]
      refine warns_renderNode (scene_transformers htransformers stage.render) hactive hkind ?_ ?_ ?_ ?_
      · intro frame title card source p tag q hrun
        exact (render_isSome_iff hrenderers htransformers hactive hrun).mpr (kind_mem_renderedKinds rfl)
      · exact fun m hm => ih m (lt_of_mem_metParts hm)
      · intro t
        change Quiet (stage.render _)
        rw [render_eq hrenderers htransformers, if_pos (kind_mem_renderedKinds rfl)]
        exact (Quiet.ofExcept _).map _
      · intro i
        change Quiet (stage.render _)
        rw [render_eq hrenderers htransformers, if_pos (kind_mem_renderedKinds rfl)]
        exact quiet_renderImage (scene_transformers htransformers stage.render) i
    · -- a node without a renderer is not looked into: it is the only one that is warned of
      intro source p tag q hrun
      change stage.render n source p = _ at hrun
      rw [render_of_not_mem hrenderers htransformers hkind] at hrun
      obtain ⟨-, rfl⟩ := Prod.mk.inj hrun
      change _ = p.warnings ++ unsupported (strayKinds stage.host n)
      rw [strayKinds_of_not_mem hkind]
      rfl

end

/-! ## What elements are selected by -/

/-- The label of what activates an action is the title of the action. -/
theorem label_titleOf (u : Unknown) :
    (if (titleOf (.action (.unknown u))).truthy then shownText (titleOf (.action (.unknown u)))
      else "") = u.title.getD "" := by
  have htitle : titleOf (.action (.unknown u)) = .ofText? u.title := rfl
  rw [htitle]
  cases u.title with
  | none => rfl
  | some title =>
    change (if (!title.isEmpty) = true then shownText (.text title) else "") = title
    by_cases hempty : title = ""
    · subst hempty
      rfl
    · simp [hempty, shownText, shown]

/-- An unknown action that an element is selected by is activated as any other: the element gets the
classes and the attributes of that, and nothing is warned of. -/
theorem selectable_unknown {s : Scene} (hs : s.transformers = standardTransformers.get?)
    (hactive : s.host.supportsInteractivity = true) {u : Unknown} (hu : u.kind ∉ actionKinds)
    (t : Tag) (source : IdSource) (p : Pass) :
    ∃ tag, selectable s (some (.unknown u)) t source p = (.ok tag, p) ∧
      "ac-selectable" ∈ tag.classes ∧ actionClass u.kind ∈ tag.classes ∧
      tag.attr? "role" = some "button" ∧ tag.attr? "aria-label" = some (u.title.getD "") := by
  have hother {kind : String} (hkind : (Node.action (.unknown u)).kind = kind) :
      kind ∉ actionKinds := hkind ▸ hu
  have htransform (t : Tag) : s.transform (.action (.unknown u)) t = pure t := by
    refine transform_cases (P := fun treat => treat t = pure t) hs (.action (.unknown u)) ?_ ?_ ?_ ?_
    · exact fun hkind => absurd (by decide) (hother hkind)
    · exact fun hkind => absurd (by decide) (hother hkind)
    · exact fun hkind => absurd (by decide) (hother hkind)
    · exact fun _ => rfl
  have hclass : actionClass u.kind ≠ "" := by
    rintro hempty
    have hchars := congrArg String.toList hempty
    rw [actionClass, String.toList_append] at hchars
    cases hchars
  have hrun : selectable s (some (.unknown u)) t =
      pure ((t.addClass "ac-selectable").addClass (actionClass u.kind) |>.setAttr "role" "button"
        |>.setAttr "aria-label" (u.title.getD "")) := by
    unfold selectable asAction
    dsimp only
    rw [if_pos hactive, htransform, label_titleOf]
    rfl
  rw [hrun]
  exact ⟨_, rfl, by simp, by simp [hclass], by simp, by simp⟩

/-! ## Cards -/

/-- What becomes of an unknown node on a host. -/
structure UnknownOutcome (host : Host.Config) (u : Unknown) : Prop where
  /-- In a list, and without a renderer for its kind, it is left out with one warning. -/
  stray : u.kind ∉ renderedKinds → ∀ n ∈ [Node.element (.unknown u), .action (.unknown u)],
    ∀ source p, ({ host := host } : Session).stage.render n source p =
      (.ok none, { p with warnings := p.warnings ++ [.unsupported u.kind] })
  /-- In a list, and of a kind that has a renderer, it gives a tag, if that does not fail, and it is
  not warned of. -/
  misplaced : u.kind ∈ renderedKinds → ∀ n ∈ [Node.element (.unknown u), .action (.unknown u)],
    ∀ source p tag q, ({ host := host } : Session).stage.render n source p = (.ok tag, q) →
      tag.isSome = true ∧ q.warnings = p.warnings
  /-- An element that it selects gets what any selected element has, and it is not warned of. -/
  selection : u.kind ∉ actionKinds → ∀ s : Scene, s.host = host →
    s.transformers = standardTransformers.get? → ∀ t source p,
      ∃ tag, selectable s (some (.unknown u)) t source p = (.ok tag, p) ∧
        "ac-selectable" ∈ tag.classes ∧ actionClass u.kind ∈ tag.classes ∧
        tag.attr? "role" = some "button" ∧ tag.attr? "aria-label" = some (u.title.getD "")

theorem unknownOutcome {host : Host.Config} (hactive : host.supportsInteractivity = true)
    (u : Unknown) : UnknownOutcome host u where
  stray hkind n hn source p := by
    have hsame : n.kind = u.kind := by
      rcases List.mem_pair.mp hn with rfl | rfl <;> rfl
    rw [← hsame] at hkind ⊢
    exact render_of_not_mem rfl rfl hkind source p
  misplaced hkind n hn source p tag q hrun := by
    have hsame : n.kind = u.kind ∧ n.isUnknown = true := by
      rcases List.mem_pair.mp hn with rfl | rfl <;> exact ⟨rfl, rfl⟩
    rw [← hsame.1] at hkind
    have hquiet : Quiet (({ host := host } : Session).stage.render n) :=
      quiet_render_unknown rfl rfl hsame.2 hkind
    exact ⟨(render_isSome_iff rfl rfl hactive hrun).mpr hkind, hquiet.warnings hrun⟩
  selection hu s hhost hs t source p :=
    selectable_unknown hs (hhost ▸ hactive) hu t source p

theorem warns_announce (version : Option String) :
    Warns (versionWarning? version).toList (announce version) := by
  unfold announce
  cases versionWarning? version with
  | none => exact (Quiet.pure ()).warns
  | some w => exact .warn w

theorem warns_cardPass {stage : Stage} (hrenderers : stage.renderers = standardRenderers)
    (htransformers : stage.transformers = standardTransformers)
    (hactive : stage.host.supportsInteractivity = true) (c : Card) :
    Warns ((versionWarning? c.version).toList ++
      unsupported (strayKinds stage.host (.element (.card c)))) (cardPass stage c) := by
  rw [cardPass_eq]
  refine (warns_announce _).bind fun _ => ?_
  refine (warnsOfStrays_render hrenderers htransformers hactive (.element (.card c))).before
    fun tag => ?_
  cases tag with
  | none => exact .ofExcept (.error _)
  | some t => exact .pure t

/-- **What becomes of unknown nodes.** On a host with interactivity, the warnings of a rendered card
are the one on its version, if any, and then one for each node without a renderer that is come upon.
An unknown node of a list that has no renderer leaves nothing but its warning. One of a kind of the
other family is rendered, which may fail; and one that an element is selected by leaves its traces
on the element; neither is ever warned of. -/
theorem warnings_of_render {host : Host.Config} (hactive : host.supportsInteractivity = true) :
    (∀ u, UnknownOutcome host u) ∧ ∀ (source : IdSource) (c : Card) (rendered : Rendered),
      ({ host := host } : Session).render source (some c) = .ok rendered →
        rendered.warnings = (versionWarning? c.version).toList ++
          unsupported (strayKinds host (.element (.card c))) := by
  refine ⟨unknownOutcome hactive, fun source c rendered h => ?_⟩
  obtain ⟨pass, hrun, hwarnings⟩ := render_eq_ok h
  have hpass : Warns ((versionWarning? c.version).toList ++
      unsupported (strayKinds host (.element (.card c))))
      (cardPass ({ host := host } : Session).stage c) :=
    warns_cardPass rfl rfl hactive c
  rw [hwarnings]
  exact hpass source {} rendered.tag pass hrun

/-- A chart and a button that stands among elements, and a container that is selected by a bell. -/
def strangeCard : Card :=
  let bell := .unknown { kind := "Action.Bell", title := some "Ring" }
  cardOf [.unknown { kind := "Chart" }, .unknown { kind := "Action.ShowCard" },
    .container { frame := {}, items := [], selectAction := some bell }] [.unknown { kind := "Map" }]

/-- Only the chart and the map are warned of. -/
theorem warnings_of_render_strange :
    ({} : Host.Config).supportsInteractivity = true ∧
    ∃ rendered, ({ host := {} } : Session).render (listedIds ["a"]) (some strangeCard) =
        .ok rendered ∧
      rendered.warnings = unsupported ["Chart", "Map"] ∧
      rendered.warnings = (versionWarning? strangeCard.version).toList ++
        unsupported (strayKinds {} (.element (.card strangeCard))) :=
  ⟨rfl, _, rfl, rfl, (warnings_of_render rfl).2 (listedIds ["a"]) strangeCard _ rfl⟩

/-- **Unknown nodes that are not left out.** An action of a known kind among elements fails the card,
and an element that is selected by an action of unknown kind is marked by it without a warning. -/
theorem render_misplaced :
    (let docs : Element := .unknown
      { kind := "Action.OpenUrl", members := [("title", .text "Docs")] }
    ({ host := {} } : Session).render (listedIds ["a"]) (some (cardOf [docs] [])) =
      .error (.failed (.noMember "UnknownElement" "url") none)) ∧
    (let bell : Action := .unknown { kind := "Action.Bell" }
    ∃ rendered, ({ host := {} } : Session).render (listedIds ["a"]) (some (cardOf [.container
        { frame := {}, items := [], selectAction := some bell }] [])) = .ok rendered ∧
      rendered.warnings = [] ∧
      (rendered.tag.findAll none (some "ac-action-bell")).length = 1) :=
  ⟨rfl, _, rfl, rfl, rfl⟩

end Placard.Render
