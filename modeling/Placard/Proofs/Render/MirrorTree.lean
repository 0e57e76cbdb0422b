import Placard.Proofs.Render.MirrorContent
import Placard.Proofs.Render.WiredTree

/-!
# The tree of a card mirrors what shows of it

By induction on heights, each node that shows is rendered to a tag with the landmarks of what shows
of it. So the landmarks of a rendered card, in the order of the tree, are the visible nodes of the
card, in the order of the document.
-/

namespace Placard.Render

open Tag Document

section

variable {s : Scene}

theorem visible_leaf {host : Host.Config} {n : Node} (h : n.isUnknown = false)
    (hparts : shownParts host n = []) : visible host n = [n] := by
  rw [visible_known h, hparts, List.flatMap_nil]

/-- **One node.** The tag of a node mirrors the node if the tags of what is rendered for it do. -/
theorem mirror_renderNode (hs : s.transformers = standardTransformers.get?)
    (hconvert : ∀ text, Gives (s.convert text) fun tags => ∀ t ∈ descendantsOf tags, t.classes = [])
    {n : Node} (hn : n.isUnknown = false)
    (hactive : ∀ a, n = .action a → s.host.supportsInteractivity = true)
    (hparts : ∀ m ∈ shownParts s.host n, s.Mirrors m)
    (himage : ∀ i j : Image, j.url = i.url → Issues (s.render (.element (.image j))) fun _ tag =>
      Reflects s.convert [.element (.image i)] tag.toList) :
    Issues (renderNode s n) fun _ tag => Reflects s.convert (visible s.host n) tag.toList := by
  -- what a group shows are its parts, and any other node shows by itself
  cases n with
  | element e =>
    cases e with
    | card c => exact mirror_renderCard hparts
    | container c =>
      rw [visible_known rfl, shownParts]
      rw [shownParts, List.forall_mem_map] at hparts
      exact mirror_renderStack (e := .container c) hs rfl (by simp [Element.kind, landmarkClasses])
        hparts c.selectAction
    | column c =>
      rw [visible_known rfl, shownParts]
      rw [shownParts, List.forall_mem_map] at hparts
      exact mirror_renderStack (e := .column c) hs rfl (by simp [Element.kind, landmarkClasses])
        hparts c.selectAction
    | columnSet c => exact mirror_renderColumnSet hs hparts
    | factSet f => exact mirror_renderFactSet hparts
    | imageSet images =>
      refine mirror_renderImageSet fun i _ => himage i _ ?_
      unfold inSet
      split <;> rfl
    | image i =>
      rw [visible_leaf rfl rfl]
      exact mirror_renderImage hs rfl
    | textBlock b =>
      rw [visible_leaf rfl rfl]
      exact (Issues.ofExcept (mirror_textTag hconvert b)).map fun _ _ ht => ht
    | choiceSet c =>
      rw [visible_leaf rfl rfl]
      exact mirror_renderChoiceSet c
    | textInput i =>
      rw [visible_leaf rfl rfl]
      exact .pure (reflects_textInputTag i)
    | numberInput i =>
      rw [visible_leaf rfl rfl]
      exact .pure (reflects_numberInputTag i)
    | dateInput p =>
      rw [visible_leaf rfl rfl]
      exact .pure (reflects_pickerTag "date" (by decide) rfl rfl)
    | timeInput p =>
      rw [visible_leaf rfl rfl]
      exact .pure (reflects_pickerTag "time" (by decide) rfl rfl)
    | toggle t =>
      rw [visible_leaf rfl rfl]
      exact mirror_renderToggle t
    | unknown u => cases hn
  | action a =>
    rw [visible_leaf hn rfl]
    have hbutton := mirror_renderAction hs (hactive a rfl) hn
    cases a with
    | unknown u => cases hn
    | _ => exact hbutton

end

/-! ## Cards -/

/-- What is rendered for a node has its unknown nodes in the node. -/
theorem unknown_mem_of_shownParts {host : Host.Config} {n m k : Node} (hm : m ∈ shownParts host n)
    (hk : k ∈ m.nodes) (hunknown : k.isUnknown = true) : k ∈ n.nodes := by
  rcases mem_shownParts hm with hm | ⟨a, ha, hm⟩ | ⟨facts, layout, text, rfl, rfl⟩
  · exact Node.nodes_subset_of_mem_parts hm hk
  · exact Node.nodes_subset_of_mem_parts ha (Node.nodes_subset_of_mem_parts hm hk)
  · -- a text has no unknown nodes
    rw [Node.nodes_eq] at hk
    obtain rfl := List.mem_singleton.mp hk
    cases hunknown

section

variable {host : Host.Config}

theorem mirrors_of_height (n : Node)
    (hunknown : ∀ m ∈ n.nodes, m.isUnknown = true → m.kind ∉ renderedKinds)
    (hactive : ∀ a, n = .action a → host.supportsInteractivity = true) :
    let stage := ({ host := host } : Session).stage
    (stage.scene stage.render).Mirrors n := by
  have hconvert (text : String) : Gives (({ host := host } : Session).stage.convert text)
      fun tags => ∀ t ∈ descendantsOf tags, t.classes = [] := by
    obtain ⟨tags, htags, htext⟩ := convert_stage host text
    intro found hfound
    rw [htags] at hfound
    obtain rfl := Except.ok.inj hfound
    exact fun t ht => (htext t ht).classes
  induction n using Node.heightInduction with
  | step n ih =>
    intro stage
    have hstandard : stage.renderers = standardRenderers := rfl
    change Issues (stage.render n) fun _ tag =>
      Reflects stage.convert (visible stage.host n) tag.toList
    rw [render_eq hstandard rfl]
    by_cases hn : n.isUnknown = true
    · rw [if_neg (hunknown n n.mem_nodes_self hn), visible_unknown hn]
      exact (Issues.warn _).bind fun _ _ _ => .pure reflects_nil
    · rw [Bool.not_eq_true] at hn
      rw [if_pos (kind_mem_renderedKinds hn)]
      refine mirror_renderNode (s := stage.scene stage.render) rfl hconvert hn hactive ?_ ?_
      · intro m hm
        refine ih m (lt_of_mem_shownParts hm) (fun k hk hu => hunknown k ?_ hu) ?_
        · exact unknown_mem_of_shownParts hm hk hu
        · rintro a rfl
          exact interactive_of_mem_shownParts hm
      · intro i j hij
        change Issues (stage.render (.element (.image j))) _
        rw [render_eq hstandard rfl, if_pos (kind_mem_renderedKinds rfl)]
        exact mirror_renderImage (s := stage.scene stage.render) rfl hij

/-- **The tree mirrors the card.** If the unknown nodes of a card have no renderers and the card is
rendered, then the landmarks of its tree, read in the order of the tree, are those of its visible
nodes, one for each and in the order of the document. -/
theorem render_mirrors (source : IdSource) (c : Card)
    (hunknown : ∀ n ∈ (Node.element (.card c)).nodes, n.isUnknown = true → n.kind ∉ renderedKinds)
    {rendered : Rendered} (h : ({ host := host } : Session).render source (some c) = .ok rendered) :
    List.Forall₂ (Shows ({ host := host } : Session).stage.convert)
      (visible host (.element (.card c))) ((descendantsOf [rendered.tag]).filter isLandmark) := by
  obtain ⟨pass, hrun, -⟩ := render_eq_ok h
  have hcard := @mirrors_of_height host (.element (.card c)) hunknown nofun
  have hmirror : Issues (cardPass ({ host := host } : Session).stage c) fun _ t =>
      Reflects ({ host := host } : Session).stage.convert (visible host (.element (.card c))) [t] :=
    Issues.cardPass (hcard.mono fun _ tag htag t ht => by
      obtain rfl := Option.mem_def.mp ht
      exact htag)
  obtain ⟨-, -, -, htag⟩ := hmirror source {} _ _ hrun
  exact htag

end

/-- A card with a chart and a bell, which are of no known kind, a toggle in a container, and a card
with another toggle that an action shows. -/
def chartCard : Card where
  frame := {}
  version := some "1.0"
  body := [.unknown { kind := "Chart" }, .container {
    frame := {}, items := [.toggle {}], selectAction := none }]
  actions := [.unknown { kind := "Action.Bell" }, .showCard {} (some "More") (some (toggleCard []))]
  fallbackText := none
  backgroundImage := none

/-- The landmarks of that card are those of the card, the container, the toggle, the button, the
shown card and its toggle. -/
theorem render_mirrors_chart :
    (∀ n ∈ (Node.element (.card chartCard)).nodes, n.isUnknown = true →
      n.kind ∉ renderedKinds) ∧
    ∃ rendered, ({ host := {} } : Session).render (listedIds ["a", "b", "c"]) (some chartCard) =
        .ok rendered ∧
      ((descendantsOf [rendered.tag]).filter isLandmark).length = 6 ∧
      List.Forall₂ (Shows ({ host := {} } : Session).stage.convert)
        (visible {} (.element (.card chartCard)))
        ((descendantsOf [rendered.tag]).filter isLandmark) := by
  have hunknown : ∀ n ∈ (Node.element (.card chartCard)).nodes, n.isUnknown = true →
      n.kind ∉ renderedKinds := by
    simp [Node.nodes_eq, Node.parts, chartCard, toggleCard, Node.isUnknown, Node.kind, Element.kind,
      Action.kind, renderedKinds]
  exact ⟨hunknown, _, rfl, rfl,
    render_mirrors (listedIds ["a", "b", "c"]) chartCard hunknown rfl⟩

end Placard.Render
