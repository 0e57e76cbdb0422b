import Placard.Proofs.Render.AlikeNode
import Placard.Proofs.Render.CardPass

/-!
# Only the ids depend on their source

Two passes of one card are alike: at every height both call for the same nodes, so both fail with
one fault or give twins. The template of those twins is all that the card decides; a source of ids
fills its holes and decides nothing else.
-/

namespace Placard.Render

open Tag Data Document

/-! ## Nodes -/

section

variable {s : Scene} {ids : IdPairs}

theorem alike_renderNode (hs : s.IsSteady) (node : Node) :
    Alike ids (renderNode s node) (renderNode s node) MaybeTwin := by
  cases node with
  | element e =>
    cases e with
    | card c => exact alike_renderCard hs c
    | container c => exact alike_renderStack hs "Container" c.items c.selectAction
    | column c => exact alike_renderStack hs "Column" c.items c.selectAction
    | columnSet c => exact alike_renderColumnSet hs c
    | factSet f => exact alike_renderFactSet hs f
    | image i => exact alike_renderImage hs i
    | imageSet i => exact alike_renderImageSet hs i
    | textBlock t => exact (Alike.tag _).maybe
    | choiceSet c => exact alike_renderChoiceSet s c
    | textInput i => exact .pure (.refl _)
    | numberInput i => exact .pure (.refl _)
    | dateInput p => exact .pure (.refl _)
    | timeInput p => exact .pure (.refl _)
    | toggle t => exact alike_renderToggle s t
    | unknown u => exact alike_renderMisplaced hs _ u
  | action a =>
    cases a with
    | unknown u => exact alike_renderMisplaced hs _ u
    | _ => exact alike_renderAction hs.transformers _

end

/-! ## Depths -/

section

variable {stage : Stage} (hrenderers : stage.renderers = standardRenderers)
  (htransformers : stage.transformers = standardTransformers)

include hrenderers htransformers

theorem isSteady_renderWithin (depth : Nat) :
    (stage.scene (stage.renderWithin depth)).IsSteady := by
  induction depth with
  | zero => exact ⟨scene_transformers htransformers _, fun _ _ => .fail _⟩
  | succ depth ih =>
    refine ⟨scene_transformers htransformers _, fun ids node => ?_⟩
    change Alike ids (stage.renderWithin (depth + 1) node) (stage.renderWithin (depth + 1) node) _
    rcases renderWithin_succ hrenderers depth node with heq | heq
    · rw [heq]
      exact alike_renderNode ih node
    · rw [heq]
      exact (Alike.warn _).bind fun more _ _ _ => .pure .none

theorem alike_cardPass (c : Card) {ids : IdPairs} :
    Alike ids (cardPass stage c) (cardPass stage c) Twin := by
  have hannounce : Alike ids (announce c.version) (announce c.version)
      fun ids' _ _ => ids' = ids := by
    unfold announce
    split
    · exact .warn _
    · exact .pure rfl
  rw [cardPass_eq]
  refine hannounce.bind fun more _ _ _ => ?_
  refine ((isSteady_renderWithin hrenderers htransformers _).render _ (.element (.card c))).bind
    fun more tag tag' h => ?_
  cases h with
  | none => exact .fail _
  | some htwin => exact .pure htwin

end

/-! ## Cards -/

/-- Whether rendering a card ends because a source gives no id that is new. -/
def Session.Exhausts (s : Session) (source : IdSource) (c : Card) : Prop :=
  (cardPass s.stage c source {}).1 = .error .exhaustedIds

/-- The ids that rendering a card issues, in order. -/
def Session.issuedIds (s : Session) (source : IdSource) (c : Card) : List String :=
  (cardPass s.stage c source {}).2.issued

/-- **A card is one template.** With ids from any two sources that are not exhausted, a card fails
with one cause, or else it is rendered with the same warnings and to one template, whose holes are
filled with the ids that were issued. -/
theorem render_eq_fill {s : Session} (hrenderers : s.renderers = standardRenderers)
    (htransformers : s.transformers = standardTransformers) (c : Card) {source source' : IdSource}
    (h : ¬ s.Exhausts source c) (h' : ¬ s.Exhausts source' c) :
    (∃ cause, s.render source (some c) = .error (.failed cause c.fallbackText) ∧
      s.render source' (some c) = .error (.failed cause c.fallbackText)) ∨
    ∃ (template : Template) (warnings : List Warning),
      (s.issuedIds source c).length = (s.issuedIds source' c).length ∧
      template.IsPlaced (s.issuedIds source c).length ∧
      s.render source (some c) =
        .ok { tag := template.fill (s.issuedIds source c), warnings := warnings } ∧
      s.render source' (some c) =
        .ok { tag := template.fill (s.issuedIds source' c), warnings := warnings } := by
  have halike : Alike [] (cardPass s.stage c) (cardPass s.stage c) Twin :=
    alike_cardPass hrenderers htransformers c
  have hends := halike source source' {} {} ⟨rfl, rfl, rfl⟩
  unfold Session.Exhausts at h h'
  unfold Session.issuedIds Session.render
  dsimp only
  generalize cardPass s.stage c source {} = x at h hends ⊢
  generalize cardPass s.stage c source' {} = y at h' hends ⊢
  cases hends with
  | firstExhausted => exact absurd rfl h
  | secondExhausted => exact absurd rfl h'
  | fault cause => exact .inl ⟨cause, rfl, rfl⟩
  | @value tag tag' p q more hlevel htwin =>
    obtain ⟨template, hplaced, rfl, rfl⟩ := htwin
    refine .inr ⟨template, p.warnings, ?_, ?_, ?_, ?_⟩
    · rw [hlevel.first, hlevel.second, List.length_map, List.length_map]
    · rwa [hlevel.first, List.length_map]
    · rw [hlevel.first]
    · rw [hlevel.second, hlevel.warnings]

/-- A card with two choices, and an action that shows no card. -/
def choiceCard : Card where
  frame := {}
  version := some "1.0"
  body := [.choiceSet { choices := [{ title := "One" }, { title := "Two" }], style := .expanded }]
  actions := [.showCard {} none none]
  fallbackText := none
  backgroundImage := none

/-- The same card with ids that are new each time, and with ids that come twice. -/
theorem render_eq_fill_choices :
    ¬ ({} : Session).Exhausts (listedIds ["a", "b", "c"]) choiceCard ∧
    ¬ ({} : Session).Exhausts (listedIds ["x", "x", "y", "x", "z"]) choiceCard ∧
    ∃ (template : Template) (warnings : List Warning), template.IsPlaced 3 ∧
      ({} : Session).render (listedIds ["a", "b", "c"]) (some choiceCard) =
        .ok { tag := template.fill ["a", "b", "c"], warnings := warnings } ∧
      ({} : Session).render (listedIds ["x", "x", "y", "x", "z"]) (some choiceCard) =
        .ok { tag := template.fill ["x", "y", "z"], warnings := warnings } := by
  have hends : ¬ ({} : Session).Exhausts (listedIds ["a", "b", "c"]) choiceCard := fun h => by
    cases h
  have hends' : ¬ ({} : Session).Exhausts (listedIds ["x", "x", "y", "x", "z"]) choiceCard :=
    fun h => by cases h
  have hshows : (({} : Session).render (listedIds ["a", "b", "c"]) (some choiceCard)).isOk = true :=
    rfl
  refine ⟨hends, hends', ?_⟩
  rcases render_eq_fill rfl rfl choiceCard hends hends' with
    ⟨cause, hfails, -⟩ | ⟨template, warnings, -, hplaced, hfirst, hsecond⟩
  · rw [hfails] at hshows
    cases hshows
  · exact ⟨template, warnings, hplaced, hfirst, hsecond⟩

end Placard.Render
