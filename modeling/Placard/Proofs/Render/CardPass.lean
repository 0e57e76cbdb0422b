import Placard.Proofs.Render.Issue
import Placard.Render.Session

/-!
# The pass of a card

The pass of a card has three steps: it says what is to be said of the version, renders the card, and
fails if the card does not show (`cardPass_eq`). What is proved of all passes is proved of each of
these steps.
-/

namespace Placard.Render

open Document

/-- A card with just these elements and actions. -/
def cardOf (body : List Element) (actions : List Action) : Card where
  frame := {}
  version := some "1.0"
  body := body
  actions := actions
  fallbackText := none
  backgroundImage := none

/-- The step that says what is to be said of a version. -/
def announce (version : Option String) : Render Unit :=
  match versionWarning? version with
  | some w => warn w
  | none => pure ()

/-- The tag of a card, which has to show. -/
def shownTag (c : Card) : Option Tag → Render Tag
  | some tag => pure tag
  | none => fail (.noOutput (Element.card c).kind)

theorem cardPass_eq (stage : Stage) (c : Card) : cardPass stage c =
    announce c.version >>= fun _ => stage.render (.element (.card c)) >>= shownTag c := by
  unfold cardPass announce
  cases versionWarning? c.version <;> rfl

/-! ## Rendered cards -/

/-- A card that is rendered has the tag and the warnings of its pass. -/
theorem render_eq_ok {s : Session} {source : IdSource} {c : Card} {rendered : Rendered}
    (h : s.render source (some c) = .ok rendered) :
    ∃ pass, cardPass s.stage c source {} = (.ok rendered.tag, pass) ∧
      rendered.warnings = pass.warnings := by
  unfold Session.render at h
  dsimp only at h
  split at h
  · next tag pass hpass =>
    obtain rfl := Except.ok.inj h
    exact ⟨pass, hpass, rfl⟩
  · cases h

theorem Issues.announce (version : Option String) :
    Issues (announce version) fun new _ => new = [] := by
  unfold Render.announce
  split
  · exact .warn _
  · exact .pure rfl

/-- The tag of a pass is the one that is rendered for the card, and so are the ids. -/
theorem IssuesFrom.cardPass {source : IdSource} {stage : Stage} {c : Card}
    {Q : List String → Tag → Prop}
    (h : IssuesFrom source (stage.render (.element (.card c))) fun new tag => ∀ t ∈ tag, Q new t) :
    IssuesFrom source (cardPass stage c) Q := by
  rw [cardPass_eq]
  refine ((Issues.announce _).from_source source).bind fun new _ hnew => ?_
  subst hnew
  refine h.bind fun new tag htag => ?_
  cases tag with
  | none => exact (Issues.fail _).from_source source
  | some t =>
    refine .pure ?_
    rw [List.nil_append, List.append_nil]
    exact htag t rfl

theorem Issues.cardPass {stage : Stage} {c : Card} {Q : List String → Tag → Prop}
    (h : Issues (stage.render (.element (.card c))) fun new tag => ∀ t ∈ tag, Q new t) :
    Issues (cardPass stage c) Q :=
  .of_source fun source => .cardPass (h.from_source source)

end Placard.Render
