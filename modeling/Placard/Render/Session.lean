import Placard.Render.Standard
import Placard.Render.Version

/-!
# Sessions

A session renders cards one after the other for one host. Renderers and what is done to the tags of
actions can be registered and removed between cards; nothing else is carried from one card to the
next.

Rendering a card gives its tag and the warnings of the pass, or else an error with the text that the
card provides for that case. `Session.outcomes` gives that for all cards of a history of changes and
cards.
-/

namespace Placard.Render

open Placard.Document

/-- What a session renders with. -/
structure Session where
  host : Host.Config := {}
  extensions : List String := Markdown.defaultExtensions
  renderers : Registry Renderer := standardRenderers
  transformers : Registry Transformer := standardTransformers
  /-- how much deeper than the height of a card its rendering may go -/
  reserve : Nat := 1000

/-- A card that was rendered. -/
structure Rendered where
  tag : Tag
  warnings : List Warning

/-- Why a card was not rendered. -/
inductive CardFault where
  | noCard
  /-- The pass failed, and the card provides this text. -/
  | failed (cause : Fault) (fallbackText : Option String)

/-- The wording, without the cause. -/
def CardFault.message : CardFault → String
  | .noCard => "No card to render"
  | .failed _ _ => "Failed to render card"

namespace Session

/-- The stage that cards are rendered on. -/
def stage (s : Session) : Stage :=
  { standardStage s.host s.extensions with
    renderers := s.renderers, transformers := s.transformers, reserve := s.reserve }

/-- The session with a renderer for a kind, replacing any before. -/
def setRenderer (s : Session) (kind : String) (renderer : Renderer) : Session :=
  { s with renderers := s.renderers.set kind renderer }

/-- The session without a renderer for a kind. -/
def removeRenderer (s : Session) (kind : String) : Session :=
  { s with renderers := s.renderers.remove kind }

/-- The session with something done to the tags of a kind of action, replacing any before. -/
def setTransformer (s : Session) (kind : String) (transformer : Transformer) : Session :=
  { s with transformers := s.transformers.set kind transformer }

end Session

/-- The pass of a card: what is said of its version, then its tag, which has to show. -/
def cardPass (stage : Stage) (c : Card) : Render Tag := do
  match versionWarning? c.version with
  | some w => warn w
  | none => pure ()
  match ← stage.render (.element (.card c)) with
  | some tag => return tag
  | none => fail (.noOutput (Element.card c).kind)

/-- The outcome of rendering a card with ids from a source. -/
def Session.render (s : Session) (ids : IdSource) (c : Option Card) : Except CardFault Rendered :=
  match c with
  | none => .error .noCard
  | some c =>
    match cardPass s.stage c ids {} with
    | (.ok tag, pass) => .ok { tag, warnings := pass.warnings }
    | (.error cause, _) => .error (.failed cause c.fallbackText)

/-! ## Histories -/

/-- A change of what a session renders with. -/
inductive Change where
  | setRenderer (kind : String) (renderer : Renderer)
  | removeRenderer (kind : String)
  | setTransformer (kind : String) (transformer : Transformer)

/-- What happens to a session: it is changed, or it renders a card with ids from a source. -/
inductive Step where
  | change (c : Change)
  | render (ids : IdSource) (card : Option Card)

namespace Session

/-- The session after a change. -/
def change (s : Session) : Change → Session
  | .setRenderer kind renderer => s.setRenderer kind renderer
  | .removeRenderer kind => s.removeRenderer kind
  | .setTransformer kind transformer => s.setTransformer kind transformer

/-- The session after some changes. -/
def changeAll (s : Session) (changes : List Change) : Session :=
  changes.foldl change s

/-- The session after a step. -/
def step (s : Session) : Step → Session
  | .change c => s.change c
  | .render _ _ => s

/-- The session after some steps. -/
def after (s : Session) (steps : List Step) : Session :=
  steps.foldl step s

/-- The outcomes of the cards that are rendered in some steps, in order. -/
def outcomes (s : Session) : List Step → List (Except CardFault Rendered)
  | [] => []
  | .change c :: steps => (s.change c).outcomes steps
  | .render ids card :: steps => s.render ids card :: s.outcomes steps

end Session

/-! ## Ids -/

/-- The id that a random number of 32 bits makes. -/
def idOfNumber (n : Nat) : String :=
  "ac-" ++ String.ofList (Text.hexText 8 (n % Nat.pow 2 32))

/-- The source that counts after a given beginning. -/
def countedIds (start : String) : IdSource := fun place =>
  start ++ "-" ++ String.ofList (Text.natText (place + 1))

/-- The source that gives these ids, and the last one again and again. -/
def listedIds (ids : List String) : IdSource := fun place =>
  (ids[place]?).getD (ids.getLast?.getD "")

end Placard.Render
