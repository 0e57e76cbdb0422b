import Placard.Render.Misplaced

/-!
# The standard renderers

One renderer serves all kinds of nodes; it is registered for each kind that is known.
-/

namespace Placard.Render

open Placard.Document

/-- The tag of a node, by what the node is. -/
def renderNode : Renderer := fun s node =>
  match node with
  | .element (.card c) => renderCard s c
  | .element (.container c) => renderContainer s c
  | .element (.column c) => renderColumn s c
  | .element (.columnSet c) => renderColumnSet s c
  | .element (.factSet f) => renderFactSet s f
  | .element (.image i) => renderImage s i
  | .element (.imageSet i) => renderImageSet s i
  | .element (.textBlock t) => some <$> ofExcept (textTag s t)
  | .element (.choiceSet c) => renderChoiceSet s c
  | .element (.textInput i) => pure (some (textInputTag i))
  | .element (.numberInput i) => pure (some (numberInputTag i))
  | .element (.dateInput p) => pure (some (pickerTag "date" "ac-dateInput" p))
  | .element (.timeInput p) => pure (some (pickerTag "time" "ac-timeInput" p))
  | .element (.toggle t) => renderToggle s t
  | .element (.unknown u) => renderMisplaced s node u
  | .action (.unknown u) => renderMisplaced s node u
  | .action _ => renderAction s node

/-- The kinds that have renderers, in the order of registration. -/
def renderedKinds : List String :=
  ["AdaptiveCard", "TextBlock", "Image", "Container", "Column", "ColumnSet", "FactSet", "ImageSet",
    "Input.ChoiceSet", "Input.Text", "Input.Number", "Input.Date", "Input.Time", "Input.Toggle",
    "Action.Submit", "Action.OpenUrl", "Action.ShowCard"]

/-- The renderers of all known kinds. -/
def standardRenderers : Registry Renderer :=
  .ofList (renderedKinds.map fun kind => (kind, renderNode))

/-- The stage of a host with its extensions to Markdown and the standard renderers. -/
def standardStage (host : Host.Config) (extensions : List String) : Stage where
  host := host
  convert := fun text => (Markdown.tagsOf extensions text).mapError .markdown
  renderers := standardRenderers
  transformers := standardTransformers

end Placard.Render
