import Placard.Json.Writer
import Placard.Render.Layout
import Placard.Render.Member
import Placard.Text.Case

/-!
# Actions

An action shows as a button, or makes an element selectable. Its tag says what it does: where it
leads, what it submits, or which card it shows.
-/

namespace Placard.Render

open Placard.Text Placard.Data Placard.Document

/-- The class of the tags for a kind of node. -/
def kindClass (kind : String) : String :=
  "ac-" ++ String.ofList (lower (kind.toList.filter (· != '.')))

/-- The class of the tags for a kind of action: what stands after the last point of its name, with a
small letter first. -/
def actionClass (kind : String) : String :=
  let name := (kind.toList.reverse.takeWhile (· != '.')).reverse
  "ac-action-" ++ String.ofList (lower (name.take 1) ++ name.drop 1)

/-- The tag of something that activates an action. -/
def asAction (s : Scene) (action : Node) (tag : Tag) : Render Tag :=
  let label := titleOf action
  s.transform action
    (tag.addClass (actionClass action.kind) |>.setAttr "role" "button"
      |>.setAttr "aria-label" (if label.truthy then shownText label else ""))

/-- The tag of an element that can be selected, if it can. -/
def selectable (s : Scene) (action : Option Action) (tag : Tag) : Render Tag :=
  match action with
  | some a =>
    if s.host.supportsInteractivity then asAction s (.action a) (tag.addClass "ac-selectable")
    else pure tag
  | none => pure tag

/-- The tag of a button before it is the button of an action. -/
def button (layout : Host.ActionLayout) (title : Value) : Tag :=
  let share := if layout.alignment = .stretch then "0 1 100%" else "0 1 auto"
  (Tag.named "a").setText (shown? title) |>.setStyle .overflow "hidden"
    |>.setStyle .whiteSpace "nowrap" |>.setStyle .textOverflow "ellipsis" |>.setStyle .flex share
    |>.addClass "ac-pushButton"

/-- The button of an action, if cards have actions at all. -/
def renderAction (s : Scene) (action : Node) : Render (Option Tag) := do
  if s.host.supportsInteractivity then
    return some (← asAction s action (button s.host.actions (titleOf action)))
  else return none

/-! ## What actions do -/

/-- Data as an attribute holds it. -/
def written (v : Value) : Except Fault String :=
  match Json.write v with
  | .ok cs => .ok (String.ofList cs)
  | .error u => .error (.unwritable u)

/-- Says where an action leads. -/
def linkAddress (action : Node) (tag : Tag) : Render Tag := do
  let url ← match action with
    | .action (.openUrl _ _ url) => pure url.text
    | _ => shownText <$> ofExcept (member action "url")
  return tag.setAttr "data-ac-url" url

/-- Says what an action submits. -/
def linkData (action : Node) (tag : Tag) : Render Tag := do
  let data ← match action with
    | .action (.submit _ _ data) => pure data
    | _ => ofExcept (member action "data")
  return tag.setAttr "data-ac-submitData" (← ofExcept (written data))

/-- Says which card an action shows. -/
def linkCard (_ : Node) (tag : Tag) : Render Tag := do
  return tag.setAttr cardLink (← freshId)

/-- What is done to the tags of each kind of action. -/
def standardTransformers : Registry Transformer :=
  .ofList [("Action.OpenUrl", fun _ => linkAddress), ("Action.Submit", fun _ => linkData),
    ("Action.ShowCard", fun _ => linkCard)]

end Placard.Render
