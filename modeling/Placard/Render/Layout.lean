import Placard.Render.Pixels
import Placard.Render.Scene

/-!
# Laying out elements and actions

Elements stand below each other with a separator before each but the first, unless the element asks
for none. Below them comes the strip of actions, and then the cards that actions show, which are
hidden at first.

An element or an action that does not show leaves nothing behind: neither a separator nor a space.
-/

namespace Placard.Render

open Placard.Document

/-! ## Separators -/

/-- What stands before an element that has others before it: a line with half of the spacing above
and below it, or an empty space, or nothing. -/
def separator? (host : Host.Config) (spacing : Spacing) (line : Bool) : Option Tag :=
  let space := host.spacing.pixels spacing
  let rule := (Tag.named "hr").addClass "ac-separator"
  if line then
    let half := pixels (space.fdiv 2)
    some (rule |>.setStyle .paddingTop half |>.setStyle .marginTop half
      |>.setStyle .borderTopColor (Host.cssColor host.separator.lineColor)
      |>.setStyle .borderTopWidth (pixels host.separator.lineThickness)
      |>.setStyle .borderTopStyle "solid")
  else if spacing = .none then none
  else some (rule.setStyle .height (pixels space))

/-- What stands before a column that has others before it: a border with half of the spacing on both
sides, which is seen only if the column asks for a line, or nothing. -/
def columnSeparator? (host : Host.Config) (frame : Frame) : Option Tag :=
  if !frame.separator && frame.spacing = .none then none
  else
    let half := pixels ((host.spacing.pixels frame.spacing).fdiv 2)
    let thickness := if frame.separator then host.separator.lineThickness else 0
    some ((Tag.named "div").addClass "ac-columnseparator" |>.setStyle .flex "0 0 auto"
      |>.setStyle .paddingLeft half |>.setStyle .marginLeft half
      |>.setStyle .borderLeftColor (Host.cssColor host.separator.lineColor)
      |>.setStyle .borderLeftWidth (pixels thickness) |>.setStyle .borderLeftStyle "solid")

/-! ## Elements -/

/-- A container with a tag more, and before it a separator if there are others. -/
def appendSeparated (separator : Option Tag) (container tag : Tag) : Tag :=
  let container :=
    if container.children.isEmpty then container else container.appendAll separator.toList
  container.append tag

/-- A container with an element more. -/
def addElement (s : Scene) (container : Tag) (e : Element) : Render Tag := do
  match ← s.render (.element e) with
  | none => return container
  | some tag =>
    return appendSeparated (separator? s.host e.frame.spacing e.frame.separator) container tag

/-- A container with elements more. -/
def addElements (s : Scene) : Tag → List Element → Render Tag
  | container, [] => pure container
  | container, e :: es => do addElements s (← addElement s container e) es

/-! ## Actions -/

/-- The attribute that leads from the button of an action to the card it shows. -/
def cardLink : String :=
  "data-ac-showCardId"

/-- A strip of actions and the cards that they show. -/
structure Strip where
  bar : Tag
  cards : List Tag

/-- Where the actions of a row are placed. -/
def justification : Placement → String
  | .left => "flex-start"
  | .center => "center"
  | .right => "flex-end"
  | .stretch => "flex-start"

/-- Where the actions of a pile are placed. -/
def crossAlignment : Placement → String
  | .left => "flex-start"
  | .center => "center"
  | .right => "flex-end"
  | .stretch => "stretch"

/-- A strip without actions. -/
def emptyBar (layout : Host.ActionLayout) : Tag :=
  let bar := (Tag.named "div").addClass "ac-actionset" |>.setStyle .display "flex"
  match layout.orientation with
  | .horizontal =>
    bar.setStyle .flexDirection "row"
      |>.setStyle .justifyContent (justification layout.alignment)
  | .vertical =>
    bar.setStyle .flexDirection "column"
      |>.setStyle .alignItems (crossAlignment layout.alignment)

/-- The space between two actions. -/
def gap (layout : Host.ActionLayout) : Tag :=
  let size := pixels layout.buttonSpacing
  match layout.orientation with
  | .horizontal => (Tag.named "div").setStyle .flex "0 0 auto" |>.setStyle .width size
  | .vertical => (Tag.named "div").setStyle .height size

/-- A strip with a button more. -/
def appendButton (layout : Host.ActionLayout) (bar button : Tag) : Tag :=
  let bar :=
    if !bar.children.isEmpty && 0 < layout.buttonSpacing then bar.append (gap layout) else bar
  bar.append button

/-- The tag of a card that the action with this button shows. -/
def shownCard (layout : Host.ActionLayout) (button tag : Tag) : Tag :=
  tag.setAttr "id" ((button.attr? cardLink).getD "") |>.addClass "ac-showCard"
    |>.setStyle .padding "0" |>.setStyle .display "none"
    |>.setStyle .marginTop (pixels layout.showCard.inlineTopMargin)

/-- The card that an action shows. -/
def cardOf? : Action → Option Card
  | .showCard _ _ card => card
  | _ => none

/-- A strip with an action more. -/
def addAction (s : Scene) (strip : Strip) (a : Action) : Render Strip := do
  let layout := s.host.actions
  match ← s.render (.action a) with
  | none => return strip
  | some button =>
    let tag ← match cardOf? a with
      | some card => s.render (.element (.card card))
      | none => pure none
    return { bar := appendButton layout strip.bar button
             cards := strip.cards ++ (tag.map (shownCard layout button)).toList }

/-- A strip with actions more. -/
def addActions (s : Scene) : Strip → List Action → Render Strip
  | strip, [] => pure strip
  | strip, a :: as => do addActions s (← addAction s strip a) as

/-- The strip of as many actions as the host shows. -/
def stripOf (s : Scene) (actions : List Action) : Render Strip :=
  addActions s { bar := emptyBar s.host.actions, cards := [] }
    (actions.take s.host.actions.maxActions)

/-- A container with a strip below its elements, if the strip has any actions, and the cards. -/
def appendStrip (host : Host.Config) (container : Tag) (strip : Strip) : Tag :=
  let container :=
    if strip.bar.children.isEmpty then container
    else
      (container.appendAll (separator? host host.actions.spacing false).toList).append strip.bar
  container.appendAll strip.cards

/-- A container with actions more, if cards have actions at all. -/
def addStrip (s : Scene) (container : Tag) (actions : List Action) : Render Tag := do
  if s.host.supportsInteractivity then
    return appendStrip s.host container (← stripOf s actions)
  else return container

end Placard.Render
