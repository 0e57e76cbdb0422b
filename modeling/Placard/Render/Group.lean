import Placard.Render.Action
import Placard.Render.Share

/-!
# Cards, containers and columns

A card, a container and a column stack their elements. A column set puts its columns side by side,
with a separator before each but the first that shows.
-/

namespace Placard.Render

open Placard.Document

/-- The tag of a card before its content. -/
def cardFrame (host : Host.Config) (backgroundImage : Option String) : Tag :=
  let frame := (Tag.named "div").addClass (kindClass "AdaptiveCard")
    |>.setStyle .width "100%"
    |>.setStyle .backgroundColor (Host.cssColor host.containerStyles.default.backgroundColor)
    |>.setStyle .padding (pixels host.spacing.padding)
    |>.setStyle .boxSizing "border-box"
  let frame := match host.fontFamily.filter (!·.isEmpty) with
    | some family => frame.setStyle .fontFamily family
    | none => frame
  match backgroundImage.filter (!·.isEmpty) with
  | some url =>
    frame.setStyle .backgroundImage ("url('" ++ url ++ "')")
      |>.setStyle .backgroundRepeat "no-repeat" |>.setStyle .backgroundSize "cover"
  | none => frame

/-- The tag of a card. -/
def renderCard (s : Scene) (c : Card) : Render (Option Tag) := do
  let tag ← addElements s (cardFrame s.host c.backgroundImage) c.body
  return some (← addStrip s tag c.actions)

/-- The tag of a stack of elements, of a kind, that may be selected. -/
def renderStack (s : Scene) (kind : String) (items : List Element) (action : Option Action) :
    Render (Option Tag) := do
  let tag ← addElements s ((Tag.named "div").addClass (kindClass kind)) items
  return some (← selectable s action tag)

/-- The tag of a container. -/
def renderContainer (s : Scene) (c : Container) : Render (Option Tag) :=
  renderStack s "Container" c.items c.selectAction

/-- The tag of a column. -/
def renderColumn (s : Scene) (c : Column) : Render (Option Tag) :=
  renderStack s "Column" c.items c.selectAction

/-- A row with a column more. -/
def addColumn (s : Scene) (total : Number.Double) (row : Tag) (c : Column) : Render Tag := do
  match ← s.render (.element (.column c)) with
  | none => return row
  | some tag =>
    let width ← ofExcept (flex total c)
    return appendSeparated (columnSeparator? s.host c.frame) row (tag.setStyle .flex width)

/-- A row with columns more. -/
def addColumns (s : Scene) (total : Number.Double) : Tag → List Column → Render Tag
  | row, [] => pure row
  | row, c :: cs => do addColumns s total (← addColumn s total row c) cs

/-- A row without columns. -/
def emptyRow : Tag :=
  (Tag.named "div").addClass (kindClass "ColumnSet") |>.setStyle .overflow "hidden"
    |>.setStyle .display "flex"

/-- The tag of a row of columns. -/
def renderColumnSet (s : Scene) (c : ColumnSet) : Render (Option Tag) := do
  let row ← selectable s c.selectAction emptyRow
  return some (← addColumns s (totalWeight c.columns) row c.columns)

end Placard.Render
