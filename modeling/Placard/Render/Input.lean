import Placard.Number.Fixed
import Placard.Render.Action

/-!
# Inputs

An input submits its value under the name of its node. Choices and toggles have labels beside their
controls, which are joined to them by fresh ids.
-/

namespace Placard.Render

open Placard.Text Placard.Number Placard.Document

/-! ## Labels -/

/-- The label of the control with an id. -/
def label (s : Scene) (id text : String) : Tag :=
  (Tag.named "label").setText (some text) |>.setAttr "for" id
    |>.setStyle .color (s.textColor .default false)
    |>.setStyle .fontSize (pixels s.host.fontSizes.default)
    |>.setStyle .display "inline-block" |>.setStyle .marginLeft "6px"
    |>.setStyle .verticalAlign "middle"

/-- The name that an input submits its value under. -/
def submitName (f : Frame) : String :=
  f.id.getD ""

/-- A tag with an attribute set to a text, unless that is missing or empty. -/
def setFilled (name : String) (value : Option String) (t : Tag) : Tag :=
  match value.filter (!·.isEmpty) with
  | some text => t.setAttr name text
  | none => t

/-! ## Choices -/

/-- The values in a list with commas between them, without blank ones. -/
def chosenValues (value : Option String) : List String :=
  ((cutAt ',' ((value.getD "").toList)).map trim).filter (!·.isEmpty) |>.map String.ofList

/-- What a choice is clicked in. -/
inductive Control where
  | radio
  | checkbox
deriving DecidableEq

/-- The name of a control. -/
def Control.name : Control → String
  | .radio => "radio"
  | .checkbox => "checkbox"

/-- The control of a choice. -/
def choiceControl (control : Control) (name id : String) (chosen : List String) (c : Choice) :
    Tag :=
  let t := (Tag.named "input").setAttr "id" id |>.setAttr "type" control.name
    |>.setAttr "name" name |>.setAttr "value" c.value |>.setStyle .margin "0px"
    |>.setStyle .display "inline-block" |>.setStyle .verticalAlign "middle"
  if chosen.contains c.value then t.setAttr "checked" "" else t

/-- A choice with its control and its label. -/
def choiceRow (s : Scene) (control : Control) (name : String) (chosen : List String) (c : Choice) :
    Render Tag := do
  let id ← freshId
  return ((Tag.named "div").append (choiceControl control name id chosen c)).append
    (label s id c.title)

/-- The block that holds a list of controls. -/
def inputBlock : Tag :=
  (Tag.named "div").addClass "ac-input" |>.setStyle .width "100%"

/-- A list of choices with a control each. -/
def choiceList (s : Scene) (c : ChoiceSet) (control : Control) : Render Tag := do
  let rows ← c.choices.mapM
    (choiceRow s control (submitName c.frame) (chosenValues c.value))
  return inputBlock.appendAll rows

/-- An option of a menu. -/
def menuOption (value : Option String) (c : Choice) : Tag :=
  let t := (Tag.named "option").setText (some c.title) |>.setAttr "value" c.value
  if value = some c.value then t.setAttr "selected" "" else t

/-- A menu without options. -/
def emptyMenu (name : String) : Tag :=
  (Tag.named "select").setAttr "name" name |>.addClass "ac-input"
    |>.addClass "ac-multichoiceInput" |>.setStyle .width "100%"

/-- A menu of choices. -/
def menu (c : ChoiceSet) : Tag :=
  (emptyMenu (submitName c.frame)).appendAll (c.choices.map (menuOption c.value))

/-- The tag of a choice set: checkboxes for several choices; a menu or radio buttons for one. -/
def renderChoiceSet (s : Scene) (c : ChoiceSet) : Render (Option Tag) := do
  if c.isMultiSelect then return some (← choiceList s c .checkbox)
  else
    match c.style with
    | .compact => return some (menu c)
    | .expanded => return some (← choiceList s c .radio)

/-! ## Single values -/

/-- The tag of an input of text. -/
def textInputTag (i : TextInput) : Tag :=
  let t :=
    if i.isMultiline then
      match i.value.filter (!·.isEmpty) with
      | some text => (Tag.named "textarea").setText (some text)
      | none => Tag.named "textarea"
    else setFilled "value" i.value ((Tag.named "input").setAttr "type" "text")
  let t := t.setAttr "name" (submitName i.frame) |>.addClass "ac-textinput"
    |>.addClass "ac-input" |>.setStyle .width "100%"
  let t := setFilled "placeholder" i.placeholder t
  if i.maxLength = 0 then t
  else t.setAttr "maxLength" (String.ofList (natText i.maxLength))

/-- A tag with an attribute set to a number, unless there is none. -/
def setNumber (name : String) (x : Option Double) (t : Tag) : Tag :=
  match x with
  | none => t
  | some .nan => t
  | some x => t.setAttr name (String.ofList (plainText x))

/-- The tag of an input of a number. -/
def numberInputTag (i : NumberInput) : Tag :=
  let t := (Tag.named "input").setAttr "name" (submitName i.frame) |>.addClass "ac-input"
    |>.addClass "ac-numberInput" |>.setAttr "type" "number" |>.setStyle .width "100%"
  setFilled "placeholder" i.placeholder
    (setNumber "value" i.value (setNumber "max" i.max (setNumber "min" i.min t)))

/-- The tag of an input of a date or a time. -/
def pickerTag (type className : String) (p : Picker) : Tag :=
  let t := (Tag.named "input").setAttr "type" type |>.setAttr "name" (submitName p.frame)
    |>.addClass "ac-input" |>.addClass className |>.setStyle .width "100%"
  setFilled "placeholder" p.placeholder
    (setFilled "max" p.max (setFilled "min" p.min (setFilled "value" p.value t)))

/-! ## Toggles -/

/-- The control of a toggle. -/
def toggleControl (id name on off : String) (isOn : Bool) : Tag :=
  let t := (Tag.named "input").setAttr "id" id |>.setAttr "type" "checkbox"
    |>.setAttr "name" name |>.setAttr "data-ac-valueOn" on |>.setAttr "data-ac-valueOff" off
    |>.setStyle .display "inline-block" |>.setStyle .verticalAlign "middle"
    |>.setStyle .margin "0px"
  if isOn then t.setAttr "checked" "" else t

/-- The tag of a toggle. It is on if its value is the one for that. -/
def renderToggle (s : Scene) (t : Toggle) : Render (Option Tag) := do
  let id ← freshId
  let on := t.valueOn.getD "True"
  let off := t.valueOff.getD "False"
  let control := toggleControl id (submitName t.frame) on off (t.value == some on)
  return some ((inputBlock.append control).append (label s id t.title))

end Placard.Render
