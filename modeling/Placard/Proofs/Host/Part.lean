import Placard.Host.Reading
import Placard.Host.Written
import Placard.Proofs.Record.Checked

/-!
# The parts of a configuration

A configuration is a tree of named parts: single settings, and groups of parts. `configPart` is that
tree for host configurations. Of an object that gives some of the parts it says

* whether every value that is given for a setting is valid (`Part.fits`);
* whether the groups that only make sense as a whole are given as a whole (`Part.isComplete`);
* what the object makes of a configuration: the same, with what is given in place of what was there
  (`Part.overlay`).
-/

namespace Placard.Host

open Document Data Record

/-! ## Parts -/

/-- A setting, with what its valid values stand for, or a group of parts, which may have to be given
in full if it is given at all. -/
inductive Part where
  | setting (reading : Value → Option Value)
  | group (inFull : Bool) (parts : List (String × Part))

/-- What an object gives for a name, under the one spelling or the other. -/
def given? (name : String) (entries : Entries) : Option Value :=
  (find? name entries).map (·.2)

/-- What an object gives at a path of names. -/
def givenAt? : List String → Value → Option Value
  | [], v => some v
  | name :: path, .map entries => (given? name entries).bind (givenAt? path)
  | _ :: _, _ => none

/-- The member of a configuration that is there. -/
def memberOf (d : Value) (name : String) : Value :=
  (d.member? name).getD .null

/-- The entries of an object. -/
def entriesOf : Value → Entries
  | .map entries => entries
  | _ => []

/-- Whether a value is an object. -/
def isObject : Value → Bool
  | .map _ => true
  | _ => false

mutual

/-- Whether all that a value gives is valid. -/
def Part.fits : Part → Value → Bool
  | .setting reading, v => (reading v).isSome
  | .group _ parts, v => isObject v && fitAll parts (entriesOf v)

/-- Whether all that an object gives for these parts is valid. -/
def fitAll : List (String × Part) → Entries → Bool
  | [], _ => true
  | (name, part) :: parts, entries =>
    (given? name entries).all (fun w => part.fits w) && fitAll parts entries

end

mutual

/-- Whether the groups that have to be given in full are. -/
def Part.isComplete : Part → Value → Bool
  | .setting _, _ => true
  | .group inFull parts, v => areComplete inFull parts (entriesOf v)

/-- Whether the groups among these parts that have to be given in full are, and whether all parts are
given, if they have to be. -/
def areComplete (inFull : Bool) : List (String × Part) → Entries → Bool
  | [], _ => true
  | (name, part) :: parts, entries =>
    (!inFull || (given? name entries).isSome) &&
      (given? name entries).all (fun w => part.isComplete w) && areComplete inFull parts entries

end

mutual

/-- What is there, with what is given in its place. -/
def Part.overlay : Part → Value → Value → Value
  | .setting reading, d, v => (reading v).getD d
  | .group _ parts, d, v => .ofMembers (overlayAll parts d (entriesOf v))

/-- The parts that are there, each with what is given in its place, if anything is. -/
def overlayAll : List (String × Part) → Value → Entries → List (String × Value)
  | [], _, _ => []
  | (name, part) :: parts, d, entries =>
    (name, (given? name entries).elim (memberOf d name) (fun w => part.overlay (memberOf d name) w)) ::
      overlayAll parts d entries

end

/-! ## The tree -/

/-- A setting whose values are read and written like this. -/
def settingOf {α : Type} (read : Value → Checked α) (write : α → Value) : Part :=
  .setting fun v => (read v).toOption.map write

/-- A whole number. -/
def wholePart : Part := settingOf whole .int

/-- A whole number that is not negative. -/
def countPart : Part := settingOf count fun n => .int n

/-- A text. -/
def textPart : Part := settingOf text .text

/-- A switch. -/
def switchPart : Part := settingOf switch .bool

/-- One of some keywords. -/
def keywordPart (α : Type) [Keyword α] : Part := settingOf (Keyword.read (α := α)) keywordData

/-- Font sizes. -/
def fontSizesPart : Part :=
  .group false [("small", wholePart), ("default", wholePart), ("medium", wholePart),
    ("large", wholePart), ("extraLarge", wholePart)]

/-- Spacings. -/
def spacingsPart : Part :=
  .group false [("small", wholePart), ("default", wholePart), ("medium", wholePart),
    ("large", wholePart), ("extraLarge", wholePart), ("padding", wholePart)]

/-- A separating line. -/
def separatorPart : Part :=
  .group false [("lineThickness", wholePart), ("lineColor", textPart)]

/-- Widths of images. -/
def imageSizesPart : Part :=
  .group false [("small", wholePart), ("medium", wholePart), ("large", wholePart)]

/-- A colour, which is given with its subtle variant or not at all. -/
def colorPart : Part :=
  .group true [("default", textPart), ("subtle", textPart)]

/-- The colours of text. -/
def foregroundColorsPart : Part :=
  .group false [("default", colorPart), ("dark", colorPart), ("light", colorPart),
    ("accent", colorPart), ("good", colorPart), ("warning", colorPart), ("attention", colorPart)]

/-- The colours of a container. -/
def containerStylePart : Part :=
  .group false [("backgroundColor", textPart), ("foregroundColors", foregroundColorsPart)]

/-- The styles of containers. -/
def containerStylesPart : Part :=
  .group false [("default", containerStylePart)]

/-- How titles or values are written. -/
def factTextPart : Part :=
  .group false [("size", keywordPart TextSize), ("weight", keywordPart TextWeight),
    ("color", keywordPart TextColor), ("isSubtle", switchPart), ("wrap", switchPart),
    ("maxWidth", wholePart)]

/-- How facts are laid out. -/
def factSetPart : Part :=
  .group false [("title", factTextPart), ("value", factTextPart), ("spacing", wholePart)]

/-- How shown cards are set off. -/
def showCardPart : Part :=
  .group false [("inlineTopMargin", wholePart)]

/-- How actions are laid out. -/
def actionsPart : Part :=
  .group false [("maxActions", countPart), ("spacing", keywordPart Spacing),
    ("buttonSpacing", countPart), ("actionsOrientation", keywordPart Orientation),
    ("actionAlignment", keywordPart Placement), ("showCard", showCardPart)]

/-- A host configuration. -/
def configPart : Part :=
  .group false [("fontFamily", settingOf (optional text) .ofText?),
    ("supportsInteractivity", switchPart), ("fontSizes", fontSizesPart),
    ("spacing", spacingsPart), ("separator", separatorPart), ("imageSizes", imageSizesPart),
    ("containerStyles", containerStylesPart), ("factSet", factSetPart), ("actions", actionsPart)]

end Placard.Host
