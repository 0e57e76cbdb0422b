import Placard.Data.Shown
import Placard.Record.Field

/-!
# Keywords

Many fields take one of a few keywords, in any letter case. Each set of keywords is a type of its
own; `Keyword` says how its members are written.
-/

namespace Placard.Document

open Placard.Text Placard.Data Placard.Record

/-- A set of keywords. -/
class Keyword (α : Type) where
  /-- what messages call the set -/
  setName : String
  /-- the members, in order -/
  all : List α
  /-- how a member is written -/
  text : α → String

namespace Keyword

variable {α : Type} [Keyword α]

/-- The member that a text names, whatever the case of its letters. -/
def ofText? (s : String) : Option α :=
  (all (α := α)).find? fun k => lowered (text k) == lowered s

/-- The name of a member in capitals, its words joined by low lines. -/
def constantName (k : α) : String :=
  String.ofList (upper (lowLined (text k)).toList)

/-- The wording for a value that is none of the keywords. -/
def notMember (α : Type) [Keyword α] (v : Value) : String :=
  String.ofList (spelled v) ++ " is not a valid " ++ setName α

/-- The value of a keyword field. Octets have to be written exactly. -/
def read (v : Value) : Checked α :=
  let found : Option α := match v with
    | .text s => ofText? s
    | .bytes bs => (all (α := α)).find? fun k => some (text k) == decoded? bs
    | _ => none
  match found with
  | some k => .good k
  | none => .complain (.notAmong ((all (α := α)).map text))

end Keyword

/-- The space before a node. -/
inductive Spacing where
  | none
  | small
  | default
  | medium
  | large
  | extraLarge
  | padding
deriving DecidableEq

/-- Where content or a strip of actions is placed on its line. -/
inductive Placement where
  | left
  | center
  | right
  | stretch
deriving DecidableEq

/-- The size of text. -/
inductive TextSize where
  | default
  | small
  | medium
  | large
  | extraLarge
deriving DecidableEq

/-- The weight of text. -/
inductive TextWeight where
  | default
  | lighter
  | bolder
deriving DecidableEq

/-- The colour of text, by its meaning. -/
inductive TextColor where
  | default
  | dark
  | light
  | accent
  | good
  | warning
  | attention
deriving DecidableEq

/-- The size of an image. -/
inductive ImageSize where
  | auto
  | stretch
  | small
  | medium
  | large
deriving DecidableEq

/-- How an image is presented. -/
inductive ImageStyle where
  | default
  | person
deriving DecidableEq

/-- How a choice set is presented. -/
inductive ChoiceStyle where
  | compact
  | expanded
deriving DecidableEq

/-- The direction of a strip of actions. -/
inductive Orientation where
  | horizontal
  | vertical
deriving DecidableEq

instance : Keyword Spacing where
  setName := "Spacing"
  all := [.none, .small, .default, .medium, .large, .extraLarge, .padding]
  text
    | .none => "none"
    | .small => "small"
    | .default => "default"
    | .medium => "medium"
    | .large => "large"
    | .extraLarge => "extraLarge"
    | .padding => "padding"

instance : Keyword Placement where
  setName := "HorizontalAlignment"
  all := [.left, .center, .right, .stretch]
  text
    | .left => "left"
    | .center => "center"
    | .right => "right"
    | .stretch => "stretch"

instance : Keyword TextSize where
  setName := "TextSize"
  all := [.default, .small, .medium, .large, .extraLarge]
  text
    | .default => "default"
    | .small => "small"
    | .medium => "medium"
    | .large => "large"
    | .extraLarge => "extraLarge"

instance : Keyword TextWeight where
  setName := "TextWeight"
  all := [.default, .lighter, .bolder]
  text
    | .default => "default"
    | .lighter => "lighter"
    | .bolder => "bolder"

instance : Keyword TextColor where
  setName := "TextColor"
  all := [.default, .dark, .light, .accent, .good, .warning, .attention]
  text
    | .default => "default"
    | .dark => "dark"
    | .light => "light"
    | .accent => "accent"
    | .good => "good"
    | .warning => "warning"
    | .attention => "attention"

instance : Keyword ImageSize where
  setName := "ImageSize"
  all := [.auto, .stretch, .small, .medium, .large]
  text
    | .auto => "auto"
    | .stretch => "stretch"
    | .small => "small"
    | .medium => "medium"
    | .large => "large"

instance : Keyword ImageStyle where
  setName := "ImageStyle"
  all := [.default, .person]
  text
    | .default => "default"
    | .person => "person"

instance : Keyword ChoiceStyle where
  setName := "ChoiceInputStyle"
  all := [.compact, .expanded]
  text
    | .compact => "compact"
    | .expanded => "expanded"

instance : Keyword Orientation where
  setName := "ActionsOrientation"
  all := [.horizontal, .vertical]
  text
    | .horizontal => "horizontal"
    | .vertical => "vertical"

end Placard.Document
