import Placard.Document.Keyword

/-!
# Host configurations

The host decides how cards look: fonts, spacings, colours, the sizes of images, and how facts and
actions are laid out. A configuration is complete; what a host leaves out has the default given
here.
-/

namespace Placard.Host

open Placard.Document

/-- Font sizes in pixels. -/
structure FontSizes where
  small : Int := 12
  default : Int := 14
  medium : Int := 17
  large : Int := 21
  extraLarge : Int := 26
deriving DecidableEq

/-- Spacings in pixels. -/
structure Spacings where
  small : Int := 3
  default : Int := 8
  medium : Int := 20
  large : Int := 30
  extraLarge : Int := 40
  /-- the space around the content of a card as well -/
  padding : Int := 20
deriving DecidableEq

/-- The line that separates elements. -/
structure Separator where
  lineThickness : Int := 1
  lineColor : String := "#B2000000"
deriving DecidableEq

/-- Widths of images in pixels. -/
structure ImageSizes where
  small : Int := 40
  medium : Int := 80
  large : Int := 160
deriving DecidableEq

/-- A colour and its subtle variant. -/
structure ColorPair where
  default : String
  subtle : String
deriving DecidableEq

/-- The colours of text by their meaning. -/
structure ForegroundColors where
  default : ColorPair := ⟨"#FF000000", "#B2000000"⟩
  dark : ColorPair := ⟨"#FF101010", "#B2101010"⟩
  light : ColorPair := ⟨"#FFFFFFFF", "#B2FFFFFF"⟩
  accent : ColorPair := ⟨"#FF0000FF", "#B20000FF"⟩
  good : ColorPair := ⟨"#FF008000", "#B2008000"⟩
  warning : ColorPair := ⟨"#FFFFD700", "#B2FFD700"⟩
  attention : ColorPair := ⟨"#FF8B0000", "#B28B0000"⟩
deriving DecidableEq

/-- The colours of a container. -/
structure ContainerStyle where
  backgroundColor : String := "#FFFFFFFF"
  foregroundColors : ForegroundColors := {}
deriving DecidableEq

/-- The styles of containers. -/
structure ContainerStyles where
  default : ContainerStyle := {}
deriving DecidableEq

/-- How the titles or the values of facts are written. -/
structure FactText where
  size : TextSize := .default
  weight : TextWeight := .default
  color : TextColor := .default
  isSubtle : Bool := false
  wrap : Bool := true
  maxWidth : Int := 0
deriving DecidableEq

/-- How facts are laid out. -/
structure FactSetLayout where
  title : FactText := { weight := .bolder, maxWidth := 150 }
  value : FactText := {}
  /-- the space between a title and its value -/
  spacing : Int := 10
deriving DecidableEq

/-- How a card that an action shows is set off. -/
structure ShowCardLayout where
  inlineTopMargin : Int := 16
deriving DecidableEq

/-- How actions are laid out. -/
structure ActionLayout where
  /-- how many actions of a card are shown -/
  maxActions : Nat := 5
  /-- the space before the strip of actions -/
  spacing : Spacing := .default
  /-- the space between two actions -/
  buttonSpacing : Nat := 10
  orientation : Orientation := .horizontal
  alignment : Placement := .stretch
  showCard : ShowCardLayout := {}
deriving DecidableEq

/-- The configuration of a host. -/
structure Config where
  fontFamily : Option String := some "Segoe UI"
  /-- whether cards have actions at all -/
  supportsInteractivity : Bool := true
  fontSizes : FontSizes := {}
  spacing : Spacings := {}
  separator : Separator := {}
  imageSizes : ImageSizes := {}
  containerStyles : ContainerStyles := {}
  factSet : FactSetLayout := {}
  actions : ActionLayout := {}
deriving DecidableEq

instance : Inhabited Config := ⟨{}⟩

/-- The font size for a size of text. -/
def FontSizes.size (f : FontSizes) : TextSize → Int
  | .small => f.small
  | .default => f.default
  | .medium => f.medium
  | .large => f.large
  | .extraLarge => f.extraLarge

/-- The pixels that a spacing stands for. -/
def Spacings.pixels (s : Spacings) : Spacing → Int
  | .none => 0
  | .small => s.small
  | .default => s.default
  | .medium => s.medium
  | .large => s.large
  | .extraLarge => s.extraLarge
  | .padding => s.padding

/-- The colours for a colour of text. -/
def ForegroundColors.pair (c : ForegroundColors) : TextColor → ColorPair
  | .default => c.default
  | .dark => c.dark
  | .light => c.light
  | .accent => c.accent
  | .good => c.good
  | .warning => c.warning
  | .attention => c.attention

/-- The colour itself or its subtle variant. -/
def ColorPair.shade (c : ColorPair) (isSubtle : Bool) : String :=
  if isSubtle then c.subtle else c.default

end Placard.Host
