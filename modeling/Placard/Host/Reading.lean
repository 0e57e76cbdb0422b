import Placard.Host.Config
import Placard.Record.Field

/-!
# Reading host configurations

A configuration is read from plain data, section by section. A section that is given in part takes
the rest from the defaults of its own kind, which need not be the defaults of the place where it
stands.
-/

namespace Placard.Host

open Placard.Document Placard.Record

/-- Font sizes. -/
def readFontSizes (entries : Entries) : Checked FontSizes :=
  FontSizes.mk <$> field entries "small" whole 12 <*> field entries "default" whole 14 <*>
    field entries "medium" whole 17 <*> field entries "large" whole 21 <*>
    field entries "extraLarge" whole 26

/-- Spacings. -/
def readSpacings (entries : Entries) : Checked Spacings :=
  Spacings.mk <$> field entries "small" whole 3 <*> field entries "default" whole 8 <*>
    field entries "medium" whole 20 <*> field entries "large" whole 30 <*>
    field entries "extraLarge" whole 40 <*> field entries "padding" whole 20

/-- A separating line. -/
def readSeparator (entries : Entries) : Checked Separator :=
  Separator.mk <$> field entries "lineThickness" whole 1 <*>
    field entries "lineColor" text "#B2000000"

/-- Widths of images. -/
def readImageSizes (entries : Entries) : Checked ImageSizes :=
  ImageSizes.mk <$> field entries "small" whole 40 <*> field entries "medium" whole 80 <*>
    field entries "large" whole 160

/-- A colour and its subtle variant, both of which have to be there. -/
def readColorPair (entries : Entries) : Checked ColorPair :=
  ColorPair.mk <$> required entries "default" text <*> required entries "subtle" text

/-- The colours of text. -/
def readForegroundColors (entries : Entries) : Checked ForegroundColors :=
  let defaults : ForegroundColors := {}
  let colors := record "ColorConfig" readColorPair
  ForegroundColors.mk <$> field entries "default" colors defaults.default <*>
    field entries "dark" colors defaults.dark <*> field entries "light" colors defaults.light <*>
    field entries "accent" colors defaults.accent <*> field entries "good" colors defaults.good <*>
    field entries "warning" colors defaults.warning <*>
    field entries "attention" colors defaults.attention

/-- The colours of a container. -/
def readContainerStyle (entries : Entries) : Checked ContainerStyle :=
  ContainerStyle.mk <$> field entries "backgroundColor" text "#FFFFFFFF" <*>
    field entries "foregroundColors" (record "ForegroundColorsConfig" readForegroundColors) {}

/-- The styles of containers. -/
def readContainerStyles (entries : Entries) : Checked ContainerStyles :=
  ContainerStyles.mk <$>
    field entries "default" (record "ContainerStyleConfig" readContainerStyle) {}

/-- How titles or values are written. -/
def readFactText (entries : Entries) : Checked FactText :=
  FactText.mk <$> field entries "size" Keyword.read .default <*>
    field entries "weight" Keyword.read .default <*>
    field entries "color" Keyword.read .default <*> field entries "isSubtle" switch false <*>
    field entries "wrap" switch true <*> field entries "maxWidth" whole 0

/-- How facts are laid out. -/
def readFactSetLayout (entries : Entries) : Checked FactSetLayout :=
  let defaults : FactSetLayout := {}
  let texts := record "FactSetTextConfig" readFactText
  FactSetLayout.mk <$> field entries "title" texts defaults.title <*>
    field entries "value" texts defaults.value <*> field entries "spacing" whole 10

/-- How shown cards are set off. -/
def readShowCardLayout (entries : Entries) : Checked ShowCardLayout :=
  ShowCardLayout.mk <$> field entries "inlineTopMargin" whole 16

/-- How actions are laid out. -/
def readActionLayout (entries : Entries) : Checked ActionLayout :=
  ActionLayout.mk <$> field entries "maxActions" count 5 <*>
    field entries "spacing" Keyword.read .default <*> field entries "buttonSpacing" count 10 <*>
    field entries "actionsOrientation" Keyword.read .horizontal <*>
    field entries "actionAlignment" Keyword.read .stretch <*>
    field entries "showCard" (record "ShowCardConfig" readShowCardLayout) {}

/-- The entries of a whole configuration. -/
def readConfigEntries (entries : Entries) : Checked Config :=
  Config.mk <$> field entries "fontFamily" (optional text) (some "Segoe UI") <*>
    field entries "supportsInteractivity" switch true <*>
    field entries "fontSizes" (record "FontSizesConfig" readFontSizes) {} <*>
    field entries "spacing" (record "SpacingsConfig" readSpacings) {} <*>
    field entries "separator" (record "SeparatorConfig" readSeparator) {} <*>
    field entries "imageSizes" (record "ImageSizesConfig" readImageSizes) {} <*>
    field entries "containerStyles" (record "ContainerStylesConfig" readContainerStyles) {} <*>
    field entries "factSet" (record "FactSetConfig" readFactSetLayout) {} <*>
    field entries "actions" (record "ActionsConfig" readActionLayout) {}

/-- A configuration. -/
def readConfig : Data.Value → Checked Config :=
  record "HostConfig" readConfigEntries

end Placard.Host
