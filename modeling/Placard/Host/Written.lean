import Placard.Document.Written
import Placard.Host.Config

/-!
# Host configurations as data

A configuration is written in full, section by section, as `Host.readConfig` reads it.
-/

namespace Placard.Host

open Placard.Document Placard.Data

/-- Font sizes as data. -/
def FontSizes.toData (f : FontSizes) : Value :=
  .ofMembers [("small", .int f.small), ("default", .int f.default), ("medium", .int f.medium),
    ("large", .int f.large), ("extraLarge", .int f.extraLarge)]

/-- Spacings as data. -/
def Spacings.toData (s : Spacings) : Value :=
  .ofMembers [("small", .int s.small), ("default", .int s.default), ("medium", .int s.medium),
    ("large", .int s.large), ("extraLarge", .int s.extraLarge), ("padding", .int s.padding)]

/-- A separating line as data. -/
def Separator.toData (s : Separator) : Value :=
  .ofMembers [("lineThickness", .int s.lineThickness), ("lineColor", .text s.lineColor)]

/-- Widths of images as data. -/
def ImageSizes.toData (s : ImageSizes) : Value :=
  .ofMembers [("small", .int s.small), ("medium", .int s.medium), ("large", .int s.large)]

/-- A colour and its subtle variant as data. -/
def ColorPair.toData (c : ColorPair) : Value :=
  .ofMembers [("default", .text c.default), ("subtle", .text c.subtle)]

/-- The colours of text as data. -/
def ForegroundColors.toData (c : ForegroundColors) : Value :=
  .ofMembers [("default", c.default.toData), ("dark", c.dark.toData), ("light", c.light.toData),
    ("accent", c.accent.toData), ("good", c.good.toData), ("warning", c.warning.toData),
    ("attention", c.attention.toData)]

/-- The colours of a container as data. -/
def ContainerStyle.toData (s : ContainerStyle) : Value :=
  .ofMembers [("backgroundColor", .text s.backgroundColor),
    ("foregroundColors", s.foregroundColors.toData)]

/-- The styles of containers as data. -/
def ContainerStyles.toData (s : ContainerStyles) : Value :=
  .ofMembers [("default", s.default.toData)]

/-- How titles or values are written, as data. -/
def FactText.toData (f : FactText) : Value :=
  .ofMembers [("size", keywordData f.size), ("weight", keywordData f.weight),
    ("color", keywordData f.color), ("isSubtle", .bool f.isSubtle), ("wrap", .bool f.wrap),
    ("maxWidth", .int f.maxWidth)]

/-- How facts are laid out, as data. -/
def FactSetLayout.toData (f : FactSetLayout) : Value :=
  .ofMembers [("title", f.title.toData), ("value", f.value.toData), ("spacing", .int f.spacing)]

/-- How shown cards are set off, as data. -/
def ShowCardLayout.toData (s : ShowCardLayout) : Value :=
  .ofMembers [("inlineTopMargin", .int s.inlineTopMargin)]

/-- How actions are laid out, as data. -/
def ActionLayout.toData (a : ActionLayout) : Value :=
  .ofMembers [("maxActions", .int a.maxActions), ("spacing", keywordData a.spacing),
    ("buttonSpacing", .int a.buttonSpacing), ("actionsOrientation", keywordData a.orientation),
    ("actionAlignment", keywordData a.alignment), ("showCard", a.showCard.toData)]

/-- A configuration as data. -/
def Config.toData (c : Config) : Value :=
  .ofMembers [("fontFamily", .ofText? c.fontFamily),
    ("supportsInteractivity", .bool c.supportsInteractivity), ("fontSizes", c.fontSizes.toData),
    ("spacing", c.spacing.toData), ("separator", c.separator.toData),
    ("imageSizes", c.imageSizes.toData), ("containerStyles", c.containerStyles.toData),
    ("factSet", c.factSet.toData), ("actions", c.actions.toData)]

end Placard.Host
