/-!
# Style properties

The CSS properties that rendered tags may set inline. Nothing else can be set, so a name that comes
from outside has to be looked up first.
-/

namespace Placard

/-- A CSS property that a tag may set. -/
inductive Property where
  | alignItems
  | backgroundColor
  | backgroundImage
  | backgroundPosition
  | backgroundRepeat
  | backgroundSize
  | borderLeftColor
  | borderLeftStyle
  | borderLeftWidth
  | borderRadius
  | borderTopColor
  | borderTopStyle
  | borderTopWidth
  | boxSizing
  | color
  | display
  | flex
  | flexDirection
  | fontFamily
  | fontSize
  | fontWeight
  | height
  | justifyContent
  | lineHeight
  | margin
  | marginBottom
  | marginLeft
  | marginRight
  | marginTop
  | maxHeight
  | maxWidth
  | overflow
  | padding
  | paddingLeft
  | paddingTop
  | textAlign
  | textOverflow
  | verticalAlign
  | whiteSpace
  | width
  | wordWrap
deriving DecidableEq

namespace Property

/-- The name of the property in CSS. -/
def name : Property → String
  | alignItems => "align-items"
  | backgroundColor => "background-color"
  | backgroundImage => "background-image"
  | backgroundPosition => "background-position"
  | backgroundRepeat => "background-repeat"
  | backgroundSize => "background-size"
  | borderLeftColor => "border-left-color"
  | borderLeftStyle => "border-left-style"
  | borderLeftWidth => "border-left-width"
  | borderRadius => "border-radius"
  | borderTopColor => "border-top-color"
  | borderTopStyle => "border-top-style"
  | borderTopWidth => "border-top-width"
  | boxSizing => "box-sizing"
  | color => "color"
  | display => "display"
  | flex => "flex"
  | flexDirection => "flex-direction"
  | fontFamily => "font-family"
  | fontSize => "font-size"
  | fontWeight => "font-weight"
  | height => "height"
  | justifyContent => "justify-content"
  | lineHeight => "line-height"
  | margin => "margin"
  | marginBottom => "margin-bottom"
  | marginLeft => "margin-left"
  | marginRight => "margin-right"
  | marginTop => "margin-top"
  | maxHeight => "max-height"
  | maxWidth => "max-width"
  | overflow => "overflow"
  | padding => "padding"
  | paddingLeft => "padding-left"
  | paddingTop => "padding-top"
  | textAlign => "text-align"
  | textOverflow => "text-overflow"
  | verticalAlign => "vertical-align"
  | whiteSpace => "white-space"
  | width => "width"
  | wordWrap => "word-wrap"

/-- All properties, in the order of their names. -/
def all : List Property :=
  [.alignItems, .backgroundColor, .backgroundImage, .backgroundPosition, .backgroundRepeat,
    .backgroundSize, .borderLeftColor, .borderLeftStyle, .borderLeftWidth, .borderRadius,
    .borderTopColor, .borderTopStyle, .borderTopWidth, .boxSizing, .color, .display, .flex,
    .flexDirection, .fontFamily, .fontSize, .fontWeight, .height, .justifyContent, .lineHeight,
    .margin, .marginBottom, .marginLeft, .marginRight, .marginTop, .maxHeight, .maxWidth,
    .overflow, .padding, .paddingLeft, .paddingTop, .textAlign, .textOverflow, .verticalAlign,
    .whiteSpace, .width, .wordWrap]

/-- The property with a name. -/
def ofName? (name : String) : Option Property :=
  all.find? fun p => p.name == name

end Property

end Placard
