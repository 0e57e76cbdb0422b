import Placard.Render.Action
import Placard.Time.Function

/-!
# Text, facts and images

A text is Markdown with calls for dates and times. Its paragraphs, however deep they are nested,
lose their margins and take the full width; where lines do not wrap they are cut off with an
ellipsis.

The titles and values of facts are texts, and the images of a set are images of one size.
-/

namespace Placard.Render

open Placard.Text Placard.Number Placard.Document

/-! ## Text -/

/-- The weight of a font. -/
def fontWeight : TextWeight → String
  | .lighter => "200"
  | .default => "400"
  | .bolder => "600"

/-- The height of a line, as a multiple of the size of its font. -/
def lineRatio : Double :=
  .ofRatio false 133 100

/-- An integer as a double. -/
def toDouble (i : Int) : Except Fault Double :=
  if (Double.ofInt i).isFinite then .ok (.ofInt i) else .error .hugeInteger

/-- The styles of a paragraph. -/
def styleParagraph (wrap : Bool) (t : Tag) : Tag :=
  let t := t.setStyle .marginTop "0px" |>.setStyle .marginBottom "0px" |>.setStyle .width "100%"
  if wrap then t else t.setStyle .textOverflow "ellipsis" |>.setStyle .overflow "hidden"

/-- Whether a tag is a paragraph. -/
def isParagraph (t : Tag) : Bool :=
  lowered t.name == "p"

/-- The tag of a block of text before its content. -/
def textFrame (s : Scene) (t : TextBlock) : Except Fault Tag := do
  let size := s.host.fontSizes.size t.size
  let height := (← toDouble size).mul lineRatio
  let tag := (Tag.named "div").addClass (kindClass "TextBlock")
    |>.setStyle .boxSizing "border-box"
    |>.setStyle .textAlign (Keyword.text t.alignment)
    |>.setStyle .color (s.textColor t.color t.isSubtle)
    |>.setStyle .lineHeight (fractionalPixels height)
    |>.setStyle .fontSize (pixels size)
    |>.setStyle .fontWeight (fontWeight t.weight)
  let tag ←
    if t.maxLines = 0 then pure tag
    else do
      let all := height.mul (← toDouble t.maxLines)
      pure (tag.setStyle .maxHeight (fractionalPixels all) |>.setStyle .overflow "hidden")
  return if t.wrap then tag.setStyle .wordWrap "break-word" else tag.setStyle .whiteSpace "nowrap"

/-- The tag of a block of text. -/
def textTag (s : Scene) (t : TextBlock) : Except Fault Tag := do
  let frame ← textFrame s t
  let content ← s.convert (Time.expand t.text)
  return (frame.appendAll content).editBelow isParagraph (styleParagraph t.wrap)

/-! ## Facts -/

/-- The text that a title or a value is rendered as. -/
def factText (layout : Host.FactText) (text : String) : TextBlock where
  text := text
  size := layout.size
  weight := layout.weight
  color := layout.color
  isSubtle := layout.isSubtle
  wrap := layout.wrap

/-- The row of a fact. -/
def factRow (s : Scene) (f : Fact) : Render Tag := do
  let layout := s.host.factSet
  let title ← s.render (.element (.textBlock (factText layout.title f.title)))
  let title := title.map fun t =>
    t.addClass "ac-facttitle" |>.setStyle .marginRight (pixels layout.spacing)
  let value ← s.render (.element (.textBlock (factText layout.value f.value)))
  let value := value.map (·.addClass "ac-factvalue")
  let titleCell := (Tag.named "h3").addClass "ac-factset-titlecell" |>.setStyle .height "inherit"
    |>.setStyle .maxWidth (pixels layout.title.maxWidth) |>.appendAll title.toList
  let valueCell := (Tag.named "span").addClass "ac-factset-valuecell"
    |>.setStyle .height "inherit" |>.appendAll value.toList
  return (((Tag.named "li").setStyle .height "1px").append titleCell).append valueCell

/-- The tag of a list of facts. -/
def renderFactSet (s : Scene) (facts : FactSet) : Render (Option Tag) := do
  let rows ← facts.facts.mapM (factRow s)
  return some ((Tag.named "ul").addClass (kindClass "FactSet") |>.setStyle .overflow "hidden"
    |>.appendAll rows)

/-! ## Images -/

/-- A tag as wide as an image of a size may be. -/
def sizedFor (sizes : Host.ImageSizes) (size : ImageSize) (t : Tag) : Tag :=
  match size with
  | .auto => t.setStyle .maxWidth "100%"
  | .stretch => t.setStyle .width "100%"
  | .small => t.setStyle .maxWidth (pixels sizes.small)
  | .medium => t.setStyle .maxWidth (pixels sizes.medium)
  | .large => t.setStyle .maxWidth (pixels sizes.large)

/-- A tag with an image in it, placed on its line. -/
def placed (alignment : Placement) (t : Tag) : Tag :=
  let t := t.setStyle .overflow "hidden"
  match alignment with
  | .center => t.setStyle .marginRight "auto" |>.setStyle .marginLeft "auto"
  | .right => t.setStyle .marginLeft "auto"
  | _ => t

/-- The image itself. -/
def picture (url : String) (altText : Option String) (style : ImageStyle) : Tag :=
  let alt := (altText.filter (!·.isEmpty)).getD "card image"
  let t := (Tag.named "img").setStyle .width "100%" |>.setAttr "alt" alt |>.setAttr "src" url
  match style with
  | .default => t
  | .person =>
    t.setStyle .backgroundPosition "50% 50%" |>.setStyle .borderRadius "50%"
      |>.setStyle .backgroundRepeat "no-repeat"

/-- The frame around an image. -/
def imageFrame : Tag :=
  (Tag.named "div").addClass (kindClass "Image") |>.setStyle .display "block"
    |>.setStyle .boxSizing "border-box"

/-- The tag of an image. -/
def renderImage (s : Scene) (i : Image) : Render (Option Tag) := do
  let frame := placed i.alignment (sizedFor s.host.imageSizes i.size imageFrame)
  return some (← selectable s i.selectAction
    (frame.append (picture i.url i.altText i.style)))

/-- An image of the size that its set gives. -/
def inSet (size : ImageSize) (i : Image) : Image :=
  if size = .auto then i else { i with size := size }

/-- The tag of an image of a set, if it shows. -/
def setMember (s : Scene) (size : ImageSize) (i : Image) : Render (Option Tag) := do
  let tag ← s.render (.element (.image (inSet size i)))
  return tag.map fun t => t.setStyle .display "inline-block" |>.setStyle .marginRight "10px"

/-- The tag of a set of images. -/
def renderImageSet (s : Scene) (images : ImageSet) : Render (Option Tag) := do
  let tags ← images.images.mapM (setMember s images.imageSize)
  return some ((Tag.named "ul").addClass (kindClass "ImageSet") |>.appendAll tags.reduceOption)

end Placard.Render
