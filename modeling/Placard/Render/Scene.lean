import Placard.Document.Basic
import Placard.Host.Color
import Placard.Host.Config
import Placard.Render.Pass
import Placard.Render.Registry

/-!
# What renderers are given

A renderer makes the tag of a node. It is given the node and a scene: the configuration of the host,
how Markdown becomes tags, how further nodes are rendered, and what is done to the tags of actions.
What is done to the tag of an action is given the same.

Nodes are rendered by the renderer that is registered for their kind, and a node without one is left
out with a warning. The standard renderers have only lower nodes rendered than their own. Others may
have any nodes rendered, as high as they like or made up on the spot, and what is done to the tag of
one action may call for what is done to others; but only to the depth that a stage has room for, and
beyond that rendering fails. So it ends, whatever is registered.
-/

namespace Placard

open Document

namespace Render

/-- Where tags are made. -/
structure Setting where
  host : Host.Config
  /-- the tags for a text in Markdown -/
  convert : String → Except Fault (List Tag)
  /-- the tag of a node, if the node shows at all -/
  render : Node → Render (Option Tag)
  /-- the tag of a further action after what is done to the tags of its kind -/
  treat : Node → Tag → Render Tag

/-- What is done to the tag of an action of a kind. -/
abbrev Transformer :=
  Setting → Node → Tag → Render Tag

/-- What a renderer is given besides a node. -/
structure Scene extends Setting where
  /-- what is done to the tags of the actions of each kind -/
  transformers : String → Option Transformer

/-- Makes the tag of a node, if the node shows at all. -/
abbrev Renderer :=
  Scene → Node → Render (Option Tag)

namespace Scene

/-- The tag of an action after what is done to the tags of its kind. -/
def transform (s : Scene) (action : Node) (tag : Tag) : Render Tag :=
  match s.transformers action.kind with
  | some transformer => transformer s.toSetting action tag
  | none => pure tag

/-- The colour of text in CSS. -/
def textColor (s : Scene) (color : TextColor) (isSubtle : Bool) : String :=
  Host.cssColor ((s.host.containerStyles.default.foregroundColors.pair color).shade isSubtle)

end Scene

/-- All that rendering depends on. -/
structure Stage where
  host : Host.Config := {}
  convert : String → Except Fault (List Tag)
  renderers : Registry Renderer
  transformers : Registry Transformer
  /-- how much deeper than the height of a node its rendering may go -/
  reserve : Nat := 1000

namespace Stage

/-- The tag of an action after what is done to the tags of its kind, at most this deep within what is
done to other tags, given how further nodes are rendered. -/
def treatWithin (s : Stage) (render : Node → Render (Option Tag)) : Nat → Node → Tag → Render Tag
  | 0, _, _ => fail .tooDeep
  | depth + 1, action, tag =>
    match s.transformers.get? action.kind with
    | some transformer =>
      transformer { host := s.host, convert := s.convert, render := render
                    treat := s.treatWithin render depth } action tag
    | none => pure tag

/-- The scene of a stage, given how further nodes are rendered. -/
def scene (s : Stage) (render : Node → Render (Option Tag)) : Scene where
  host := s.host
  convert := s.convert
  transformers := s.transformers.get?
  render := render
  treat := s.treatWithin render s.reserve

/-- The tag of a node, rendered at most this deep. -/
def renderWithin (s : Stage) : Nat → Node → Render (Option Tag)
  | 0, _ => fail .tooDeep
  | depth + 1, node =>
    match s.renderers.get? node.kind with
    | some renderer => renderer (s.scene (s.renderWithin depth)) node
    | none => do
      warn (.unsupported node.kind)
      return none

/-- The tag of a node, if the node shows at all. -/
def render (s : Stage) (node : Node) : Render (Option Tag) :=
  s.renderWithin (node.height + s.reserve) node

end Stage

end Render

end Placard
