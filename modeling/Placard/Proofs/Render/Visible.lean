import Placard.Proofs.Render.Height
import Placard.Proofs.Tag.Tree

/-!
# What shows of a card

`visible` lists the nodes of a card that show on a host, in the order of the document: the card, its
elements with all that is in them, a text for each title and value of a fact; then the actions that
the host has room for, and then the cards that these show. Nodes of unknown kind do not show.

The tag of a node is its landmark in the rendered tree. `Shows` says what the landmark has of the
node: one class for the kind of the node, and the text, the picture, the names or the title that
make the node that one and no other.
-/

namespace Placard.Render

open Tag Document

/-! ## Visible nodes -/

/-- The nodes that are rendered for a node, in the order in which they show. -/
def shownParts (host : Host.Config) : Node → List Node
  | .element (.card c) =>
    let actions := c.actions.take host.actions.maxActions
    c.body.map .element ++ if host.supportsInteractivity then
      actions.map .action ++ (actions.filterMap cardOf?).map fun card => .element (.card card)
    else []
  | .element (.container c) => c.items.map .element
  | .element (.column c) => c.items.map .element
  | .element (.columnSet s) => s.columns.map fun c => .element (.column c)
  | .element (.factSet s) => s.facts.flatMap fun f =>
    [.element (.textBlock (factText host.factSet.title f.title)),
      .element (.textBlock (factText host.factSet.value f.value))]
  | .element (.imageSet s) => s.images.map fun i => .element (.image i)
  | _ => []

/-- What is rendered for a node is a part of it, or a card that an action of it shows, or a text. -/
theorem mem_shownParts {host : Host.Config} {n m : Node} (h : m ∈ shownParts host n) :
    m ∈ n.parts ∨ (∃ a ∈ n.parts, m ∈ a.parts) ∨
      ∃ facts layout text, n = .element (.factSet facts) ∧
        m = .element (.textBlock (factText layout text)) := by
  cases n with
  | element e =>
    cases e with
    | card c =>
      rcases List.mem_append.mp h with h | h
      · exact .inl (List.mem_append_left _ h)
      · split at h
        · rcases List.mem_append.mp h with h | h
          · obtain ⟨a, ha, rfl⟩ := List.mem_map.mp h
            exact .inl (List.mem_append_right _ (List.mem_map_of_mem (List.mem_of_mem_take ha)))
          · obtain ⟨card, hcard, rfl⟩ := List.mem_map.mp h
            obtain ⟨a, ha, hshown⟩ := List.mem_filterMap.mp hcard
            refine .inr (.inl ⟨.action a, ?_, mem_parts_of_cardOf hshown⟩)
            exact List.mem_append_right _ (List.mem_map_of_mem (List.mem_of_mem_take ha))
        · cases h
    | factSet facts =>
      obtain ⟨f, -, h⟩ := List.mem_flatMap.mp h
      rcases List.mem_cons.mp h with rfl | h
      · exact .inr (.inr ⟨facts, _, _, rfl, rfl⟩)
      · obtain rfl := List.mem_singleton.mp h
        exact .inr (.inr ⟨facts, _, _, rfl, rfl⟩)
    | container c => exact .inl h
    | column c => exact .inl h
    | columnSet s => exact .inl h
    | imageSet s => exact .inl h
    | _ => cases h
  | action a => cases h

theorem lt_of_mem_shownParts {host : Host.Config} {n m : Node} (h : m ∈ shownParts host n) :
    m.height < n.height := by
  rcases mem_shownParts h with h | ⟨a, ha, h⟩ | ⟨facts, layout, text, rfl, rfl⟩
  · exact Node.lt_of_mem_parts h
  · exact Nat.lt_trans (Node.lt_of_mem_parts h) (Node.lt_of_mem_parts ha)
  · exact factText_lt layout text facts

/-- Actions are rendered only where cards have actions. -/
theorem interactive_of_mem_shownParts {host : Host.Config} {n : Node} {a : Action}
    (h : .action a ∈ shownParts host n) : host.supportsInteractivity = true := by
  cases n with
  | element e =>
    cases e with
    | card c =>
      rcases List.mem_append.mp h with h | h
      · obtain ⟨e, -, he⟩ := List.mem_map.mp h
        cases he
      · split at h
        · assumption
        · cases h
    | _ => simp [shownParts] at h
  | action a => cases h

/-- The nodes that show of a node, the node itself first. -/
def visible (host : Host.Config) (n : Node) : List Node :=
  if n.isUnknown then []
  else n :: (shownParts host n).attach.flatMap fun m => visible host m.1
termination_by n.height
decreasing_by exact lt_of_mem_shownParts m.2

theorem visible_unknown {host : Host.Config} {n : Node} (h : n.isUnknown = true) :
    visible host n = [] := by
  rw [visible, if_pos h]

theorem visible_known {host : Host.Config} {n : Node} (h : n.isUnknown = false) :
    visible host n = n :: (shownParts host n).flatMap (visible host) := by
  rw [visible, if_neg (by simp [h]), List.flatMap_subtype (g := visible host) (fun _ _ => rfl),
    List.unattach_attach]

/-! ## Landmarks -/

/-- The classes of landmarks. -/
def landmarkClasses : List String :=
  ["ac-adaptivecard", "ac-container", "ac-column", "ac-columnset", "ac-factset", "ac-image",
    "ac-imageset", "ac-textblock", "ac-input", "ac-pushButton"]

/-- The classes of landmarks that a tag has. -/
def marks (t : Tag) : List String :=
  landmarkClasses.filter fun c => decide (c ∈ t.classes)

/-- Whether a tag has any class of landmarks. -/
def isLandmark (t : Tag) : Bool :=
  !(marks t).isEmpty

/-- Whether an element takes input. -/
def isInput : Element → Bool
  | .choiceSet _ => true
  | .textInput _ => true
  | .numberInput _ => true
  | .dateInput _ => true
  | .timeInput _ => true
  | .toggle _ => true
  | _ => false

/-- The class of the landmark of a node. -/
def landmarkClass : Node → String
  | .element e => if isInput e then "ac-input" else kindClass e.kind
  | .action _ => "ac-pushButton"

/-- The names of the tags that submit values. -/
def controlNames : List String :=
  ["input", "select", "textarea"]

/-- What the landmark of a node has, given how texts become tags. -/
structure Shows (convert : String → Except Fault (List Tag)) (n : Node) (t : Tag) : Prop where
  /-- one class of landmarks, for the kind of the node -/
  mark : marks t = [landmarkClass n]
  /-- what the text of a block is turned into, with its paragraphs styled -/
  text : ∀ b, n = .element (.textBlock b) → ∃ content, convert (Time.expand b.text) = .ok content ∧
    t.children = editEach isParagraph (styleParagraph b.wrap) content
  /-- the picture of an image -/
  picture : ∀ i, n = .element (.image i) →
    ∃ picture ∈ t.children, picture.name = "img" ∧ picture.attr? "src" = some i.url
  /-- the name that an input submits its values under, in all of its controls -/
  names : ∀ e, n = .element e → isInput e = true →
    ∀ control ∈ descendantsOf [t], control.name ∈ controlNames →
      control.attr? "name" = some (e.frame.id.getD "")
  /-- the title of an action -/
  title : ∀ a, n = .action a → t.text = a.title

end Placard.Render
