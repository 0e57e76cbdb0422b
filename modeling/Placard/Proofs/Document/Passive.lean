import Placard.Proofs.Document.Node

/-!
# Cards without actions

A card has actions in two ways: in its list, and as what a container, a column, a row or an image is
selected by. `Card.passive` is the card without any, however deep they are nested. What is of
unknown kind is data and stays as it is.
-/

namespace Placard.Document

/-- An image that cannot be selected. -/
def Image.passive (i : Image) : Image :=
  { i with selectAction := none }

/-- A set of images that cannot be selected. -/
def ImageSet.passive (s : ImageSet) : ImageSet :=
  { s with images := s.images.map Image.passive }

mutual

/-- A card without actions. -/
def Card.passive (c : Card) : Card :=
  match c with
  | ⟨frame, version, body, _, fallbackText, backgroundImage⟩ =>
    ⟨frame, version, passiveElements body, [], fallbackText, backgroundImage⟩

/-- A container without actions. -/
def Container.passive (c : Container) : Container :=
  match c with
  | ⟨frame, items, _⟩ => ⟨frame, passiveElements items, none⟩

/-- A column without actions. -/
def Column.passive (c : Column) : Column :=
  match c with
  | ⟨frame, items, width, size, _⟩ => ⟨frame, passiveElements items, width, size, none⟩

/-- A row of columns without actions. -/
def ColumnSet.passive (s : ColumnSet) : ColumnSet :=
  match s with
  | ⟨frame, columns, _⟩ => ⟨frame, passiveColumns columns, none⟩

/-- An element without actions. -/
def Element.passive : Element → Element
  | .card c => .card c.passive
  | .container c => .container c.passive
  | .column c => .column c.passive
  | .columnSet s => .columnSet s.passive
  | .image i => .image i.passive
  | .imageSet s => .imageSet s.passive
  | e => e

/-- Elements without actions. -/
def passiveElements : List Element → List Element
  | [] => []
  | e :: es => e.passive :: passiveElements es

/-- Columns without actions. -/
def passiveColumns : List Column → List Column
  | [] => []
  | c :: cs => c.passive :: passiveColumns cs

end

/-! ## What is left -/

theorem passiveElements_eq (es : List Element) : passiveElements es = es.map Element.passive := by
  induction es with
  | nil => rw [passiveElements, List.map_nil]
  | cons e es ih => rw [passiveElements, ih, List.map_cons]

theorem passiveColumns_eq (cs : List Column) : passiveColumns cs = cs.map Column.passive := by
  induction cs with
  | nil => rw [passiveColumns, List.map_nil]
  | cons c cs ih => rw [passiveColumns, ih, List.map_cons]

theorem Card.passive_eq (c : Card) :
    c.passive = { c with body := c.body.map Element.passive, actions := [] } := by
  cases c
  rw [Card.passive, passiveElements_eq]

theorem Container.passive_eq (c : Container) :
    c.passive = { c with items := c.items.map Element.passive, selectAction := none } := by
  cases c
  rw [Container.passive, passiveElements_eq]

theorem Column.passive_eq (c : Column) :
    c.passive = { c with items := c.items.map Element.passive, selectAction := none } := by
  cases c
  rw [Column.passive, passiveElements_eq]

theorem ColumnSet.passive_eq (s : ColumnSet) :
    s.passive = { s with columns := s.columns.map Column.passive, selectAction := none } := by
  cases s
  rw [ColumnSet.passive, passiveColumns_eq]

@[simp] theorem Card.passive_body (c : Card) : c.passive.body = c.body.map Element.passive := by
  rw [Card.passive_eq]

@[simp] theorem Card.passive_version (c : Card) : c.passive.version = c.version := by
  rw [Card.passive_eq]

@[simp] theorem Card.passive_fallbackText (c : Card) :
    c.passive.fallbackText = c.fallbackText := by
  rw [Card.passive_eq]

@[simp] theorem Card.passive_backgroundImage (c : Card) :
    c.passive.backgroundImage = c.backgroundImage := by
  rw [Card.passive_eq]

@[simp] theorem Container.passive_items (c : Container) :
    c.passive.items = c.items.map Element.passive := by
  rw [Container.passive_eq]

@[simp] theorem Column.passive_items (c : Column) :
    c.passive.items = c.items.map Element.passive := by
  rw [Column.passive_eq]

@[simp] theorem Column.passive_frame (c : Column) : c.passive.frame = c.frame := by
  rw [Column.passive_eq]

@[simp] theorem Column.passive_width (c : Column) : c.passive.width = c.width := by
  rw [Column.passive_eq]

@[simp] theorem Column.passive_size (c : Column) : c.passive.size = c.size := by
  rw [Column.passive_eq]

@[simp] theorem ColumnSet.passive_columns (s : ColumnSet) :
    s.passive.columns = s.columns.map Column.passive := by
  rw [ColumnSet.passive_eq]

@[simp] theorem Element.passive_kind (e : Element) : e.passive.kind = e.kind := by
  cases e <;> simp only [Element.passive, Element.kind]

@[simp] theorem Element.passive_frame (e : Element) : e.passive.frame = e.frame := by
  cases e with
  | card c => simp only [Element.passive, Card.passive_eq, Element.frame]
  | container c => simp only [Element.passive, Container.passive_eq, Element.frame]
  | columnSet s => simp only [Element.passive, ColumnSet.passive_eq, Element.frame]
  | column c => simp only [Element.passive, Column.passive_eq, Element.frame]
  | image i => simp only [Element.passive, Element.frame, Image.passive]
  | imageSet s => simp only [Element.passive, Element.frame, ImageSet.passive]
  | _ => simp only [Element.passive]

end Placard.Document
