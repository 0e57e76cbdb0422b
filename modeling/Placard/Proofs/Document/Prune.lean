import Placard.Proofs.Document.Node

/-!
# Taking nodes out of a card

Some nodes are taken out of the bodies, the items and the actions of a card, however deep they lie.
Which ones is said by a `Pick`, for each place and the node there. The place of a node is the path
of positions to it, from part to part; so the actions of a card stand behind its body.

`Card.prune` gives the card that is left, and the kinds of the nodes that are gone, in the order of
the document.
-/

namespace Placard.Document

/-- Whether the node at a place is taken out. -/
abbrev Pick :=
  List Nat → Node → Bool

/-- What is taken out below the part at a position. -/
def Pick.below (pick : Pick) (i : Nat) : Pick := fun place n =>
  pick (i :: place) n

/-- What is left, and the kinds of the nodes that are gone. -/
structure Pruned (α : Type) where
  rest : α
  gone : List String

mutual

/-- A card without the nodes that are picked. -/
def Card.prune (pick : Pick) (c : Card) : Pruned Card :=
  match c with
  | ⟨frame, version, body, actions, fallbackText, backgroundImage⟩ =>
    let body' := pruneElements pick 0 body
    let actions' := pruneActions pick body.length actions
    { rest := ⟨frame, version, body'.rest, actions'.rest, fallbackText, backgroundImage⟩
      gone := body'.gone ++ actions'.gone }

/-- A container without the nodes that are picked. -/
def Container.prune (pick : Pick) (c : Container) : Pruned Container :=
  match c with
  | ⟨frame, items, action⟩ =>
    let items' := pruneElements pick 0 items
    { rest := ⟨frame, items'.rest, action⟩, gone := items'.gone }

/-- A column without the nodes that are picked. -/
def Column.prune (pick : Pick) (c : Column) : Pruned Column :=
  match c with
  | ⟨frame, items, width, size, action⟩ =>
    let items' := pruneElements pick 0 items
    { rest := ⟨frame, items'.rest, width, size, action⟩, gone := items'.gone }

/-- A row whose columns are without the nodes that are picked. -/
def ColumnSet.prune (pick : Pick) (s : ColumnSet) : Pruned ColumnSet :=
  match s with
  | ⟨frame, columns, action⟩ =>
    let columns' := pruneColumns pick 0 columns
    { rest := ⟨frame, columns'.rest, action⟩, gone := columns'.gone }

/-- An element without the nodes below it that are picked. -/
def Element.prune (pick : Pick) : Element → Pruned Element
  | .card c => { rest := .card (c.prune pick).rest, gone := (c.prune pick).gone }
  | .container c => { rest := .container (c.prune pick).rest, gone := (c.prune pick).gone }
  | .column c => { rest := .column (c.prune pick).rest, gone := (c.prune pick).gone }
  | .columnSet s => { rest := .columnSet (s.prune pick).rest, gone := (s.prune pick).gone }
  | e => { rest := e, gone := [] }

/-- An action whose card is without the nodes that are picked. -/
def Action.prune (pick : Pick) : Action → Pruned Action
  | .showCard frame title card =>
    { rest := .showCard frame title (pruneCard? (pick.below 0) card).rest
      gone := (pruneCard? (pick.below 0) card).gone }
  | a => { rest := a, gone := [] }

/-- A card without the nodes that are picked, if there is one. -/
def pruneCard? (pick : Pick) : Option Card → Pruned (Option Card)
  | none => { rest := none, gone := [] }
  | some c => { rest := some (c.prune pick).rest, gone := (c.prune pick).gone }

/-- Elements from a position on, without those that are picked. -/
def pruneElements (pick : Pick) (i : Nat) : List Element → Pruned (List Element)
  | [] => { rest := [], gone := [] }
  | e :: es =>
    let es' := pruneElements pick (i + 1) es
    if pick [i] (.element e) then { rest := es'.rest, gone := e.kind :: es'.gone }
    else
      let e' := e.prune (pick.below i)
      { rest := e'.rest :: es'.rest, gone := e'.gone ++ es'.gone }

/-- Actions from a position on, without those that are picked. -/
def pruneActions (pick : Pick) (i : Nat) : List Action → Pruned (List Action)
  | [] => { rest := [], gone := [] }
  | a :: as =>
    let as' := pruneActions pick (i + 1) as
    if pick [i] (.action a) then { rest := as'.rest, gone := a.kind :: as'.gone }
    else
      let a' := a.prune (pick.below i)
      { rest := a'.rest :: as'.rest, gone := a'.gone ++ as'.gone }

/-- Columns from a position on, each without the nodes that are picked. -/
def pruneColumns (pick : Pick) (i : Nat) : List Column → Pruned (List Column)
  | [] => { rest := [], gone := [] }
  | c :: cs =>
    let c' := c.prune (pick.below i)
    let cs' := pruneColumns pick (i + 1) cs
    { rest := c'.rest :: cs'.rest, gone := c'.gone ++ cs'.gone }

end

/-! ## What is left -/

theorem Card.prune_rest (c : Card) (pick : Pick) : (c.prune pick).rest =
    { c with
      body := (pruneElements pick 0 c.body).rest
      actions := (pruneActions pick c.body.length c.actions).rest } := by
  cases c
  rw [Card.prune]

theorem Column.prune_rest (c : Column) (pick : Pick) :
    (c.prune pick).rest = { c with items := (pruneElements pick 0 c.items).rest } := by
  cases c
  rw [Column.prune]

@[simp] theorem Card.prune_version (c : Card) (pick : Pick) :
    (c.prune pick).rest.version = c.version := by
  rw [Card.prune_rest]

@[simp] theorem Column.prune_frame (c : Column) (pick : Pick) :
    (c.prune pick).rest.frame = c.frame := by
  rw [Column.prune_rest]

@[simp] theorem Column.prune_width (c : Column) (pick : Pick) :
    (c.prune pick).rest.width = c.width := by
  rw [Column.prune_rest]

@[simp] theorem Column.prune_size (c : Column) (pick : Pick) :
    (c.prune pick).rest.size = c.size := by
  rw [Column.prune_rest]

@[simp] theorem Element.prune_kind (e : Element) (pick : Pick) :
    (e.prune pick).rest.kind = e.kind := by
  cases e <;> simp only [Element.prune, Element.kind]

@[simp] theorem Element.prune_frame (e : Element) (pick : Pick) :
    (e.prune pick).rest.frame = e.frame := by
  cases e with
  | card c => simp only [Element.prune, Card.prune_rest, Element.frame]
  | container c => cases c; simp only [Element.prune, Container.prune, Element.frame]
  | column c => simp only [Element.prune, Column.prune_rest, Element.frame]
  | columnSet s => cases s; simp only [Element.prune, ColumnSet.prune, Element.frame]
  | _ => simp only [Element.prune]

theorem length_pruneActions (pick : Pick) (i : Nat) (as : List Action) :
    (pruneActions pick i as).rest.length ≤ as.length := by
  induction as generalizing i with
  | nil => unfold pruneActions; exact Nat.le_refl _
  | cons a as ih =>
    rw [pruneActions]
    dsimp only
    split
    · exact Nat.le_succ_of_le (ih (i + 1))
    · exact Nat.succ_le_succ (ih (i + 1))

end Placard.Document
