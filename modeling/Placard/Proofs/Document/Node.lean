import Mathlib.Data.List.Basic
import Placard.Document.Basic

/-!
# The nodes of a card

A card is a tree of nodes. The parts of a node stand in its lists: the body and the actions of a
card, the items of a container, the columns of a row, the images of a set; and the card that an
action shows is a part of the action. What a node is selected by is no part of it.

* `Node.parts`: the nodes right below a node. Each is lower than the node (`lt_of_mem_parts`), which
  gives induction over cards (`partsInduction`).
* `Node.nodes`: a node and all nodes below it, in the order of the document.
* `Node.isUnknown`: whether a node is one of the few that are kept as data.
-/

namespace Placard.Document

/-- The greatest number of a list is no less than that of an entry. -/
theorem le_greatest_of_mem {α : Type} {number : α → Nat} {greatest : List α → Nat}
    (hcons : ∀ a as, greatest (a :: as) = max (number a) (greatest as)) {a : α} {as : List α}
    (h : a ∈ as) : number a ≤ greatest as := by
  induction as with
  | nil => cases h
  | cons b as ih =>
    rw [hcons]
    rcases List.mem_cons.mp h with rfl | h
    · exact Nat.le_max_left _ _
    · exact Nat.le_trans (ih h) (Nat.le_max_right _ _)

theorem height_le_of_mem_elements {e : Element} {es : List Element} (h : e ∈ es) :
    e.height ≤ heightOfElements es :=
  le_greatest_of_mem (fun _ _ => by rw [heightOfElements]) h

theorem height_le_of_mem_actions {a : Action} {as : List Action} (h : a ∈ as) :
    a.height ≤ heightOfActions as :=
  le_greatest_of_mem (fun _ _ => by rw [heightOfActions]) h

theorem height_le_of_mem_columns {c : Column} {cs : List Column} (h : c ∈ cs) :
    c.height ≤ heightOfColumns cs :=
  le_greatest_of_mem (fun _ _ => by rw [heightOfColumns]) h

theorem height_le_of_mem_images {i : Image} {is : List Image} (h : i ∈ is) :
    i.height ≤ heightOfImages is :=
  le_greatest_of_mem (fun _ _ => by rw [heightOfImages]) h

namespace Node

/-! ## Parts -/

/-- The nodes right below a node. -/
def parts : Node → List Node
  | .element (.card c) => c.body.map .element ++ c.actions.map .action
  | .element (.container c) => c.items.map .element
  | .element (.column c) => c.items.map .element
  | .element (.columnSet s) => s.columns.map fun c => .element (.column c)
  | .element (.imageSet s) => s.images.map fun i => .element (.image i)
  | .action (.showCard _ _ card) => card.toList.map fun c => .element (.card c)
  | _ => []

/-- A node is higher than its parts. -/
theorem lt_of_mem_parts {n m : Node} (h : m ∈ n.parts) : m.height < n.height := by
  -- a node is one higher than the highest of its parts
  cases n with
  | element e =>
    cases e with
    | card c =>
      obtain ⟨frame, version, body, actions, fallback, image⟩ := c
      rw [height, Element.height, Card.height]
      rcases List.mem_append.mp h with h | h
      · obtain ⟨e, he, rfl⟩ := List.mem_map.mp h
        exact Nat.lt_succ_of_le (Nat.le_trans (height_le_of_mem_elements he) (Nat.le_max_left _ _))
      · obtain ⟨a, ha, rfl⟩ := List.mem_map.mp h
        exact Nat.lt_succ_of_le (Nat.le_trans (height_le_of_mem_actions ha) (Nat.le_max_right _ _))
    | container c =>
      obtain ⟨frame, items, action⟩ := c
      obtain ⟨e, he, rfl⟩ := List.mem_map.mp h
      rw [height, height, Element.height, Container.height]
      exact Nat.lt_succ_of_le (Nat.le_trans (height_le_of_mem_elements he) (Nat.le_max_left _ _))
    | column c =>
      obtain ⟨frame, items, width, size, action⟩ := c
      obtain ⟨e, he, rfl⟩ := List.mem_map.mp h
      rw [height, height, Element.height, Column.height]
      exact Nat.lt_succ_of_le (Nat.le_trans (height_le_of_mem_elements he) (Nat.le_max_left _ _))
    | columnSet s =>
      obtain ⟨frame, columns, action⟩ := s
      obtain ⟨c, hc, rfl⟩ := List.mem_map.mp h
      rw [height, height, Element.height, Element.height, ColumnSet.height]
      exact Nat.lt_succ_of_le (Nat.le_trans (height_le_of_mem_columns hc) (Nat.le_max_left _ _))
    | imageSet s =>
      obtain ⟨frame, images, size⟩ := s
      obtain ⟨i, hi, rfl⟩ := List.mem_map.mp h
      rw [height, height, Element.height, Element.height, ImageSet.height]
      exact Nat.lt_succ_of_le (height_le_of_mem_images hi)
    | _ => cases h
  | action a =>
    cases a with
    | showCard frame title card =>
      obtain ⟨c, hc, rfl⟩ := List.mem_map.mp h
      obtain rfl := Option.mem_toList.mp hc
      rw [height, height, Action.height, Element.height, heightOfCard?]
      exact Nat.lt_succ_self _
    | _ => cases h

/-- **Induction over heights.** What holds of a node as soon as it holds of all lower nodes holds of
every node. -/
theorem heightInduction {P : Node → Prop} (step : ∀ n, (∀ m, m.height < n.height → P m) → P n)
    (n : Node) : P n :=
  step n fun m _ => heightInduction step m
termination_by n.height

/-- **Induction over a card.** What holds of a node as soon as it holds of its parts holds of every
node. -/
theorem partsInduction {P : Node → Prop} (step : ∀ n, (∀ m ∈ n.parts, P m) → P n) (n : Node) :
    P n := by
  induction n using heightInduction with
  | step n ih => exact step n fun m hm => ih m (lt_of_mem_parts hm)

theorem height_pos (n : Node) : 0 < n.height := by
  cases n with
  | element e =>
    cases e with
    | card c => cases c; rw [height, Element.height, Card.height]; exact Nat.succ_pos _
    | container c => cases c; rw [height, Element.height, Container.height]; exact Nat.succ_pos _
    | column c => cases c; rw [height, Element.height, Column.height]; exact Nat.succ_pos _
    | columnSet s => cases s; rw [height, Element.height, ColumnSet.height]; exact Nat.succ_pos _
    | image i => cases i; rw [height, Element.height, Image.height]; exact Nat.succ_pos _
    | imageSet s => cases s; rw [height, Element.height, ImageSet.height]; exact Nat.succ_pos _
    | _ => rw [height, Element.height]; decide
  | action a =>
    cases a with
    | showCard => rw [height, Action.height]; exact Nat.succ_pos _
    | _ => rw [height, Action.height]; decide

/-! ## Nodes -/

/-- A node and all nodes below it, in the order of the document. -/
def nodes (n : Node) : List Node :=
  n :: n.parts.attach.flatMap fun m => m.1.nodes
termination_by n.height
decreasing_by exact lt_of_mem_parts m.2

theorem nodes_eq (n : Node) : n.nodes = n :: n.parts.flatMap nodes := by
  rw [nodes, List.flatMap_subtype (g := nodes) (fun _ _ => rfl), List.unattach_attach]

theorem mem_nodes_self (n : Node) : n ∈ n.nodes := by
  rw [nodes_eq]
  exact List.mem_cons_self

/-- What is below a part is below the node. -/
theorem nodes_subset_of_mem_parts {n m : Node} (h : m ∈ n.parts) : m.nodes ⊆ n.nodes := by
  rw [nodes_eq n]
  exact fun k hk => List.mem_cons_of_mem _ (List.mem_flatMap.mpr ⟨m, h, hk⟩)

/-! ## Unknown nodes -/

/-- Whether a node is of a kind that is not known. -/
def isUnknown : Node → Bool
  | .element (.unknown _) => true
  | .action (.unknown _) => true
  | _ => false

end Node

end Placard.Document
