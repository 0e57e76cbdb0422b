import Placard.Proofs.Document.Loaded
import Placard.Proofs.Record.Halted

/-!
# Where nodes are read

A value of a document is read in a role: as an element, as an action, or as the column, image or card
that alone can stand at its place. Which members hold further nodes follows from the kind of a node,
and is the same for reading a node (`reads_of_kind`), for the node that is read (`Node.inField`), and
for what stops the check.

* `Role.read`: the node that a value is read as in a role.
* `NodeField.nodes`: the nodes that a mapping has in a field.
* `ReadsFields`: a check reads the fields of a kind and nothing else that could stop it.
-/

namespace Placard.Document

open Placard.Data Placard.Record

/-! ## Roles and fields -/

/-- What a value of a document is read as. -/
inductive Role where
  | element
  | action
  | column
  | image
  | card
deriving DecidableEq

/-- The node that a value is read as. -/
def Role.read : Role → Value → Checked Node
  | element, v => Node.element <$> readElement v
  | action, v => Node.action <$> readAction v
  | column, v => (fun c => Node.element (.column c)) <$> readColumn v
  | image, v => (fun i => Node.element (.image i)) <$> readImage v
  | card, v => (fun c => Node.element (.card c)) <$> readCard v

/-- The kind of which a mapping is read as a node in a role, if that is a kind of the role. -/
def Role.kindIn (role : Role) (entries : Entries) : Except String (Option String) :=
  match role with
  | element => (Document.kindIn entries).map (·.filter elementKinds.contains)
  | action => (Document.kindIn entries).map (·.filter actionKinds.contains)
  | column => .ok (some "Column")
  | image => .ok (some "Image")
  | card => .ok (some "AdaptiveCard")

/-- A field that holds nodes: a list of them, or one if it is there and not null. -/
structure NodeField where
  name : String
  isList : Bool
  role : Role
deriving DecidableEq

/-- The fields with nodes of a node of a kind. -/
def nodeFields (kind : String) : List NodeField :=
  match kind with
  | "AdaptiveCard" => [⟨"body", true, .element⟩, ⟨"actions", true, .action⟩]
  | "Container" => [⟨"items", true, .element⟩, ⟨"selectAction", false, .action⟩]
  | "Column" => [⟨"items", true, .element⟩, ⟨"selectAction", false, .action⟩]
  | "ColumnSet" => [⟨"columns", true, .column⟩, ⟨"selectAction", false, .action⟩]
  | "Image" => [⟨"selectAction", false, .action⟩]
  | "ImageSet" => [⟨"images", true, .image⟩]
  | "Action.ShowCard" => [⟨"card", false, .card⟩]
  | _ => []

@[simp] theorem nodeFields_card : nodeFields "AdaptiveCard" =
    [⟨"body", true, .element⟩, ⟨"actions", true, .action⟩] := rfl

@[simp] theorem nodeFields_container : nodeFields "Container" =
    [⟨"items", true, .element⟩, ⟨"selectAction", false, .action⟩] := rfl

@[simp] theorem nodeFields_column : nodeFields "Column" =
    [⟨"items", true, .element⟩, ⟨"selectAction", false, .action⟩] := rfl

@[simp] theorem nodeFields_columnSet : nodeFields "ColumnSet" =
    [⟨"columns", true, .column⟩, ⟨"selectAction", false, .action⟩] := rfl

@[simp] theorem nodeFields_image : nodeFields "Image" = [⟨"selectAction", false, .action⟩] := rfl

@[simp] theorem nodeFields_imageSet : nodeFields "ImageSet" = [⟨"images", true, .image⟩] := rfl

@[simp] theorem nodeFields_showCard : nodeFields "Action.ShowCard" = [⟨"card", false, .card⟩] := rfl

/-- The nodes in the value of a field. -/
def NodeField.read (f : NodeField) (v : Value) : Checked (List Node) :=
  if f.isList then listOf f.role.read v
  else
    match v with
    | .null => .good []
    | v => (fun n => [n]) <$> f.role.read v

/-- The nodes that a mapping has in a field. -/
def NodeField.nodes (f : NodeField) (entries : Entries) : Checked (List Node) :=
  field entries f.name f.read []

/-- The nodes that a node has in the field of a name. -/
def Node.inField (n : Node) (name : String) : List Node :=
  match n, name with
  | .element (.card c), "body" => c.body.map .element
  | .element (.card c), "actions" => c.actions.map .action
  | .element (.container c), "items" => c.items.map .element
  | .element (.column c), "items" => c.items.map .element
  | .element (.columnSet s), "columns" => s.columns.map fun c => .element (.column c)
  | .element (.imageSet s), "images" => s.images.map fun i => .element (.image i)
  | .action (.showCard _ _ card), "card" => card.toList.map fun c => .element (.card c)
  | n, "selectAction" => n.selection?.toList.map .action
  | _, _ => []

/-! ## Members -/

/-- What the members of a mapping are asked for is what the first member of the name gives. -/
theorem asked_eq {α : Type} (ask : Children → String → α) {read : Value → α} {default : α}
    {name : String} (hnil : ask .none name = default)
    (hcons : ∀ key v entries, ask (childrenOf ((key, v) :: entries)) name =
      if isNamed name key then read v else ask (childrenOf entries) name) (entries : Entries) :
    ask (childrenOf entries) name = (Value.find? name entries).elim default read := by
  induction entries with
  | nil => rwa [childrenOf]
  | cons e entries ih =>
    obtain ⟨key, v⟩ := e
    rw [hcons, find?_cons, ih]
    split <;> rfl

section

variable (entries : Entries) (name : String)

theorem elements_childrenOf : (childrenOf entries).elements name =
    (Value.find? name entries).elim (.good []) (listOf readElement) := by
  refine asked_eq Children.elements rfl (fun key v entries => ?_) entries
  rw [childrenOf, ← elementsIn_eq]
  rfl

theorem actions_childrenOf : (childrenOf entries).actions name =
    (Value.find? name entries).elim (.good []) (listOf readAction) := by
  refine asked_eq Children.actions rfl (fun key v entries => ?_) entries
  rw [childrenOf, ← actionsIn_eq]
  rfl

theorem columns_childrenOf : (childrenOf entries).columns name =
    (Value.find? name entries).elim (.good []) (listOf readColumn) := by
  refine asked_eq Children.columns rfl (fun key v entries => ?_) entries
  rw [childrenOf, ← columnsIn_eq]
  rfl

theorem images_childrenOf : (childrenOf entries).images name =
    (Value.find? name entries).elim (.good []) (listOf readImage) := by
  refine asked_eq Children.images rfl (fun key v entries => ?_) entries
  rw [childrenOf, ← imagesIn_eq]
  rfl

theorem action_childrenOf : (childrenOf entries).action name =
    (Value.find? name entries).elim (.good none) (optional readAction) := by
  refine asked_eq Children.action rfl (fun key v entries => ?_) entries
  rw [childrenOf]
  cases v <;> rfl

theorem card_childrenOf : (childrenOf entries).card name =
    (Value.find? name entries).elim (.good none) (optional readCard) := by
  refine asked_eq Children.card rfl (fun key v entries => ?_) entries
  rw [childrenOf]
  cases v <;> rfl

/-- Nodes are read like any other field. -/
theorem nodesIn_eq {α : Type} {ask : String → Checked α} {read : Value → Checked α} {default : α}
    (h : ∀ name, ask name = (Value.find? name entries).elim (.good default) read) :
    nodesIn entries name ask = field entries name read default := by
  unfold nodesIn field Record.find?
  cases hfind : Value.find? name entries with
  | some v =>
    dsimp only
    rw [h, hfind]
    rfl
  | none =>
    dsimp only
    cases hother : Value.find? (lowLined name) entries with
    | some v =>
      dsimp only [Option.map_some]
      rw [h, hother]
      rfl
    | none =>
      dsimp only [Option.map_none]
      rw [h, hfind]
      rfl

end

/-! ## Fields with nodes -/

theorem map_map {α β γ : Type} (f : β → γ) (g : α → β) (x : Checked α) :
    f <$> g <$> x = (fun a => f (g a)) <$> x := by
  cases x <;> rfl

theorem map_under {α β : Type} (f : α → β) (step : String) (x : Checked α) :
    f <$> x.under step = (f <$> x).under step := by
  cases x <;> rfl

theorem map_field {α β : Type} (f : α → β) (entries : Entries) (name : String)
    (read : Value → Checked α) (default : α) :
    f <$> field entries name read default =
      field entries name (fun v => f <$> read v) (f default) := by
  unfold field
  split
  · exact map_under f _ _
  · rfl

theorem map_each {α β : Type} (f : α → β) (read : Value → Checked α) (position : Nat)
    (vs : List Value) :
    List.map f <$> each read position vs = each (fun v => f <$> read v) position vs := by
  induction vs generalizing position with
  | nil => rfl
  | cons v vs ih =>
    rw [each, each, ← ih, ← map_under]
    cases (read v).under (positionText position) <;> cases each read (position + 1) vs <;> rfl

theorem map_listOf {α β : Type} (f : α → β) (read : Value → Checked α) (v : Value) :
    List.map f <$> listOf read v = listOf (fun v => f <$> read v) v := by
  unfold listOf
  split
  · exact map_each f read 0 _
  · rfl

theorem map_optional {α : Type} (f : α → Node) (read : Value → Checked α) (v : Value) :
    (fun a? : Option α => a?.toList.map f) <$> optional read v =
      match v with
      | .null => .good []
      | v => (fun n => [n]) <$> f <$> read v := by
  have hsome (x : Checked α) : (fun a? : Option α => a?.toList.map f) <$> some <$> x =
      (fun n => [n]) <$> f <$> x := by
    cases x <;> rfl
  cases v <;> first | rfl | exact hsome _

section

variable (entries : Entries) (name : String)

theorem nodes_elements : NodeField.nodes ⟨name, true, .element⟩ entries =
    List.map Node.element <$> nodesIn entries name (childrenOf entries).elements := by
  rw [nodesIn_eq entries name (elements_childrenOf entries), map_field]
  exact congrArg (field entries name · []) (funext fun v => (map_listOf _ _ v).symm)

theorem nodes_actions : NodeField.nodes ⟨name, true, .action⟩ entries =
    List.map Node.action <$> nodesIn entries name (childrenOf entries).actions := by
  rw [nodesIn_eq entries name (actions_childrenOf entries), map_field]
  exact congrArg (field entries name · []) (funext fun v => (map_listOf _ _ v).symm)

theorem nodes_columns : NodeField.nodes ⟨name, true, .column⟩ entries =
    List.map (fun c => Node.element (.column c)) <$>
      nodesIn entries name (childrenOf entries).columns := by
  rw [nodesIn_eq entries name (columns_childrenOf entries), map_field]
  exact congrArg (field entries name · []) (funext fun v => (map_listOf _ _ v).symm)

theorem nodes_images : NodeField.nodes ⟨name, true, .image⟩ entries =
    List.map (fun i => Node.element (.image i)) <$>
      nodesIn entries name (childrenOf entries).images := by
  rw [nodesIn_eq entries name (images_childrenOf entries), map_field]
  exact congrArg (field entries name · []) (funext fun v => (map_listOf _ _ v).symm)

theorem nodes_action : NodeField.nodes ⟨name, false, .action⟩ entries =
    (fun a? : Option Action => a?.toList.map Node.action) <$>
      nodesIn entries name (childrenOf entries).action := by
  rw [nodesIn_eq entries name (action_childrenOf entries), map_field]
  exact congrArg (field entries name · []) (funext fun v => (map_optional _ _ v).symm)

theorem nodes_card : NodeField.nodes ⟨name, false, .card⟩ entries =
    (fun c? : Option Card => c?.toList.map fun c => Node.element (.card c)) <$>
      nodesIn entries name (childrenOf entries).card := by
  rw [nodesIn_eq entries name (card_childrenOf entries), map_field]
  exact congrArg (field entries name · []) (funext fun v => (map_optional _ _ v).symm)

end

/-! ## Nodes of known kinds -/

/-- A check reads a node of a kind, and only the fields with nodes of that kind can stop it. -/
structure ReadsFields (entries : Entries) (kind : String) (x : Checked Node) : Prop where
  isHalted : x.isHalted = (nodeFields kind).any fun f => (f.nodes entries).isHalted
  good : ∀ n, x = .good n → n.isUnknown = false ∧ n.kind = kind ∧
    ∀ f ∈ nodeFields kind, f.nodes entries = .good (n.inField f.name)

theorem isHalted_keyword {α : Type} [Keyword α] (v : Value) :
    (Keyword.read v : Checked α).isHalted = false := by
  unfold Keyword.read
  dsimp only
  split <;> rfl

@[simp] theorem isHalted_keywordField {α : Type} [Keyword α] (entries : Entries) (name : String)
    (default : α) : (field entries name Keyword.read default).isHalted = false :=
  isHalted_field isHalted_keyword entries name default

@[simp] theorem isHalted_textField (entries : Entries) (name default : String) :
    (field entries name text default).isHalted = false :=
  isHalted_field isHalted_text entries name default

@[simp] theorem isHalted_switchField (entries : Entries) (name : String) (default : Bool) :
    (field entries name switch default).isHalted = false :=
  isHalted_field isHalted_switch entries name default

@[simp] theorem isHalted_countField (entries : Entries) (name : String) (default : Nat) :
    (field entries name count default).isHalted = false :=
  isHalted_field isHalted_count entries name default

@[simp] theorem isHalted_readFrame (kind : String) (entries : Entries) :
    (readFrame kind entries).isHalted = false := by
  simp [readFrame, isHalted_field (isHalted_exactly kind)]

section

variable {entries : Entries}

/-- A node that cannot hold nodes. -/
theorem readsFields_of_nil {kind : String} {x : Checked Node} (hfields : nodeFields kind = [])
    (hgo : x.isHalted = false) (hkind : ∀ n, x = .good n → n.isUnknown = false ∧ n.kind = kind) :
    ReadsFields entries kind x where
  isHalted := by rw [hgo, hfields]; rfl
  good n hn := by
    obtain ⟨hknown, hkind⟩ := hkind n hn
    refine ⟨hknown, hkind, ?_⟩
    rw [hfields]
    exact fun _ hf => absurd hf List.not_mem_nil

theorem ReadsFields.under {kind : String} {x : Checked Node} (h : ReadsFields entries kind x)
    (step : String) : ReadsFields entries kind (x.under step) where
  isHalted := by rw [Checked.isHalted_under, h.isHalted]
  good n hn := h.good n (Checked.under_eq_good.mp hn)

theorem readsFields_card : ReadsFields entries "AdaptiveCard"
    ((fun c => Node.element (.card c)) <$> cardOf entries (childrenOf entries)) where
  isHalted := by
    have hversion := isHalted_field (isHalted_optional isHalted_text) entries "version" (some "1.0")
    simp [cardOf, nodes_elements, nodes_actions, hversion]
  good n h := by
    obtain ⟨c, hc, rfl⟩ := Checked.map_eq_good.mp h
    simp only [cardOf, Checked.seq_eq_good, Checked.map_eq_good] at hc
    obtain ⟨-, ⟨-, ⟨-, ⟨-, ⟨-, ⟨frame, -, rfl⟩, version, -, rfl⟩, body, hbody, rfl⟩, actions,
      hactions, rfl⟩, fallback, -, rfl⟩, image, -, rfl⟩ := hc
    refine ⟨rfl, rfl, ?_⟩
    simp only [nodeFields_card, List.forall_mem_cons, nodes_elements, nodes_actions, hbody,
      hactions]
    exact ⟨rfl, rfl, fun _ hf => absurd hf List.not_mem_nil⟩

theorem readsFields_container : ReadsFields entries "Container"
    ((fun c => Node.element (.container c)) <$> containerOf entries (childrenOf entries)) where
  isHalted := by simp [containerOf, nodes_elements, nodes_action]
  good n h := by
    obtain ⟨c, hc, rfl⟩ := Checked.map_eq_good.mp h
    simp only [containerOf, Checked.seq_eq_good, Checked.map_eq_good] at hc
    obtain ⟨-, ⟨-, ⟨frame, -, rfl⟩, items, hitems, rfl⟩, action, haction, rfl⟩ := hc
    refine ⟨rfl, rfl, ?_⟩
    simp only [nodeFields_container, List.forall_mem_cons, nodes_elements, nodes_action, hitems,
      haction]
    exact ⟨rfl, rfl, fun _ hf => absurd hf List.not_mem_nil⟩

theorem readsFields_column : ReadsFields entries "Column"
    ((fun c => Node.element (.column c)) <$> columnOf entries (childrenOf entries)) where
  isHalted := by
    have hwidth (name : String) : (field entries name readWidth none).isHalted = false := by
      refine isHalted_field (fun v => ?_) entries name none
      unfold readWidth
      split
      · rfl
      · rfl
      · exact isHalted_optional isHalted_text v
    simp [columnOf, nodes_elements, nodes_action, hwidth]
  good n h := by
    obtain ⟨c, hc, rfl⟩ := Checked.map_eq_good.mp h
    simp only [columnOf, Checked.seq_eq_good, Checked.map_eq_good] at hc
    obtain ⟨-, ⟨-, ⟨-, ⟨-, ⟨frame, -, rfl⟩, items, hitems, rfl⟩, width, -, rfl⟩, size, -, rfl⟩,
      action, haction, rfl⟩ := hc
    refine ⟨rfl, rfl, ?_⟩
    simp only [nodeFields_column, List.forall_mem_cons, nodes_elements, nodes_action, hitems,
      haction]
    exact ⟨rfl, rfl, fun _ hf => absurd hf List.not_mem_nil⟩

theorem readsFields_columnSet : ReadsFields entries "ColumnSet"
    ((fun c => Node.element (.columnSet c)) <$> columnSetOf entries (childrenOf entries)) where
  isHalted := by simp [columnSetOf, nodes_columns, nodes_action]
  good n h := by
    obtain ⟨c, hc, rfl⟩ := Checked.map_eq_good.mp h
    simp only [columnSetOf, Checked.seq_eq_good, Checked.map_eq_good] at hc
    obtain ⟨-, ⟨-, ⟨frame, -, rfl⟩, columns, hcolumns, rfl⟩, action, haction, rfl⟩ := hc
    refine ⟨rfl, rfl, ?_⟩
    simp only [nodeFields_columnSet, List.forall_mem_cons, nodes_columns, nodes_action, hcolumns,
      haction]
    exact ⟨rfl, rfl, fun _ hf => absurd hf List.not_mem_nil⟩

theorem readsFields_image : ReadsFields entries "Image"
    ((fun i => Node.element (.image i)) <$> imageOf entries (childrenOf entries)) where
  isHalted := by
    simp [imageOf, nodes_action, isHalted_required isHalted_text]
  good n h := by
    obtain ⟨i, hi, rfl⟩ := Checked.map_eq_good.mp h
    simp only [imageOf, Checked.seq_eq_good, Checked.map_eq_good] at hi
    obtain ⟨-, ⟨-, ⟨-, ⟨-, ⟨-, ⟨-, ⟨frame, -, rfl⟩, url, -, rfl⟩, alt, -, rfl⟩, size, -, rfl⟩,
      style, -, rfl⟩, alignment, -, rfl⟩, action, haction, rfl⟩ := hi
    refine ⟨rfl, rfl, ?_⟩
    simp only [nodeFields_image, List.forall_mem_cons, nodes_action, haction]
    exact ⟨rfl, fun _ hf => absurd hf List.not_mem_nil⟩

theorem readsFields_imageSet : ReadsFields entries "ImageSet"
    ((fun i => Node.element (.imageSet i)) <$> imageSetOf entries (childrenOf entries)) where
  isHalted := by simp [imageSetOf, nodes_images]
  good n h := by
    obtain ⟨i, hi, rfl⟩ := Checked.map_eq_good.mp h
    simp only [imageSetOf, Checked.seq_eq_good, Checked.map_eq_good] at hi
    obtain ⟨-, ⟨-, ⟨frame, -, rfl⟩, images, himages, rfl⟩, size, -, rfl⟩ := hi
    refine ⟨rfl, rfl, ?_⟩
    simp only [nodeFields_imageSet, List.forall_mem_cons, nodes_images, himages]
    exact ⟨rfl, fun _ hf => absurd hf List.not_mem_nil⟩

theorem readsFields_showCard : ReadsFields entries "Action.ShowCard"
    (Node.action <$> showCardOf entries (childrenOf entries)) where
  isHalted := by simp [showCardOf, nodes_card]
  good n h := by
    obtain ⟨a, ha, rfl⟩ := Checked.map_eq_good.mp h
    simp only [showCardOf, Checked.seq_eq_good, Checked.map_eq_good] at ha
    obtain ⟨-, ⟨-, ⟨frame, -, rfl⟩, title, -, rfl⟩, card, hcard, rfl⟩ := ha
    refine ⟨rfl, rfl, ?_⟩
    simp only [nodeFields_showCard, List.forall_mem_cons, nodes_card, hcard]
    exact ⟨rfl, fun _ hf => absurd hf List.not_mem_nil⟩

/-- Facts and choices are no nodes, and nothing in them stops a check. -/
theorem isHalted_pairs {α : Type} (name : String) (read : Entries → Checked α)
    (h : ∀ entries, (read entries).isHalted = false) (recordName : String) :
    (field entries name (listOf (record recordName read)) []).isHalted = false :=
  isHalted_field (isHalted_listOf_of_forall (isHalted_record h recordName)) entries name []

theorem elementOf?_readsFields {kind : String} {x : Checked Element}
    (h : elementOf? kind entries (childrenOf entries) = some x) :
    ReadsFields entries kind (Node.element <$> x) := by
  -- a leaf is never stopped, and is read as a node of its kind
  have hleaf {α : Type} {make : α → Element} {y : Checked α} {leafKind : String}
      (hfields : nodeFields leafKind = []) (hgo : y.isHalted = false)
      (hkind : ∀ a, (Node.element (make a)).isUnknown = false ∧ (make a).kind = leafKind) :
      ReadsFields entries leafKind (Node.element <$> make <$> y) := by
    refine readsFields_of_nil hfields (by simp [hgo]) fun n hn => ?_
    obtain ⟨e, he, rfl⟩ := Checked.map_eq_good.mp hn
    obtain ⟨a, -, rfl⟩ := Checked.map_eq_good.mp he
    exact hkind a
  have hnumber (name : String) : (field entries name (optional number) none).isHalted = false :=
    isHalted_field (isHalted_optional isHalted_number) entries name none
  unfold elementOf? at h
  split at h <;> cases h
  · rw [map_map]
    exact readsFields_card
  · rw [map_map]
    exact readsFields_container
  · rw [map_map]
    exact readsFields_column
  · rw [map_map]
    exact readsFields_columnSet
  · refine hleaf rfl ?_ fun _ => ⟨rfl, rfl⟩
    simp [readFactSet, isHalted_pairs "facts" readFact (by simp [readFact])]
  · rw [map_map]
    exact readsFields_image
  · rw [map_map]
    exact readsFields_imageSet
  · exact hleaf rfl (by simp [readTextBlock]) fun _ => ⟨rfl, rfl⟩
  · refine hleaf rfl ?_ fun _ => ⟨rfl, rfl⟩
    simp [readChoiceSet, isHalted_pairs "choices" readChoice (by simp [readChoice])]
  · exact hleaf rfl (by simp [readTextInput]) fun _ => ⟨rfl, rfl⟩
  · exact hleaf rfl (by simp [readNumberInput, hnumber]) fun _ => ⟨rfl, rfl⟩
  · exact hleaf rfl (by simp [readPicker]) fun _ => ⟨rfl, rfl⟩
  · exact hleaf rfl (by simp [readPicker]) fun _ => ⟨rfl, rfl⟩
  · exact hleaf rfl (by simp [readToggle]) fun _ => ⟨rfl, rfl⟩

theorem actionOf?_readsFields {kind : String} {x : Checked Action}
    (h : actionOf? kind entries (childrenOf entries) = some x) :
    ReadsFields entries kind (Node.action <$> x) := by
  unfold actionOf? at h
  split at h <;> cases h
  · have hdata : (field entries "data" anything .null).isHalted = false :=
      isHalted_field isHalted_anything entries "data" .null
    refine readsFields_of_nil rfl (by simp [submitOf, hdata]) fun n hn => ?_
    simp only [submitOf, Checked.seq_eq_good, Checked.map_eq_good] at hn
    obtain ⟨a, ⟨-, ⟨-, ⟨frame, -, rfl⟩, title, -, rfl⟩, data, -, rfl⟩, rfl⟩ := hn
    exact ⟨rfl, rfl⟩
  · have hurl : (required entries "url" readAddress).isHalted = false := by
      refine isHalted_required (fun v => ?_) entries "url"
      unfold readAddress
      split
      · split <;> rfl
      · rfl
    refine readsFields_of_nil rfl (by simp [openUrlOf, hurl]) fun n hn => ?_
    simp only [openUrlOf, Checked.seq_eq_good, Checked.map_eq_good] at hn
    obtain ⟨a, ⟨-, ⟨-, ⟨frame, -, rfl⟩, title, -, rfl⟩, url, -, rfl⟩, rfl⟩ := hn
    exact ⟨rfl, rfl⟩
  · exact readsFields_showCard

/-! ## Nodes of unknown kinds -/

theorem isHalted_membersBeside (names : List String) (entries : Entries) :
    (membersBeside names entries).isHalted = false := by
  induction entries with
  | nil => rfl
  | cons e entries ih =>
    obtain ⟨key, v⟩ := e
    unfold membersBeside
    split
    · rfl
    · next heq =>
      obtain ⟨-, rfl⟩ := List.cons.inj heq
      split
      · exact ih
      · rw [Checked.isHalted_map]
        exact ih
    · next heq =>
      obtain ⟨-, rfl⟩ := List.cons.inj heq
      simp [ih]

theorem isHalted_readHead (entries : Entries) : (readHead entries).isHalted = false := by
  simp [readHead, isHalted_required isHalted_text]

theorem isHalted_readUnknownElement (entries : Entries) :
    (readUnknownElement entries).isHalted = false := by
  simp [readUnknownElement, isHalted_readHead, isHalted_membersBeside]

theorem isHalted_readUnknownAction (entries : Entries) :
    (readUnknownAction entries).isHalted = false := by
  simp [readUnknownAction, isHalted_readHead, isHalted_membersBeside]

end

/-! ## Reading in a role -/

theorem elementOf?_isSome (kind : String) (entries : Entries) (nodes : Children) :
    (elementOf? kind entries nodes).isSome = elementKinds.contains kind := by
  rw [Bool.eq_iff_iff, List.contains_iff_mem]
  constructor
  · intro h
    unfold elementOf? at h
    split at h
    all_goals first | decide | cases h
  · intro h
    by_contra hnone
    rw [Bool.not_eq_true, Option.isSome_eq_false_iff, Option.isNone_iff_eq_none] at hnone
    exact not_mem_elementKinds hnone h

theorem actionOf?_isSome (kind : String) (entries : Entries) (nodes : Children) :
    (actionOf? kind entries nodes).isSome = actionKinds.contains kind := by
  rw [Bool.eq_iff_iff, List.contains_iff_mem]
  constructor
  · intro h
    unfold actionOf? at h
    split at h
    all_goals first | decide | cases h
  · intro h
    by_contra hnone
    rw [Bool.not_eq_true, Option.isSome_eq_false_iff, Option.isNone_iff_eq_none] at hnone
    exact not_mem_actionKinds hnone h

/-- The kind that a node of unknown kind has is the text of its type, in whatever way it is given. -/
theorem type_of_readHead {entries : Entries} {head : String × Frame}
    (h : readHead entries = .good head) :
    ∃ v, Value.find? "type" entries = some v ∧ text v = .good head.1 := by
  have hspelling : lowLined "type" = "type" := by decide
  simp only [readHead, Checked.seq_eq_good, Checked.map_eq_good] at h
  obtain ⟨-, ⟨-, ⟨-, ⟨kind, hkind, rfl⟩, id, -, rfl⟩, spacing, -, rfl⟩, separator, -, rfl⟩ := h
  unfold required Record.find? at hkind
  rw [hspelling] at hkind
  cases hfind : Value.find? "type" entries with
  | none =>
    rw [hfind] at hkind
    dsimp only at hkind
    rw [hfind] at hkind
    cases hkind
  | some v =>
    rw [hfind] at hkind
    exact ⟨v, rfl, Checked.under_eq_good.mp hkind⟩

section

variable {α : Type} {entries : Entries} {known? : String → Option (Checked α)} {unknown : Checked α}
  {kinds : List String} {kind : String}

theorem map_eq_error {β ε : Type} {x : Except ε α} {f : α → β} {e : ε} (h : x.map f = .error e) :
    x = .error e := by
  cases x with
  | error e' => exact congrArg _ (Except.error.inj h)
  | ok a => cases h

theorem readByKind_of_error (h : (kindIn entries).map (·.filter kinds.contains) = .error kind) :
    readByKind entries known? unknown = .halted kind := by
  unfold readByKind
  rw [map_eq_error h]

variable (hknown : ∀ kind, (known? kind).isSome = kinds.contains kind)

include hknown

theorem readByKind_of_some (h : (kindIn entries).map (·.filter kinds.contains) = .ok (some kind)) :
    ∃ x, known? kind = some x ∧ readByKind entries known? unknown = x.under kind := by
  obtain ⟨kind?, hkind, hfilter⟩ := Json.map_eq_ok h
  obtain ⟨rfl, hmem⟩ := Option.filter_eq_some_iff.mp hfilter
  rw [← hknown kind] at hmem
  obtain ⟨x, hx⟩ := Option.isSome_iff_exists.mp hmem
  refine ⟨x, hx, ?_⟩
  unfold readByKind
  rw [hkind]
  dsimp only
  rw [hx]

theorem readByKind_of_none (h : (kindIn entries).map (·.filter kinds.contains) = .ok none) :
    readByKind entries known? unknown = unknown.under "Unknown" := by
  obtain ⟨kind?, hkind, hfilter⟩ := Json.map_eq_ok h
  unfold readByKind
  rw [hkind]
  cases kind? with
  | none => rfl
  | some kind =>
    have hnot := Option.filter_eq_none_iff.mp hfilter kind rfl
    rw [← hknown kind, Bool.not_eq_true, Option.isSome_eq_false_iff, Option.isNone_iff_eq_none]
      at hnot
    dsimp only
    rw [hnot]

end

/-- A check reads a node of unknown kind, whose kind is the text of its type. -/
structure ReadsUnknown (entries : Entries) (x : Checked Node) : Prop where
  isHalted : x.isHalted = false
  good : ∀ n, x = .good n → n.isUnknown = true ∧
    ∃ v, Value.find? "type" entries = some v ∧ text v = .good n.kind

theorem ReadsUnknown.under {entries : Entries} {x : Checked Node} (h : ReadsUnknown entries x)
    (step : String) : ReadsUnknown entries (x.under step) where
  isHalted := by rw [Checked.isHalted_under, h.isHalted]
  good n hn := h.good n (Checked.under_eq_good.mp hn)

theorem readsUnknown_element (entries : Entries) : ReadsUnknown entries
    (Node.element <$> Element.unknown <$> readUnknownElement entries) where
  isHalted := by simp [isHalted_readUnknownElement]
  good n hn := by
    obtain ⟨e, he, rfl⟩ := Checked.map_eq_good.mp hn
    obtain ⟨u, hu, rfl⟩ := Checked.map_eq_good.mp he
    simp only [readUnknownElement, Checked.seq_eq_good, Checked.map_eq_good] at hu
    obtain ⟨-, ⟨head, hhead, rfl⟩, members, -, rfl⟩ := hu
    exact ⟨rfl, type_of_readHead hhead⟩

theorem readsUnknown_action (entries : Entries) : ReadsUnknown entries
    (Node.action <$> Action.unknown <$> readUnknownAction entries) where
  isHalted := by simp [isHalted_readUnknownAction]
  good n hn := by
    obtain ⟨a, ha, rfl⟩ := Checked.map_eq_good.mp hn
    obtain ⟨u, hu, rfl⟩ := Checked.map_eq_good.mp ha
    simp only [readUnknownAction, Checked.seq_eq_good, Checked.map_eq_good] at hu
    obtain ⟨-, ⟨-, ⟨head, hhead, rfl⟩, title, -, rfl⟩, members, -, rfl⟩ := hu
    exact ⟨rfl, type_of_readHead hhead⟩

namespace Role

variable {role : Role} {entries : Entries}

/-- A type that cannot be looked up stops the check. -/
theorem read_of_error {kind : String} (h : role.kindIn entries = .error kind) :
    role.read (.map entries) = .halted kind := by
  cases role with
  | element =>
    rw [read, readElement, readByKind_of_error h]
    rfl
  | action =>
    rw [read, readAction, readByKind_of_error h]
    rfl
  | column | image | card => cases h

/-- A kind of the role. -/
theorem read_of_some {kind : String} (h : role.kindIn entries = .ok (some kind)) :
    ReadsFields entries kind (role.read (.map entries)) := by
  cases role with
  | element =>
    have hkinds kind := elementOf?_isSome kind entries (childrenOf entries)
    obtain ⟨x, hx, hread⟩ := readByKind_of_some hkinds h
    rw [read, readElement, hread, map_under]
    exact (elementOf?_readsFields hx).under kind
  | action =>
    have hkinds kind := actionOf?_isSome kind entries (childrenOf entries)
    obtain ⟨x, hx, hread⟩ := readByKind_of_some hkinds h
    rw [read, readAction, hread, map_under]
    exact (actionOf?_readsFields hx).under kind
  | column =>
    cases h
    rw [read, readColumn]
    exact readsFields_column
  | image =>
    cases h
    rw [read, readImage]
    exact readsFields_image
  | card =>
    cases h
    rw [read, readCard]
    exact readsFields_card

/-- No kind of the role. -/
theorem read_of_none (h : role.kindIn entries = .ok none) :
    ReadsUnknown entries (role.read (.map entries)) := by
  cases role with
  | element =>
    have hkinds kind := elementOf?_isSome kind entries (childrenOf entries)
    rw [read, readElement, readByKind_of_none hkinds h, map_under]
    exact (readsUnknown_element entries).under "Unknown"
  | action =>
    have hkinds kind := actionOf?_isSome kind entries (childrenOf entries)
    rw [read, readAction, readByKind_of_none hkinds h, map_under]
    exact (readsUnknown_action entries).under "Unknown"
  -- columns, images and cards are read by their place, whatever their type
  | column | image | card => cases h

/-- Only a mapping is read as a node, and nothing else can stop the check. -/
theorem read_of_not_map {v : Value} (h : ∀ entries, v ≠ .map entries) :
    (role.read v).isHalted = false ∧ ∀ n, role.read v ≠ .good n := by
  have hissue {α : Type} (f : α → Node) (first : Issue) :
      (f <$> (Checked.bad first [] : Checked α)).isHalted = false ∧
        ∀ n, f <$> (Checked.bad first [] : Checked α) ≠ .good n :=
    ⟨rfl, fun n hn => by cases hn⟩
  cases v with
  | map entries => exact absurd rfl (h entries)
  | _ =>
    cases role with
    | element => rw [read, readElement]; exact hissue _ _; exact h
    | action => rw [read, readAction]; exact hissue _ _; exact h
    | column => rw [read, readColumn]; exact hissue _ _; exact h
    | image => rw [read, readImage]; exact hissue _ _; exact h
    | card => rw [read, readCard]; exact hissue _ _; exact h

end Role

end Placard.Document
