import Placard.Proofs.Document.Role

/-!
# Fields are read apart

The nodes in a field of a mapping are read without regard to the other fields. So if a mapping was
read as a node, another one that differs from it in a field with nodes only (`AgreeOff`) is read as
the same node with the nodes of that field replaced (`Node.withField`), or not at all if these
cannot be read (`Role.read_agreeOff`). Issues are found below the field only.
-/

namespace Placard.Record.Checked

variable {α β : Type}

/-- The outcome for a part of the document that is several steps away. -/
def underAll (steps : List String) (x : Checked α) : Checked α :=
  steps.foldr under x

theorem underAll_append (steps more : List String) (x : Checked α) :
    x.underAll (steps ++ more) = (x.underAll more).underAll steps :=
  List.foldr_append

theorem map_underAll (f : α → β) (steps : List String) (x : Checked α) :
    f <$> x.underAll steps = (f <$> x).underAll steps := by
  induction steps with
  | nil => rfl
  | cons step steps ih => exact (Document.map_under f step _).trans (congrArg (under step) ih)

theorem underAll_eq_good {steps : List String} {x : Checked α} {a : α} :
    x.underAll steps = good a ↔ x = good a := by
  induction steps with
  | nil => exact Iff.rfl
  | cons step steps ih => exact under_eq_good.trans ih

@[simp] theorem isHalted_underAll (steps : List String) (x : Checked α) :
    (x.underAll steps).isHalted = x.isHalted := by
  induction steps with
  | nil => rfl
  | cons step steps ih => exact (isHalted_under step _).trans ih

end Placard.Record.Checked

namespace Placard.Document

open Placard.Text Placard.Data Placard.Record

/-! ## Putting nodes into a field -/

/-- The element that a node is, if it is one. -/
def Node.element? : Node → Option Element
  | .element e => some e
  | .action _ => none

/-- The action that a node is, if it is one. -/
def Node.action? : Node → Option Action
  | .action a => some a
  | .element _ => none

/-- The column that a node is, if it is one. -/
def Node.column? : Node → Option Column
  | .element (.column c) => some c
  | _ => none

/-- The image that a node is, if it is one. -/
def Node.image? : Node → Option Image
  | .element (.image i) => some i
  | _ => none

/-- The card that a node is, if it is one. -/
def Node.card? : Node → Option Card
  | .element (.card c) => some c
  | _ => none

/-- A node with other nodes in the field of a name, and otherwise the same. -/
def Node.withField (n : Node) (name : String) (ns : List Node) : Node :=
  match n, name with
  | .element (.card c), "body" => .element (.card { c with body := ns.filterMap element? })
  | .element (.card c), "actions" => .element (.card { c with actions := ns.filterMap action? })
  | .element (.container c), "items" =>
    .element (.container { c with items := ns.filterMap element? })
  | .element (.container c), "selectAction" =>
    .element (.container { c with selectAction := (ns.filterMap action?).head? })
  | .element (.column c), "items" => .element (.column { c with items := ns.filterMap element? })
  | .element (.column c), "selectAction" =>
    .element (.column { c with selectAction := (ns.filterMap action?).head? })
  | .element (.columnSet s), "columns" =>
    .element (.columnSet { s with columns := ns.filterMap column? })
  | .element (.columnSet s), "selectAction" =>
    .element (.columnSet { s with selectAction := (ns.filterMap action?).head? })
  | .element (.image i), "selectAction" =>
    .element (.image { i with selectAction := (ns.filterMap action?).head? })
  | .element (.imageSet s), "images" =>
    .element (.imageSet { s with images := ns.filterMap image? })
  | .action (.showCard frame title _), "card" =>
    .action (.showCard frame title (ns.filterMap card?).head?)
  | n, _ => n

namespace Node

variable (ns : List Node)

theorem withField_body (c : Card) :
    withField (.element (.card c)) "body" ns =
      .element (.card { c with body := ns.filterMap element? }) := rfl

theorem withField_actions (c : Card) :
    withField (.element (.card c)) "actions" ns =
      .element (.card { c with actions := ns.filterMap action? }) := rfl

theorem withField_containerItems (c : Container) :
    withField (.element (.container c)) "items" ns =
      .element (.container { c with items := ns.filterMap element? }) := rfl

theorem withField_containerSelection (c : Container) :
    withField (.element (.container c)) "selectAction" ns =
      .element (.container { c with selectAction := (ns.filterMap action?).head? }) := rfl

theorem withField_columnItems (c : Column) :
    withField (.element (.column c)) "items" ns =
      .element (.column { c with items := ns.filterMap element? }) := rfl

theorem withField_columnSelection (c : Column) :
    withField (.element (.column c)) "selectAction" ns =
      .element (.column { c with selectAction := (ns.filterMap action?).head? }) := rfl

theorem withField_columns (s : ColumnSet) :
    withField (.element (.columnSet s)) "columns" ns =
      .element (.columnSet { s with columns := ns.filterMap column? }) := rfl

theorem withField_columnSetSelection (s : ColumnSet) :
    withField (.element (.columnSet s)) "selectAction" ns =
      .element (.columnSet { s with selectAction := (ns.filterMap action?).head? }) := rfl

theorem withField_imageSelection (i : Image) :
    withField (.element (.image i)) "selectAction" ns =
      .element (.image { i with selectAction := (ns.filterMap action?).head? }) := rfl

theorem withField_images (s : ImageSet) :
    withField (.element (.imageSet s)) "images" ns =
      .element (.imageSet { s with images := ns.filterMap image? }) := rfl

theorem withField_shownCard (frame : Frame) (title : Option String) (card : Option Card) :
    withField (.action (.showCard frame title card)) "card" ns =
      .action (.showCard frame title (ns.filterMap card?).head?) := rfl

end Node

/-- What is put into a field are nodes of the sort that stands there. -/
theorem filterMap_map_some {α : Type} (f : Node → Option α) (g : α → Node)
    (h : ∀ a, f (g a) = some a) (as : List α) : (as.map g).filterMap f = as := by
  have hid : f ∘ g = some := funext h
  rw [List.filterMap_map, hid, List.filterMap_some]

theorem filterMap_element (es : List Element) :
    (es.map Node.element).filterMap Node.element? = es :=
  filterMap_map_some Node.element? Node.element (fun _ => rfl) es

theorem filterMap_action (as : List Action) :
    (as.map Node.action).filterMap Node.action? = as :=
  filterMap_map_some Node.action? Node.action (fun _ => rfl) as

theorem filterMap_column (cs : List Column) :
    (cs.map fun c => Node.element (.column c)).filterMap Node.column? = cs :=
  filterMap_map_some Node.column? (fun c => .element (.column c)) (fun _ => rfl) cs

theorem filterMap_image (is : List Image) :
    (is.map fun i => Node.element (.image i)).filterMap Node.image? = is :=
  filterMap_map_some Node.image? (fun i => .element (.image i)) (fun _ => rfl) is

theorem filterMap_card (cs : List Card) :
    (cs.map fun c => Node.element (.card c)).filterMap Node.card? = cs :=
  filterMap_map_some Node.card? (fun c => .element (.card c)) (fun _ => rfl) cs

/-! ## Agreement off a field -/

/-- Whether no spelling of one field is one of the other. -/
def Apart (a b : String) : Prop :=
  a ≠ b ∧ a ≠ lowLined b ∧ lowLined a ≠ b ∧ lowLined a ≠ lowLined b

instance (a b : String) : Decidable (Apart a b) :=
  inferInstanceAs (Decidable (_ ∧ _))

/-- Whether mappings have the same members but for those that are spelled like a field. -/
def AgreeOff (name : String) (entries entries' : Entries) : Prop :=
  ∀ other, other ≠ name → other ≠ lowLined name →
    Value.find? other entries' = Value.find? other entries

namespace AgreeOff

variable {name other : String} {entries entries' : Entries} {α : Type}

section

variable (h : AgreeOff name entries entries') (hother : Apart other name)

include h hother

theorem find? : Record.find? other entries' = Record.find? other entries := by
  unfold Record.find?
  dsimp only
  rw [h other hother.1 hother.2.1, h (lowLined other) hother.2.2.1 hother.2.2.2]

theorem field (read : Value → Checked α) (default : α) :
    field entries' other read default = field entries other read default := by
  unfold Record.field
  rw [h.find? hother]

theorem required (read : Value → Checked α) :
    required entries' other read = required entries other read := by
  unfold Record.required
  rw [h.find? hother]

theorem text? : text? entries' other = text? entries other :=
  h.field hother _ _

theorem nodesIn {ask ask' : String → Checked α} {read : Value → Checked α} {default : α}
    (hask : ∀ name, ask name = (Value.find? name entries).elim (.good default) read)
    (hask' : ∀ name, ask' name = (Value.find? name entries').elim (.good default) read) :
    nodesIn entries' other ask' = nodesIn entries other ask := by
  rw [nodesIn_eq entries' other hask', nodesIn_eq entries other hask, h.field hother]

theorem elements : Document.nodesIn entries' other (childrenOf entries').elements =
    Document.nodesIn entries other (childrenOf entries).elements :=
  h.nodesIn hother (elements_childrenOf entries) (elements_childrenOf entries')

theorem actions : Document.nodesIn entries' other (childrenOf entries').actions =
    Document.nodesIn entries other (childrenOf entries).actions :=
  h.nodesIn hother (actions_childrenOf entries) (actions_childrenOf entries')

theorem columns : Document.nodesIn entries' other (childrenOf entries').columns =
    Document.nodesIn entries other (childrenOf entries).columns :=
  h.nodesIn hother (columns_childrenOf entries) (columns_childrenOf entries')

theorem action : Document.nodesIn entries' other (childrenOf entries').action =
    Document.nodesIn entries other (childrenOf entries).action :=
  h.nodesIn hother (action_childrenOf entries) (action_childrenOf entries')

end

theorem readFrame (h : AgreeOff name entries entries') (hname : ∀ other ∈ frameNames, Apart other name)
    (kind : String) : readFrame kind entries' = readFrame kind entries := by
  simp only [frameNames, List.forall_mem_cons] at hname
  obtain ⟨htype, hid, hspacing, hseparator, -⟩ := hname
  unfold Document.readFrame
  rw [h.field htype, h.text? hid, h.field hspacing, h.field hseparator]

end AgreeOff

/-! ## Nodes of known kinds

The other fields of a mapping are read as before, and what they hold is put together with the nodes
of the field in the same way. -/

section

variable {entries entries' : Entries} {f : NodeField}

theorem cardOf_agreeOff {c : Card} (h : cardOf entries (childrenOf entries) = .good c)
    (hf : f ∈ nodeFields "AdaptiveCard") (hagree : AgreeOff f.name entries entries') :
    (fun c => Node.element (.card c)) <$> cardOf entries' (childrenOf entries') =
      (Node.element (.card c)).withField f.name <$> f.nodes entries' := by
  simp only [cardOf, Checked.seq_eq_good, Checked.map_eq_good] at h
  obtain ⟨-, ⟨-, ⟨-, ⟨-, ⟨-, ⟨frame, hframe, rfl⟩, version, hversion, rfl⟩, body, hbody, rfl⟩,
    actions, hactions, rfl⟩, fallback, hfallback, rfl⟩, image, himage, rfl⟩ := h
  simp only [nodeFields_card, List.mem_cons, List.not_mem_nil, or_false] at hf
  rcases hf with rfl | rfl
  · rw [cardOf, hagree.readFrame (by decide), hagree.field (by decide), hagree.actions (by decide),
      hagree.text? (by decide), hagree.text? (by decide), hframe, hversion, hactions, hfallback,
      himage, nodes_elements]
    cases nodesIn entries' "body" (childrenOf entries').elements with
    | good body =>
      refine congrArg Checked.good ?_
      rw [Node.withField_body, filterMap_element]
    | _ => rfl
  · rw [cardOf, hagree.readFrame (by decide), hagree.field (by decide), hagree.elements (by decide),
      hagree.text? (by decide), hagree.text? (by decide), hframe, hversion, hbody, hfallback,
      himage, nodes_actions]
    cases nodesIn entries' "actions" (childrenOf entries').actions with
    | good actions =>
      refine congrArg Checked.good ?_
      rw [Node.withField_actions, filterMap_action]
    | _ => rfl

theorem containerOf_agreeOff {c : Container}
    (h : containerOf entries (childrenOf entries) = .good c)
    (hf : f ∈ nodeFields "Container") (hagree : AgreeOff f.name entries entries') :
    (fun c => Node.element (.container c)) <$> containerOf entries' (childrenOf entries') =
      (Node.element (.container c)).withField f.name <$> f.nodes entries' := by
  simp only [containerOf, Checked.seq_eq_good, Checked.map_eq_good] at h
  obtain ⟨-, ⟨-, ⟨frame, hframe, rfl⟩, items, hitems, rfl⟩, action, haction, rfl⟩ := h
  simp only [nodeFields_container, List.mem_cons, List.not_mem_nil, or_false] at hf
  rcases hf with rfl | rfl
  · rw [containerOf, hagree.readFrame (by decide), hagree.action (by decide), hframe, haction,
      nodes_elements]
    cases nodesIn entries' "items" (childrenOf entries').elements with
    | good items =>
      refine congrArg Checked.good ?_
      rw [Node.withField_containerItems, filterMap_element]
    | _ => rfl
  · rw [containerOf, hagree.readFrame (by decide), hagree.elements (by decide), hframe, hitems,
      nodes_action]
    cases nodesIn entries' "selectAction" (childrenOf entries').action with
    | good action =>
      refine congrArg Checked.good ?_
      rw [Node.withField_containerSelection, filterMap_action, Option.head?_toList]
    | _ => rfl

theorem columnOf_agreeOff {c : Column} (h : columnOf entries (childrenOf entries) = .good c)
    (hf : f ∈ nodeFields "Column") (hagree : AgreeOff f.name entries entries') :
    (fun c => Node.element (.column c)) <$> columnOf entries' (childrenOf entries') =
      (Node.element (.column c)).withField f.name <$> f.nodes entries' := by
  simp only [columnOf, Checked.seq_eq_good, Checked.map_eq_good] at h
  obtain ⟨-, ⟨-, ⟨-, ⟨-, ⟨frame, hframe, rfl⟩, items, hitems, rfl⟩, width, hwidth, rfl⟩, size, hsize,
    rfl⟩, action, haction, rfl⟩ := h
  simp only [nodeFields_column, List.mem_cons, List.not_mem_nil, or_false] at hf
  rcases hf with rfl | rfl
  · rw [columnOf, hagree.readFrame (by decide), hagree.field (by decide), hagree.field (by decide),
      hagree.action (by decide), hframe, hwidth, hsize, haction, nodes_elements]
    cases nodesIn entries' "items" (childrenOf entries').elements with
    | good items =>
      refine congrArg Checked.good ?_
      rw [Node.withField_columnItems, filterMap_element]
    | _ => rfl
  · rw [columnOf, hagree.readFrame (by decide), hagree.field (by decide), hagree.field (by decide),
      hagree.elements (by decide), hframe, hwidth, hsize, hitems, nodes_action]
    cases nodesIn entries' "selectAction" (childrenOf entries').action with
    | good action =>
      refine congrArg Checked.good ?_
      rw [Node.withField_columnSelection, filterMap_action, Option.head?_toList]
    | _ => rfl

theorem columnSetOf_agreeOff {s : ColumnSet}
    (h : columnSetOf entries (childrenOf entries) = .good s)
    (hf : f ∈ nodeFields "ColumnSet") (hagree : AgreeOff f.name entries entries') :
    (fun s => Node.element (.columnSet s)) <$> columnSetOf entries' (childrenOf entries') =
      (Node.element (.columnSet s)).withField f.name <$> f.nodes entries' := by
  simp only [columnSetOf, Checked.seq_eq_good, Checked.map_eq_good] at h
  obtain ⟨-, ⟨-, ⟨frame, hframe, rfl⟩, columns, hcolumns, rfl⟩, action, haction, rfl⟩ := h
  simp only [nodeFields_columnSet, List.mem_cons, List.not_mem_nil, or_false] at hf
  rcases hf with rfl | rfl
  · rw [columnSetOf, hagree.readFrame (by decide), hagree.action (by decide), hframe, haction,
      nodes_columns]
    cases nodesIn entries' "columns" (childrenOf entries').columns with
    | good columns =>
      refine congrArg Checked.good ?_
      rw [Node.withField_columns, filterMap_column]
    | _ => rfl
  · rw [columnSetOf, hagree.readFrame (by decide), hagree.columns (by decide), hframe, hcolumns,
      nodes_action]
    cases nodesIn entries' "selectAction" (childrenOf entries').action with
    | good action =>
      refine congrArg Checked.good ?_
      rw [Node.withField_columnSetSelection, filterMap_action, Option.head?_toList]
    | _ => rfl

theorem imageOf_agreeOff {i : Image} (h : imageOf entries (childrenOf entries) = .good i)
    (hf : f ∈ nodeFields "Image") (hagree : AgreeOff f.name entries entries') :
    (fun i => Node.element (.image i)) <$> imageOf entries' (childrenOf entries') =
      (Node.element (.image i)).withField f.name <$> f.nodes entries' := by
  simp only [imageOf, Checked.seq_eq_good, Checked.map_eq_good] at h
  obtain ⟨-, ⟨-, ⟨-, ⟨-, ⟨-, ⟨-, ⟨frame, hframe, rfl⟩, url, hurl, rfl⟩, alt, halt, rfl⟩, size, hsize,
    rfl⟩, style, hstyle, rfl⟩, alignment, halignment, rfl⟩, action, haction, rfl⟩ := h
  simp only [nodeFields_image, List.mem_cons, List.not_mem_nil, or_false] at hf
  subst hf
  rw [imageOf, hagree.readFrame (by decide), hagree.required (by decide), hagree.text? (by decide),
    hagree.field (by decide), hagree.field (by decide), hagree.field (by decide), hframe, hurl, halt,
    hsize, hstyle, halignment, nodes_action]
  cases nodesIn entries' "selectAction" (childrenOf entries').action with
  | good action =>
    refine congrArg Checked.good ?_
    rw [Node.withField_imageSelection, filterMap_action, Option.head?_toList]
  | _ => rfl

theorem imageSetOf_agreeOff {s : ImageSet} (h : imageSetOf entries (childrenOf entries) = .good s)
    (hf : f ∈ nodeFields "ImageSet") (hagree : AgreeOff f.name entries entries') :
    (fun s => Node.element (.imageSet s)) <$> imageSetOf entries' (childrenOf entries') =
      (Node.element (.imageSet s)).withField f.name <$> f.nodes entries' := by
  simp only [imageSetOf, Checked.seq_eq_good, Checked.map_eq_good] at h
  obtain ⟨-, ⟨-, ⟨frame, hframe, rfl⟩, images, himages, rfl⟩, size, hsize, rfl⟩ := h
  simp only [nodeFields_imageSet, List.mem_cons, List.not_mem_nil, or_false] at hf
  subst hf
  rw [imageSetOf, hagree.readFrame (by decide), hagree.field (by decide), hframe, hsize, nodes_images]
  cases nodesIn entries' "images" (childrenOf entries').images with
  | good images =>
    refine congrArg Checked.good ?_
    rw [Node.withField_images, filterMap_image]
  | _ => rfl

theorem showCardOf_agreeOff {a : Action} (h : showCardOf entries (childrenOf entries) = .good a)
    (hf : f ∈ nodeFields "Action.ShowCard") (hagree : AgreeOff f.name entries entries') :
    Node.action <$> showCardOf entries' (childrenOf entries') =
      (Node.action a).withField f.name <$> f.nodes entries' := by
  simp only [showCardOf, Checked.seq_eq_good, Checked.map_eq_good] at h
  obtain ⟨-, ⟨-, ⟨frame, hframe, rfl⟩, title, htitle, rfl⟩, card, hcard, rfl⟩ := h
  simp only [nodeFields_showCard, List.mem_cons, List.not_mem_nil, or_false] at hf
  subst hf
  rw [showCardOf, hagree.readFrame (by decide), hagree.text? (by decide), hframe, htitle, nodes_card]
  cases nodesIn entries' "card" (childrenOf entries').card with
  | good card =>
    refine congrArg Checked.good ?_
    rw [Node.withField_shownCard, filterMap_card, Option.head?_toList]
  | _ => rfl

theorem elementOf?_agreeOff {kind : String} {e : Element}
    (h : elementOf? kind entries (childrenOf entries) = some (.good e))
    (hf : f ∈ nodeFields kind) (hagree : AgreeOff f.name entries entries') :
    ∃ x, elementOf? kind entries' (childrenOf entries') = some x ∧
      Node.element <$> x = (Node.element e).withField f.name <$> f.nodes entries' := by
  have hgood {α : Type} {make : α → Element} {x : Checked α}
      (h : some (make <$> x) = some (.good e)) : ∃ a, x = .good a ∧ make a = e :=
    Checked.map_eq_good.mp (Option.some.inj h)
  unfold elementOf? at h ⊢
  split at h
  · obtain ⟨c, hc, rfl⟩ := hgood h
    exact ⟨_, rfl, (map_map _ _ _).trans (cardOf_agreeOff hc hf hagree)⟩
  · obtain ⟨c, hc, rfl⟩ := hgood h
    exact ⟨_, rfl, (map_map _ _ _).trans (containerOf_agreeOff hc hf hagree)⟩
  · obtain ⟨c, hc, rfl⟩ := hgood h
    exact ⟨_, rfl, (map_map _ _ _).trans (columnOf_agreeOff hc hf hagree)⟩
  · obtain ⟨s, hs, rfl⟩ := hgood h
    exact ⟨_, rfl, (map_map _ _ _).trans (columnSetOf_agreeOff hs hf hagree)⟩
  · cases hf
  · obtain ⟨i, hi, rfl⟩ := hgood h
    exact ⟨_, rfl, (map_map _ _ _).trans (imageOf_agreeOff hi hf hagree)⟩
  · obtain ⟨s, hs, rfl⟩ := hgood h
    exact ⟨_, rfl, (map_map _ _ _).trans (imageSetOf_agreeOff hs hf hagree)⟩
  all_goals first | cases hf | cases h

theorem actionOf?_agreeOff {kind : String} {a : Action}
    (h : actionOf? kind entries (childrenOf entries) = some (.good a))
    (hf : f ∈ nodeFields kind) (hagree : AgreeOff f.name entries entries') :
    ∃ x, actionOf? kind entries' (childrenOf entries') = some x ∧
      Node.action <$> x = (Node.action a).withField f.name <$> f.nodes entries' := by
  unfold actionOf? at h ⊢
  split at h
  · cases hf
  · cases hf
  · exact ⟨_, rfl, showCardOf_agreeOff (Option.some.inj h) hf hagree⟩
  · cases h

end

/-! ## Roles -/

/-- The members that say the kind of a mapping are no nodes. -/
theorem apart_type {kind : String} {f : NodeField} (hf : f ∈ nodeFields kind) :
    "type" ≠ f.name ∧ "type" ≠ lowLined f.name := by
  have hnames : ∀ f ∈ nodeFields kind, "type" ≠ f.name ∧ "type" ≠ lowLined f.name := by
    unfold nodeFields
    split <;> decide
  exact hnames f hf

namespace Role

variable {role : Role} {entries entries' : Entries} {n : Node} {f : NodeField}

theorem kindIn_congr (h : Value.find? "type" entries' = Value.find? "type" entries) :
    role.kindIn entries' = role.kindIn entries := by
  have hkind : Document.kindIn entries' = Document.kindIn entries := by
    unfold Document.kindIn
    rw [h]
  cases role with
  | element | action => rw [kindIn, kindIn, hkind]
  | column | image | card => rfl

/-- What was read as a node of a known kind is of this kind. -/
theorem kindIn_of_read (h : role.read (.map entries) = .good n) (hknown : n.isUnknown = false) :
    role.kindIn entries = .ok (some n.kind) := by
  cases hkind : role.kindIn entries with
  | error kind =>
    rw [read_of_error hkind] at h
    cases h
  | ok kind? =>
    cases kind? with
    | none =>
      rw [((read_of_none hkind).good n h).1] at hknown
      cases hknown
    | some kind => rw [((read_of_some hkind).good n h).2.1]

/-- The nodes of such a node were read from its fields. -/
theorem nodes_of_read (h : role.read (.map entries) = .good n) (hknown : n.isUnknown = false)
    (hf : f ∈ nodeFields n.kind) : f.nodes entries = .good (n.inField f.name) :=
  ((read_of_some (kindIn_of_read h hknown)).good n h).2.2 f hf

/-- A reader for the nodes whose kind a mapping says is local if the readers for the kinds are. -/
theorem readByKind_agreeOff {α : Type} {make : α → Node} {kinds : List String} {kind : String}
    {known? : Entries → String → Option (Checked α)} {unknown unknown' : Checked α} {a : α}
    (hknown : ∀ entries kind, (known? entries kind).isSome = kinds.contains kind)
    (hkind : (Document.kindIn entries).map (·.filter kinds.contains) = .ok (some kind))
    (hkind' : (Document.kindIn entries').map (·.filter kinds.contains) = .ok (some kind))
    (h : readByKind entries (known? entries) unknown = .good a)
    (hlocal : known? entries kind = some (.good a) → ∃ x, known? entries' kind = some x ∧
      make <$> x = (make a).withField f.name <$> f.nodes entries') :
    make <$> readByKind entries' (known? entries') unknown' =
      (make a).withField f.name <$> (f.nodes entries').underAll [kind] := by
  obtain ⟨x, hx, hread⟩ := readByKind_of_some (hknown entries) hkind
  obtain ⟨x', hx', hread'⟩ := readByKind_of_some (hknown entries') hkind'
  rw [hread] at h
  obtain rfl := Checked.under_eq_good.mp h
  obtain ⟨y, hy, hfield⟩ := hlocal hx
  obtain rfl := Option.some.inj (hx'.symm.trans hy)
  rw [hread', map_under, hfield, ← map_under]
  rfl

/-- **Locality.** A mapping that differs in a field with nodes from one that was read as a node is
read as this node with the nodes of its own field, and has the issues of its own field. -/
theorem read_agreeOff (h : role.read (.map entries) = .good n) (hknown : n.isUnknown = false)
    (hf : f ∈ nodeFields n.kind) (hagree : AgreeOff f.name entries entries') :
    ∃ steps, role.read (.map entries') = n.withField f.name <$> (f.nodes entries').underAll steps := by
  have hkind := kindIn_of_read h hknown
  have hkind' : role.kindIn entries' = .ok (some n.kind) := by
    obtain ⟨hname, hlow⟩ := apart_type hf
    rw [kindIn_congr (hagree "type" hname hlow), hkind]
  -- only elements and actions are read by the kind that the node names
  cases role with
  | element =>
    have hkinds (entries : Entries) kind := elementOf?_isSome kind entries (childrenOf entries)
    obtain ⟨e, he, rfl⟩ := Checked.map_eq_good.mp h
    rw [readElement] at he
    refine ⟨[(Node.element e).kind], ?_⟩
    rw [read, readElement]
    exact readByKind_agreeOff hkinds hkind hkind' he fun hx => elementOf?_agreeOff hx hf hagree
  | action =>
    have hkinds (entries : Entries) kind := actionOf?_isSome kind entries (childrenOf entries)
    obtain ⟨a, ha, rfl⟩ := Checked.map_eq_good.mp h
    rw [readAction] at ha
    refine ⟨[(Node.action a).kind], ?_⟩
    rw [read, readAction]
    exact readByKind_agreeOff hkinds hkind hkind' ha fun hx => actionOf?_agreeOff hx hf hagree
  | column =>
    obtain ⟨c, hc, rfl⟩ := Checked.map_eq_good.mp h
    rw [readColumn] at hc
    refine ⟨[], ?_⟩
    rw [read, readColumn]
    exact columnOf_agreeOff hc hf hagree
  | image =>
    obtain ⟨i, hi, rfl⟩ := Checked.map_eq_good.mp h
    rw [readImage] at hi
    refine ⟨[], ?_⟩
    rw [read, readImage]
    exact imageOf_agreeOff hi hf hagree
  | card =>
    obtain ⟨c, hc, rfl⟩ := Checked.map_eq_good.mp h
    rw [readCard] at hc
    refine ⟨[], ?_⟩
    rw [read, readCard]
    exact cardOf_agreeOff hc hf hagree

end Role

end Placard.Document
