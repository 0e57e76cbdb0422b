import Placard.Document.Source
import Placard.Proofs.Document.Node
import Placard.Proofs.Json.Writable
import Placard.Proofs.Record.Checked

/-!
# What reading a card ensures

A node of unknown kind is of no kind of its family, for otherwise it would have been read as a node
of that kind. The data that an action submits is a part of the document, so it can be written if the
document was read from JSON. This holds of all nodes of a card and of what they are selected by
(`areLoaded_of_parse`).
-/

namespace Placard.Document

open Placard.Data Placard.Record Placard.Json

/-! ## Loaded nodes -/

namespace Node

/-- What a node is selected by, if it is. -/
def selection? : Node → Option Action
  | .element (.container c) => c.selectAction
  | .element (.column c) => c.selectAction
  | .element (.columnSet s) => s.selectAction
  | .element (.image i) => i.selectAction
  | _ => none

/-- Whether a node is as reading JSON leaves it: an unknown kind is none of the family, and data can
be written. -/
def IsLoaded : Node → Prop
  | .element (.unknown u) => u.kind ∉ elementKinds
  | .action (.unknown u) => u.kind ∉ actionKinds
  | .action (.submit _ _ data) => IsWritable data
  | _ => True

/-- Whether a node, all nodes below it and what they are selected by are loaded. -/
def AreLoaded (n : Node) : Prop :=
  ∀ m ∈ n.nodes, m.IsLoaded ∧ ∀ a ∈ m.selection?, (action a).IsLoaded

theorem areLoaded_iff {n : Node} : n.AreLoaded ↔
    (n.IsLoaded ∧ ∀ a ∈ n.selection?, (action a).IsLoaded) ∧ ∀ m ∈ n.parts, m.AreLoaded := by
  unfold AreLoaded
  rw [nodes_eq, List.forall_mem_cons, List.forall_mem_flatMap]

theorem AreLoaded.self {n : Node} (h : n.AreLoaded) : n.IsLoaded :=
  (areLoaded_iff.mp h).1.1

end Node

/-- Whether the nodes in the members of a mapping are loaded if they are read. -/
structure Children.AreLoaded (nodes : Children) : Prop where
  elements : ∀ name es, nodes.elements name = .good es → ∀ e ∈ es, (Node.element e).AreLoaded
  actions : ∀ name as, nodes.actions name = .good as → ∀ a ∈ as, (Node.action a).AreLoaded
  columns : ∀ name cs, nodes.columns name = .good cs →
    ∀ c ∈ cs, (Node.element (.column c)).AreLoaded
  images : ∀ name is, nodes.images name = .good is → ∀ i ∈ is, (Node.element (.image i)).AreLoaded
  action : ∀ name a?, nodes.action name = .good a? → ∀ a ∈ a?, (Node.action a).AreLoaded
  card : ∀ name c?, nodes.card name = .good c? → ∀ c ∈ c?, (Node.element (.card c)).AreLoaded

theorem nodesIn_good {α : Type} {entries : Entries} {name : String} {read : String → Checked α}
    {a : α} (h : nodesIn entries name read = .good a) : ∃ spelling, read spelling = .good a := by
  unfold nodesIn at h
  split at h
  · exact ⟨_, Checked.under_eq_good.mp h⟩
  · exact ⟨_, h⟩

/-- A node with parts and a selection that are loaded, and nothing else to be said of it. -/
theorem areLoaded_of_parts {n : Node} (hself : n.IsLoaded)
    (hparts : ∀ m ∈ n.parts, m.AreLoaded)
    (haction : ∀ a ∈ n.selection?, (Node.action a).AreLoaded) : n.AreLoaded :=
  Node.areLoaded_iff.mpr ⟨⟨hself, fun a ha => (haction a ha).self⟩, hparts⟩

theorem areLoaded_of_no_parts {n : Node} (hself : n.IsLoaded) (hparts : n.parts = [])
    (hselection : n.selection? = none) : n.AreLoaded := by
  refine areLoaded_of_parts hself ?_ ?_
  · rw [hparts]
    exact fun _ hm => absurd hm List.not_mem_nil
  · rw [hselection]
    exact fun _ ha => absurd ha (by simp)

section

variable {entries : Entries} {nodes : Children} (hnodes : nodes.AreLoaded)

include hnodes

theorem cardOf_areLoaded {c : Card} (h : cardOf entries nodes = .good c) :
    (Node.element (.card c)).AreLoaded := by
  simp only [cardOf, Checked.seq_eq_good, Checked.map_eq_good] at h
  obtain ⟨-, ⟨-, ⟨-, ⟨-, ⟨-, ⟨frame, -, rfl⟩, version, -, rfl⟩, body, hbody, rfl⟩, actions,
    hactions, rfl⟩, fallback, -, rfl⟩, image, -, rfl⟩ := h
  obtain ⟨_, hbody⟩ := nodesIn_good hbody
  obtain ⟨_, hactions⟩ := nodesIn_good hactions
  refine areLoaded_of_parts trivial ?_ fun _ ha => by cases ha
  exact List.forall_mem_append.mpr ⟨List.forall_mem_map.mpr (hnodes.elements _ _ hbody),
    List.forall_mem_map.mpr (hnodes.actions _ _ hactions)⟩

theorem containerOf_areLoaded {c : Container} (h : containerOf entries nodes = .good c) :
    (Node.element (.container c)).AreLoaded := by
  simp only [containerOf, Checked.seq_eq_good, Checked.map_eq_good] at h
  obtain ⟨-, ⟨-, ⟨frame, -, rfl⟩, items, hitems, rfl⟩, action, haction, rfl⟩ := h
  obtain ⟨_, hitems⟩ := nodesIn_good hitems
  obtain ⟨_, haction⟩ := nodesIn_good haction
  exact areLoaded_of_parts trivial (List.forall_mem_map.mpr (hnodes.elements _ _ hitems))
    (hnodes.action _ _ haction)

theorem columnOf_areLoaded {c : Column} (h : columnOf entries nodes = .good c) :
    (Node.element (.column c)).AreLoaded := by
  simp only [columnOf, Checked.seq_eq_good, Checked.map_eq_good] at h
  obtain ⟨-, ⟨-, ⟨-, ⟨-, ⟨frame, -, rfl⟩, items, hitems, rfl⟩, width, -, rfl⟩, size, -, rfl⟩,
    action, haction, rfl⟩ := h
  obtain ⟨_, hitems⟩ := nodesIn_good hitems
  obtain ⟨_, haction⟩ := nodesIn_good haction
  exact areLoaded_of_parts trivial (List.forall_mem_map.mpr (hnodes.elements _ _ hitems))
    (hnodes.action _ _ haction)

theorem columnSetOf_areLoaded {c : ColumnSet} (h : columnSetOf entries nodes = .good c) :
    (Node.element (.columnSet c)).AreLoaded := by
  simp only [columnSetOf, Checked.seq_eq_good, Checked.map_eq_good] at h
  obtain ⟨-, ⟨-, ⟨frame, -, rfl⟩, columns, hcolumns, rfl⟩, action, haction, rfl⟩ := h
  obtain ⟨_, hcolumns⟩ := nodesIn_good hcolumns
  obtain ⟨_, haction⟩ := nodesIn_good haction
  exact areLoaded_of_parts trivial (List.forall_mem_map.mpr (hnodes.columns _ _ hcolumns))
    (hnodes.action _ _ haction)

theorem imageOf_areLoaded {i : Image} (h : imageOf entries nodes = .good i) :
    (Node.element (.image i)).AreLoaded := by
  simp only [imageOf, Checked.seq_eq_good, Checked.map_eq_good] at h
  obtain ⟨-, ⟨-, ⟨-, ⟨-, ⟨-, ⟨-, ⟨frame, -, rfl⟩, url, -, rfl⟩, alt, -, rfl⟩, size, -, rfl⟩, style,
    -, rfl⟩, alignment, -, rfl⟩, action, haction, rfl⟩ := h
  obtain ⟨_, haction⟩ := nodesIn_good haction
  exact areLoaded_of_parts trivial (fun _ hm => absurd hm List.not_mem_nil)
    (hnodes.action _ _ haction)

theorem imageSetOf_areLoaded {i : ImageSet} (h : imageSetOf entries nodes = .good i) :
    (Node.element (.imageSet i)).AreLoaded := by
  simp only [imageSetOf, Checked.seq_eq_good, Checked.map_eq_good] at h
  obtain ⟨-, ⟨-, ⟨frame, -, rfl⟩, images, himages, rfl⟩, size, -, rfl⟩ := h
  obtain ⟨_, himages⟩ := nodesIn_good himages
  exact areLoaded_of_parts trivial (List.forall_mem_map.mpr (hnodes.images _ _ himages))
    fun _ ha => by cases ha

theorem showCardOf_areLoaded {a : Action} (h : showCardOf entries nodes = .good a) :
    (Node.action a).AreLoaded := by
  simp only [showCardOf, Checked.seq_eq_good, Checked.map_eq_good] at h
  obtain ⟨-, ⟨-, ⟨frame, -, rfl⟩, title, -, rfl⟩, card, hcard, rfl⟩ := h
  obtain ⟨_, hcard⟩ := nodesIn_good hcard
  refine areLoaded_of_parts trivial (List.forall_mem_map.mpr fun c hc => ?_) fun _ ha => by cases ha
  exact hnodes.card _ _ hcard c (Option.mem_toList.mp hc)

omit hnodes in
theorem submitOf_areLoaded (hentries : ∀ e ∈ entries, IsWritable e.2) {a : Action}
    (h : submitOf entries = .good a) : (Node.action a).AreLoaded := by
  simp only [submitOf, Checked.seq_eq_good, Checked.map_eq_good] at h
  obtain ⟨-, ⟨-, ⟨frame, -, rfl⟩, title, -, rfl⟩, data, hdata, rfl⟩ := h
  refine areLoaded_of_no_parts ?_ rfl rfl
  unfold field at hdata
  split at hdata
  · next hfind =>
    obtain rfl := Checked.good.inj (Checked.under_eq_good.mp hdata)
    obtain ⟨key, hmem⟩ := mem_of_find?_spelling hfind
    exact hentries _ hmem
  · obtain rfl := Checked.good.inj hdata
    exact isWritable_iff.mpr trivial

theorem elementOf?_areLoaded {kind : String} {e : Element}
    (h : elementOf? kind entries nodes = some (.good e)) : (Node.element e).AreLoaded := by
  have hgood {α : Type} {f : α → Element} {x : Checked α} (h : some (f <$> x) = some (.good e)) :
      ∃ a, x = .good a ∧ f a = e := Checked.map_eq_good.mp (Option.some.inj h)
  unfold elementOf? at h
  split at h
  · obtain ⟨c, hc, rfl⟩ := hgood h
    exact cardOf_areLoaded hnodes hc
  · obtain ⟨c, hc, rfl⟩ := hgood h
    exact containerOf_areLoaded hnodes hc
  · obtain ⟨c, hc, rfl⟩ := hgood h
    exact columnOf_areLoaded hnodes hc
  · obtain ⟨c, hc, rfl⟩ := hgood h
    exact columnSetOf_areLoaded hnodes hc
  · obtain ⟨f, -, rfl⟩ := hgood h
    exact areLoaded_of_no_parts trivial rfl rfl
  · obtain ⟨i, hi, rfl⟩ := hgood h
    exact imageOf_areLoaded hnodes hi
  · obtain ⟨i, hi, rfl⟩ := hgood h
    exact imageSetOf_areLoaded hnodes hi
  · obtain ⟨t, -, rfl⟩ := hgood h
    exact areLoaded_of_no_parts trivial rfl rfl
  · obtain ⟨c, -, rfl⟩ := hgood h
    exact areLoaded_of_no_parts trivial rfl rfl
  · obtain ⟨i, -, rfl⟩ := hgood h
    exact areLoaded_of_no_parts trivial rfl rfl
  · obtain ⟨i, -, rfl⟩ := hgood h
    exact areLoaded_of_no_parts trivial rfl rfl
  · obtain ⟨p, -, rfl⟩ := hgood h
    exact areLoaded_of_no_parts trivial rfl rfl
  · obtain ⟨p, -, rfl⟩ := hgood h
    exact areLoaded_of_no_parts trivial rfl rfl
  · obtain ⟨t, -, rfl⟩ := hgood h
    exact areLoaded_of_no_parts trivial rfl rfl
  · cases h

theorem actionOf?_areLoaded (hentries : ∀ e ∈ entries, IsWritable e.2) {kind : String} {a : Action}
    (h : actionOf? kind entries nodes = some (.good a)) : (Node.action a).AreLoaded := by
  unfold actionOf? at h
  split at h
  · exact submitOf_areLoaded hentries (Option.some.inj h)
  · have hopen := Option.some.inj h
    simp only [openUrlOf, Checked.seq_eq_good, Checked.map_eq_good] at hopen
    obtain ⟨-, ⟨-, ⟨frame, -, rfl⟩, title, -, rfl⟩, url, -, rfl⟩ := hopen
    exact areLoaded_of_no_parts trivial rfl rfl
  · exact showCardOf_areLoaded hnodes (Option.some.inj h)
  · cases h

end

/-! ## Nodes of unknown kind -/

theorem not_mem_elementKinds {kind : String} {entries : Entries} {nodes : Children}
    (h : elementOf? kind entries nodes = none) : kind ∉ elementKinds := by
  intro hkind
  simp only [elementKinds, List.mem_cons, List.not_mem_nil, or_false] at hkind
  rcases hkind with rfl | rfl | rfl | rfl | rfl | rfl | rfl | rfl | rfl | rfl | rfl | rfl | rfl |
    rfl
  all_goals cases h

theorem not_mem_actionKinds {kind : String} {entries : Entries} {nodes : Children}
    (h : actionOf? kind entries nodes = none) : kind ∉ actionKinds := by
  intro hkind
  simp only [actionKinds, List.mem_cons, List.not_mem_nil, or_false] at hkind
  rcases hkind with rfl | rfl | rfl
  all_goals cases h

/-- In JSON only a text is read as a kind, and the kind is that text. -/
theorem kindIn_of_readHead {entries : Entries} (hentries : ∀ e ∈ entries, IsWritable e.2)
    {head : String × Frame} (h : readHead entries = .good head) :
    kindIn entries = .ok (some head.1) := by
  have hspelling : lowLined "type" = "type" := by decide
  simp only [readHead, Checked.seq_eq_good, Checked.map_eq_good] at h
  obtain ⟨-, ⟨-, ⟨-, ⟨kind, hkind, rfl⟩, id, -, rfl⟩, spacing, -, rfl⟩, separator, -, rfl⟩ := h
  unfold required Record.find? at hkind
  unfold kindIn
  cases hfind : Value.find? "type" entries with
  | none =>
    rw [hfind] at hkind
    dsimp only at hkind
    rw [hspelling, hfind] at hkind
    cases hkind
  | some v =>
    rw [hfind] at hkind
    have htext := Checked.under_eq_good.mp hkind
    obtain ⟨key, hmem⟩ := mem_of_find? hfind
    have hwritable := hentries _ hmem
    cases v with
    | text s =>
      obtain rfl := Checked.good.inj htext
      rfl
    | bytes octets => exact (isWritable_iff.mp hwritable).elim
    | _ => cases htext

theorem readByKind_good {α : Type} {entries : Entries} {known? : String → Option (Checked α)}
    {unknown : Checked α} {a : α} (h : readByKind entries known? unknown = .good a) :
    (∃ kind, known? kind = some (.good a)) ∨
      unknown = .good a ∧ ∀ kind, kindIn entries = .ok (some kind) → known? kind = none := by
  unfold readByKind at h
  split at h
  · cases h
  · next hkind =>
    exact .inr ⟨Checked.under_eq_good.mp h, fun kind hsome => by rw [hkind] at hsome; cases hsome⟩
  · next kind hkind =>
    split at h
    · next node hnode =>
      rw [Checked.under_eq_good.mp h] at hnode
      exact .inl ⟨kind, hnode⟩
    · next hnone =>
      refine .inr ⟨Checked.under_eq_good.mp h, fun other hother => ?_⟩
      obtain rfl := Option.some.inj (Except.ok.inj (hkind.symm.trans hother))
      exact hnone

/-! ## Lists of nodes -/

theorem eachElement_eq (position : Nat) (vs : List Value) :
    eachElement position vs = each readElement position vs := by
  induction vs generalizing position with
  | nil => rw [eachElement, each]
  | cons v vs ih => rw [eachElement, each, ih]

theorem eachAction_eq (position : Nat) (vs : List Value) :
    eachAction position vs = each readAction position vs := by
  induction vs generalizing position with
  | nil => rw [eachAction, each]
  | cons v vs ih => rw [eachAction, each, ih]

theorem eachColumn_eq (position : Nat) (vs : List Value) :
    eachColumn position vs = each readColumn position vs := by
  induction vs generalizing position with
  | nil => rw [eachColumn, each]
  | cons v vs ih => rw [eachColumn, each, ih]

theorem eachImage_eq (position : Nat) (vs : List Value) :
    eachImage position vs = each readImage position vs := by
  induction vs generalizing position with
  | nil => rw [eachImage, each]
  | cons v vs ih => rw [eachImage, each, ih]

theorem elementsIn_eq (v : Value) : elementsIn v = listOf readElement v := by
  unfold elementsIn listOf
  cases v <;> first | exact eachElement_eq 0 _ | rfl

theorem actionsIn_eq (v : Value) : actionsIn v = listOf readAction v := by
  unfold actionsIn listOf
  cases v <;> first | exact eachAction_eq 0 _ | rfl

theorem columnsIn_eq (v : Value) : columnsIn v = listOf readColumn v := by
  unfold columnsIn listOf
  cases v <;> first | exact eachColumn_eq 0 _ | rfl

theorem imagesIn_eq (v : Value) : imagesIn v = listOf readImage v := by
  unfold imagesIn listOf
  cases v <;> first | exact eachImage_eq 0 _ | rfl

/-! ## Reading values -/

/-- Whether the nodes that are read from a value are loaded. -/
structure ReadsLoaded (v : Value) : Prop where
  element : ∀ e, readElement v = .good e → (Node.element e).AreLoaded
  action : ∀ a, readAction v = .good a → (Node.action a).AreLoaded
  column : ∀ c, readColumn v = .good c → (Node.element (.column c)).AreLoaded
  image : ∀ i, readImage v = .good i → (Node.element (.image i)).AreLoaded
  card : ∀ c, readCard v = .good c → (Node.element (.card c)).AreLoaded

theorem eq_or_eq_of_ite_eq {α : Type} {c : Prop} [Decidable c] {a b d : α}
    (h : (if c then a else b) = d) : a = d ∨ b = d := by
  split at h
  · exact .inl h
  · exact .inr h

theorem forall_of_listOf {α : Type} {read : Value → Checked α} {P : α → Prop} {v : Value}
    (hread : ∀ w ∈ itemsOf v, ∀ a, read w = .good a → P a) {as : List α}
    (h : listOf read v = .good as) : ∀ a ∈ as, P a := by
  intro a ha
  obtain ⟨w, hw, hgood⟩ := listOf_good h a ha
  exact hread w hw a hgood

/-- A member of one node is left out if it is `null`. -/
theorem forall_of_optional {α : Type} {x : Checked α} {P : α → Prop} {v : Value}
    (hread : ∀ a, x = .good a → P a) {a? : Option α}
    (h : (match v with | .null => .good none | _ => x.map some) = Checked.good a?) :
    ∀ a ∈ a?, P a := by
  split at h
  · obtain rfl := Checked.good.inj h
    exact fun _ ha => by cases ha
  · obtain ⟨b, hb, rfl⟩ := Checked.map_eq_good.mp h
    rintro a ha
    obtain rfl := Option.some.inj ha
    exact hread b hb

theorem childrenOf_nil_areLoaded : (childrenOf []).AreLoaded := by
  have hlist {α : Type} {P : α → Prop} (as : List α)
      (h : (Checked.good [] : Checked (List α)) = .good as) : ∀ a ∈ as, P a := by
    obtain rfl := Checked.good.inj h
    exact fun _ ha => absurd ha List.not_mem_nil
  have hoption {α : Type} {P : α → Prop} (a? : Option α)
      (h : (Checked.good none : Checked (Option α)) = .good a?) : ∀ a ∈ a?, P a := by
    obtain rfl := Checked.good.inj h
    exact fun _ ha => by cases ha
  rw [childrenOf]
  exact ⟨fun _ => hlist, fun _ => hlist, fun _ => hlist, fun _ => hlist, fun _ => hoption,
    fun _ => hoption⟩

/-- The nodes in the members of a mapping are read from the values of the members and from their
items. -/
theorem childrenOf_areLoaded {entries : Entries} (hself : ∀ e ∈ entries, ReadsLoaded e.2)
    (hitems : ∀ e ∈ entries, ∀ w ∈ itemsOf e.2, ReadsLoaded w) :
    (childrenOf entries).AreLoaded := by
  induction entries with
  | nil => exact childrenOf_nil_areLoaded
  | cons e entries ih =>
    obtain ⟨key, v⟩ := e
    rw [List.forall_mem_cons] at hself hitems
    have hrest := ih hself.2 hitems.2
    rw [childrenOf]
    -- each kind of node is looked for in the first member, or else in the rest
    constructor
    · intro name es h
      rcases eq_or_eq_of_ite_eq h with h | h
      · rw [elementsIn_eq] at h
        exact forall_of_listOf (fun w hw => (hitems.1 w hw).element) h
      · exact hrest.elements name es h
    · intro name as h
      rcases eq_or_eq_of_ite_eq h with h | h
      · rw [actionsIn_eq] at h
        exact forall_of_listOf (fun w hw => (hitems.1 w hw).action) h
      · exact hrest.actions name as h
    · intro name cs h
      rcases eq_or_eq_of_ite_eq h with h | h
      · rw [columnsIn_eq] at h
        exact forall_of_listOf (fun w hw => (hitems.1 w hw).column) h
      · exact hrest.columns name cs h
    · intro name is h
      rcases eq_or_eq_of_ite_eq h with h | h
      · rw [imagesIn_eq] at h
        exact forall_of_listOf (fun w hw => (hitems.1 w hw).image) h
      · exact hrest.images name is h
    · intro name a? h
      rcases eq_or_eq_of_ite_eq h with h | h
      · exact forall_of_optional hself.1.action h
      · exact hrest.action name a? h
    · intro name c? h
      rcases eq_or_eq_of_ite_eq h with h | h
      · exact forall_of_optional hself.1.card h
      · exact hrest.card name c? h

theorem readsLoaded_map {entries : Entries} (hentries : ∀ e ∈ entries, IsWritable e.2)
    (hnodes : (childrenOf entries).AreLoaded) : ReadsLoaded (.map entries) where
  element e h := by
    rw [readElement] at h
    rcases readByKind_good h with ⟨kind, hnode⟩ | ⟨hunknown, hnone⟩
    · exact elementOf?_areLoaded hnodes hnode
    · obtain ⟨u, hu, rfl⟩ := Checked.map_eq_good.mp hunknown
      simp only [readUnknownElement, Checked.seq_eq_good, Checked.map_eq_good] at hu
      obtain ⟨-, ⟨head, hhead, rfl⟩, members, -, rfl⟩ := hu
      have hkind := hnone _ (kindIn_of_readHead hentries hhead)
      exact areLoaded_of_no_parts (not_mem_elementKinds hkind) rfl rfl
  action a h := by
    rw [readAction] at h
    rcases readByKind_good h with ⟨kind, hnode⟩ | ⟨hunknown, hnone⟩
    · exact actionOf?_areLoaded hnodes hentries hnode
    · obtain ⟨u, hu, rfl⟩ := Checked.map_eq_good.mp hunknown
      simp only [readUnknownAction, Checked.seq_eq_good, Checked.map_eq_good] at hu
      obtain ⟨-, ⟨-, ⟨head, hhead, rfl⟩, title, -, rfl⟩, members, -, rfl⟩ := hu
      have hkind := hnone _ (kindIn_of_readHead hentries hhead)
      exact areLoaded_of_no_parts (not_mem_actionKinds hkind) rfl rfl
  column c h := by
    rw [readColumn] at h
    exact columnOf_areLoaded hnodes h
  image i h := by
    rw [readImage] at h
    exact imageOf_areLoaded hnodes h
  card c h := by
    rw [readCard] at h
    exact cardOf_areLoaded hnodes h

/-- Nothing but mappings is read as nodes. -/
theorem readsLoaded_of_not_map {v : Value} (h : ∀ entries, v ≠ .map entries) : ReadsLoaded v := by
  constructor
  · intro e he
    unfold readElement at he
    split at he
    · exact absurd rfl (h _)
    · cases he
  · intro a ha
    unfold readAction at ha
    split at ha
    · exact absurd rfl (h _)
    · cases ha
  · intro c hc
    unfold readColumn at hc
    split at hc
    · exact absurd rfl (h _)
    · cases hc
  · intro i hi
    unfold readImage at hi
    split at hi
    · exact absurd rfl (h _)
    · cases hi
  · intro c hc
    unfold readCard at hc
    split at hc
    · exact absurd rfl (h _)
    · cases hc

theorem isWritable_of_mem_itemsOf {v w : Value} (hv : IsWritable v) (h : w ∈ itemsOf v) :
    IsWritable w := by
  cases v with
  | list vs | tuple vs => exact isWritable_iff.mp hv w h
  | set vs => exact (isWritable_iff.mp hv).elim
  | _ => cases h

theorem sizeOf_lt_of_mem_itemsOf {v w : Value} (h : w ∈ itemsOf v) : sizeOf w < sizeOf v := by
  have hitem {vs : List Value} (h : w ∈ vs) : sizeOf w < 1 + sizeOf vs :=
    Nat.lt_of_lt_of_le (List.sizeOf_lt_of_mem h) (Nat.le_add_left _ _)
  cases v with
  | list vs => rw [Value.list.sizeOf_spec]; exact hitem h
  | tuple vs => rw [Value.tuple.sizeOf_spec]; exact hitem h
  | set vs => rw [Value.set.sizeOf_spec]; exact hitem h
  | _ => cases h

theorem sizeOf_lt_of_mem_map {entries : Entries} {e : Value × Value} (h : e ∈ entries) :
    sizeOf e.2 < sizeOf (Value.map entries) := by
  have hentry := List.sizeOf_lt_of_mem h
  obtain ⟨key, v⟩ := e
  simp only [Prod.mk.sizeOf_spec, Value.map.sizeOf_spec] at hentry ⊢
  omega

/-- Whatever is read from a value that can be written is loaded. -/
theorem readsLoaded {v : Value} (hv : IsWritable v) : ReadsLoaded v := by
  induction hsize : sizeOf v using Nat.strongRecOn generalizing v with
  | ind n ih =>
    subst hsize
    cases v with
    | map entries =>
      have hentries : ∀ e ∈ entries, IsWritable e.2 := fun e he => (isWritable_iff.mp hv e he).2
      refine readsLoaded_map hentries (childrenOf_areLoaded (fun e he => ?_) fun e he w hw => ?_)
      · exact ih _ (sizeOf_lt_of_mem_map he) (hentries e he) rfl
      · exact ih _ (Nat.lt_trans (sizeOf_lt_of_mem_itemsOf hw) (sizeOf_lt_of_mem_map he))
          (isWritable_of_mem_itemsOf (hentries e he) hw) rfl
    | _ => exact readsLoaded_of_not_map fun _ h => by cases h

/-! ## Loading -/

/-- The format in which a text is read: that of the name if one is given, else its own. -/
def formatOf? (formatName : Option String) (content : String) : Option Format :=
  match formatName.filter (!·.isEmpty) with
  | none => some (Format.detect content)
  | some name => Format.ofName? name

theorem parseAs_of_parse {formatName : Option String} {content : String} {format : Format}
    {card : Card} {warnings : List Stranger} (hformat : formatOf? formatName content = some format)
    (h : parse formatName content = .ok (.loaded card warnings)) :
    parseAs format content = .ok (.loaded card warnings) := by
  unfold formatOf? at hformat
  unfold parse at h
  split at h
  · cases h
  split at h
  · next hname =>
    rw [hname] at hformat
    obtain rfl := Option.some.inj hformat
    exact h
  · next name hname =>
    rw [hname] at hformat
    dsimp only at hformat
    rw [hformat] at h
    exact h

/-- **The nodes of a card that was loaded from JSON are loaded.** -/
theorem areLoaded_of_parse {formatName : Option String} {content : String}
    {card : Card} {warnings : List Stranger} (hformat : formatOf? formatName content = some .json)
    (h : parse formatName content = .ok (.loaded card warnings)) :
    (Node.element (.card card)).AreLoaded := by
  have hparse := parseAs_of_parse hformat h
  unfold parseAs loadData at hparse
  dsimp only at hparse
  cases hread : Json.read content with
  | error f => rw [hread] at hparse; cases hparse
  | ok v =>
    rw [hread] at hparse
    have hcard : readCard v = .good card := by
      unfold ofData at hparse
      dsimp only at hparse
      split at hparse
      · split at hparse
        · cases hparse
        split at hparse
        · next c hc =>
          obtain ⟨rfl, -⟩ := Outcome.loaded.inj (Except.ok.inj hparse)
          exact hc
        · cases hparse
        · cases hparse
      · cases hparse
    exact (readsLoaded (read_isWritable hread)).card card hcard

end Placard.Document
