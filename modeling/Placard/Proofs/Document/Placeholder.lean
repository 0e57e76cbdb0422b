import Placard.Proofs.Document.Insertion

/-!
# Nodes that stand for unknown kinds

An object of a kind that is not known is read as a placeholder, which keeps the other members of the
object as they are. But a placeholder is a node as well, so what all nodes have is checked: the
name, the spacing and the separator, and the title among actions (`IsPlaceholder`). A document with
such an object more in one of its lists is loaded if and only if these members can be read, and
nothing else changes (`loads_with_stranger`). One bad spacing in an object of a later version of the
schema is enough to lose the card (`parse_wideChart`).
-/

namespace Placard.Document

open Placard.Text Placard.Data Placard.Record

/-! ## Placeholders -/

/-- The entries of an object with these members. -/
abbrev entriesOf (members : List (String × Value)) : Entries :=
  members.map fun m => (.text m.1, m.2)

/-- The node of unknown kind among elements or among actions. -/
def Role.placeholder : Role → Unknown → Node
  | action, u => .action (.unknown u)
  | _, u => .element (.unknown u)

/-- The names of the members that are checked whatever the kind of an element or an action is. -/
def Role.checkedNames : Role → List String
  | action => "title" :: frameNames
  | _ => frameNames

/-- What stands for an object: its kind, what all nodes have as far as it can be read, and all other
members as they are. -/
structure IsPlaceholder (role : Role) (members : List (String × Value)) (u : Unknown) : Prop where
  kind : Value.find? "type" (entriesOf members) = some (.text u.kind)
  id : text? (entriesOf members) "id" = .good u.frame.id
  spacing : field (entriesOf members) "spacing" Keyword.read .default = .good u.frame.spacing
  separator : field (entriesOf members) "separator" switch false = .good u.frame.separator
  title : if role = .action then text? (entriesOf members) "title" = .good u.title
    else u.title = none
  members : u.members = members.filter fun m => !role.checkedNames.contains m.1

section

variable {members : List (String × Value)} {kind : String}

theorem membersBeside_entriesOf (names : List String) (members : List (String × Value)) :
    membersBeside names (entriesOf members) =
      .good (members.filter fun m => !names.contains m.1) := by
  induction members with
  | nil => rfl
  | cons m members ih =>
    obtain ⟨name, v⟩ := m
    have hcons : membersBeside names (entriesOf ((name, v) :: members)) =
        if names.contains name then membersBeside names (entriesOf members)
        else (membersBeside names (entriesOf members)).map ((name, v) :: ·) := by
      rw [entriesOf, List.map_cons, membersBeside]
    rw [hcons, ih, List.filter_cons]
    cases names.contains name <;> rfl

/-- What all nodes have is read from an object if each of its parts is. -/
theorem readHead_eq_good {head : String × Frame}
    (htype : Value.find? "type" (entriesOf members) = some (.text kind)) :
    readHead (entriesOf members) = .good head ↔ head.1 = kind ∧
      text? (entriesOf members) "id" = .good head.2.id ∧
      field (entriesOf members) "spacing" Keyword.read .default = .good head.2.spacing ∧
      field (entriesOf members) "separator" switch false = .good head.2.separator := by
  have hkind : required (entriesOf members) "type" text = .good kind := by
    unfold required Record.find?
    rw [htype]
    rfl
  simp only [readHead, Checked.seq_eq_good, Checked.map_eq_good, hkind, Checked.good.injEq]
  constructor
  · rintro ⟨-, ⟨-, ⟨-, ⟨_, rfl, rfl⟩, id, hid, rfl⟩, spacing, hspacing, rfl⟩, separator, hseparator,
      rfl⟩
    exact ⟨rfl, hid, hspacing, hseparator⟩
  · obtain ⟨name, id, spacing, separator⟩ := head
    rintro ⟨rfl, hid, hspacing, hseparator⟩
    exact ⟨_, ⟨_, ⟨_, ⟨_, rfl, rfl⟩, id, hid, rfl⟩, spacing, hspacing, rfl⟩, separator, hseparator,
      rfl⟩

theorem readUnknownElement_eq_good {u : Unknown}
    (htype : Value.find? "type" (entriesOf members) = some (.text kind)) :
    readUnknownElement (entriesOf members) = .good u ↔ IsPlaceholder .element members u := by
  simp only [readUnknownElement, Checked.seq_eq_good, Checked.map_eq_good, membersBeside_entriesOf,
    readHead_eq_good htype]
  constructor
  · rintro ⟨-, ⟨head, ⟨hkind, hid, hspacing, hseparator⟩, rfl⟩, _, hmembers, rfl⟩
    obtain rfl := Checked.good.inj hmembers
    exact ⟨by rw [htype, hkind], hid, hspacing, hseparator, rfl, rfl⟩
  · intro h
    obtain ⟨name, frame, title, rest⟩ := u
    obtain ⟨hkind, hid, hspacing, hseparator, rfl, rfl⟩ := h
    have hname : name = kind :=
      Value.text.inj (Option.some.inj (hkind.symm.trans htype))
    exact ⟨_, ⟨(name, frame), ⟨hname, hid, hspacing, hseparator⟩, rfl⟩, _, rfl, rfl⟩

theorem readUnknownAction_eq_good {u : Unknown}
    (htype : Value.find? "type" (entriesOf members) = some (.text kind)) :
    readUnknownAction (entriesOf members) = .good u ↔ IsPlaceholder .action members u := by
  simp only [readUnknownAction, Checked.seq_eq_good, Checked.map_eq_good, membersBeside_entriesOf,
    readHead_eq_good htype]
  constructor
  · rintro ⟨-, ⟨-, ⟨head, ⟨hkind, hid, hspacing, hseparator⟩, rfl⟩, title, htitle, rfl⟩, _,
      hmembers, rfl⟩
    obtain rfl := Checked.good.inj hmembers
    exact ⟨by rw [htype, hkind], hid, hspacing, hseparator, htitle, rfl⟩
  · intro h
    obtain ⟨name, frame, title, rest⟩ := u
    obtain ⟨hkind, hid, hspacing, hseparator, htitle, rfl⟩ := h
    have hname : name = kind :=
      Value.text.inj (Option.some.inj (hkind.symm.trans htype))
    exact ⟨_, ⟨_, ⟨(name, frame), ⟨hname, hid, hspacing, hseparator⟩, rfl⟩, title, htitle, rfl⟩, _,
      rfl, rfl⟩

/-- The names of members that are checked, but for the type, are the names of fields with defaults.
-/
theorem exists_placeholder {role : Role}
    (htype : Value.find? "type" (entriesOf members) = some (.text kind))
    (hplain : ∀ m ∈ members, m.1 ∈ role.checkedNames → m.1 = "type") :
    ∃ u, IsPlaceholder role members u ∧ u.kind = kind ∧ u.frame = {} ∧ u.title = none := by
  -- of the names that are checked only the type is there, so the rest is at its defaults
  have hnone (name : String) (hname : name ∈ role.checkedNames) (hother : name ≠ "type") :
      Value.find? name (entriesOf members) = none := by
    unfold Value.find?
    rw [Option.map_eq_none_iff, List.find?_eq_none]
    rintro e he hnamed
    obtain ⟨m, hm, rfl⟩ := List.mem_map.mp he
    obtain rfl : m.1 = name := by simpa using hnamed
    exact hother (hplain m hm hname)
  have hfield {α : Type} (name : String) (read : Value → Checked α) (default : α)
      (hname : name ∈ role.checkedNames) (hother : name ≠ "type") (hlow : lowLined name = name) :
      field (entriesOf members) name read default = .good default := by
    have hfind : Record.find? name (entriesOf members) = none := by
      unfold Record.find?
      dsimp only
      rw [hlow, hnone name hname hother]
      rfl
    unfold field
    rw [hfind]
  have hframe : ∀ name ∈ frameNames, name ∈ role.checkedNames := by
    cases role with
    | action => exact fun _ => List.mem_cons_of_mem _
    | _ => exact fun _ h => h
  refine ⟨{ kind, members := members.filter fun m => !role.checkedNames.contains m.1 },
    ⟨htype, hfield _ _ _ (hframe _ (by decide)) (by decide) (by decide),
      hfield _ _ _ (hframe _ (by decide)) (by decide) (by decide),
      hfield _ _ _ (hframe _ (by decide)) (by decide) (by decide), ?_, rfl⟩, rfl, rfl, rfl⟩
  split
  · next haction =>
    subst haction
    exact hfield _ _ _ (by decide) (by decide) (by decide)
  · rfl

end

/-- An object of a kind that neither family knows is read as a placeholder, if it is read. -/
theorem Role.read_stranger {role : Role} (hrole : role = .element ∨ role = .action)
    {members : List (String × Value)} {kind : String}
    (htype : Value.find? "type" (entriesOf members) = some (.text kind))
    (hkind : isKnownKind kind = false) :
    (role.read (.ofMembers members)).isHalted = false ∧
      ∀ n, role.read (.ofMembers members) = .good n ↔
        ∃ u, IsPlaceholder role members u ∧ n = role.placeholder u := by
  obtain ⟨helement, haction⟩ := Bool.or_eq_false_iff.mp hkind
  have hin : Document.kindIn (entriesOf members) = .ok (some kind) := by
    unfold Document.kindIn
    rw [htype]
  have hother {kinds : List String} (h : kinds.contains kind = false) :
      (Document.kindIn (entriesOf members)).map (·.filter kinds.contains) = .ok none := by
    rw [hin]
    exact congrArg Except.ok (Option.filter_eq_none_iff.mpr fun k hk => by
      obtain rfl := Option.some.inj hk
      rw [h]
      decide)
  -- elements and actions differ in their known kinds and in the names that are checked
  rcases hrole with rfl | rfl
  · have hnone : element.kindIn (entriesOf members) = .ok none := hother helement
    have hkinds kind := elementOf?_isSome kind (entriesOf members) (childrenOf (entriesOf members))
    refine ⟨(read_of_none hnone).isHalted, fun n => ?_⟩
    rw [Value.ofMembers, read, readElement, readByKind_of_none hkinds hnone]
    simp only [Checked.map_eq_good, Checked.under_eq_good, readUnknownElement_eq_good htype]
    constructor
    · rintro ⟨-, ⟨u, hu, rfl⟩, rfl⟩
      exact ⟨u, hu, rfl⟩
    · rintro ⟨u, hu, rfl⟩
      exact ⟨_, ⟨u, hu, rfl⟩, rfl⟩
  · have hnone : action.kindIn (entriesOf members) = .ok none := hother haction
    have hkinds kind := actionOf?_isSome kind (entriesOf members) (childrenOf (entriesOf members))
    refine ⟨(read_of_none hnone).isHalted, fun n => ?_⟩
    rw [Value.ofMembers, read, readAction, readByKind_of_none hkinds hnone]
    simp only [Checked.map_eq_good, Checked.under_eq_good, readUnknownAction_eq_good htype]
    constructor
    · rintro ⟨-, ⟨u, hu, rfl⟩, rfl⟩
      exact ⟨u, hu, rfl⟩
    · rintro ⟨u, hu, rfl⟩
      exact ⟨_, ⟨u, hu, rfl⟩, rfl⟩

/-! ## Loading -/

/-- A path to a field of a node below begins with a field of the node. -/
theorem Node.Holds.exists_first {n m : Node} {path : List Step} (h : n.Holds path m) {f : NodeField}
    (hf : f ∈ nodeFields m.kind) :
    ∃ g ∈ nodeFields n.kind, ∃ rest, path ++ [.member f.name] = .member g.name :: rest := by
  cases h with
  | refl => exact ⟨f, hf, [], rfl⟩
  | step hm _ =>
    obtain ⟨g, hg, j, -, rfl⟩ := Node.mem_below.mp hm
    unfold NodeField.stepsTo
    split
    · exact ⟨g, hg, _, rfl⟩
    · exact ⟨g, hg, _, rfl⟩

/-- An item more in a field of a node does not change what the mapping says of its type. -/
theorem find?_type_insertItem {kind : String} {f : NodeField} (hf : f ∈ nodeFields kind) (i : Nat)
    (item : Value) (rest : List Step) (entries : Entries) :
    ∃ entries', insertItem i item (spelledPath (.member f.name :: rest) (.map entries))
        (.map entries) = .map entries' ∧
      Value.find? "type" entries' = Value.find? "type" entries := by
  obtain ⟨hname, hlow⟩ := apart_type hf
  rw [spelledPath]
  cases hfind : Record.find? f.name entries with
  | none => exact ⟨_, rfl, find?_editEntry_of_ne hname⟩
  | some found =>
    obtain ⟨spelling, v⟩ := found
    refine ⟨_, rfl, find?_editEntry_of_ne ?_⟩
    rcases (find?_spelling hfind).2 with rfl | rfl
    · exact hname
    · exact hlow

section

variable {entries : Entries} (hroot : IsCardData entries)

include hroot

theorem loaded_of_read {n : Node} (h : Role.card.read (.map entries) = .good n) :
    ∃ card, n = .element (.card card) ∧
      ofData (.map entries) = .ok (.loaded card (strangers (.map entries))) := by
  obtain ⟨card, hread, rfl⟩ := Checked.map_eq_good.mp h
  refine ⟨card, rfl, ?_⟩
  rw [ofData_of_isCardData hroot, hread]

theorem failed_of_read (hgo : (Role.card.read (.map entries)).isHalted = false)
    (hnot : ∀ n, Role.card.read (.map entries) ≠ .good n) :
    ∃ first more, ofData (.map entries) = .ok (.failed first more) := by
  rw [ofData_of_isCardData hroot]
  rw [Role.read] at hgo hnot
  cases hread : readCard (.map entries) with
  | good card => exact absurd (Checked.map_eq_good.mpr ⟨card, hread, rfl⟩) (hnot _)
  | bad first more => exact ⟨_, _, rfl⟩
  | halted kind =>
    rw [hread] at hgo
    cases hgo

end

/-- A list of a document is one of elements or of actions: it stands in a field of a node of the
card, which is of a known kind. -/
structure IsNodeList (data : Value) (card : Card) (path : List Step) (n : Node) (f : NodeField)
    (items : List Value) : Prop where
  holds : (Node.element (.card card)).Holds path n
  known : n.isUnknown = false
  field : f ∈ nodeFields n.kind
  isList : f.isList = true
  role : f.role = .element ∨ f.role = .action
  items : valueAt? (spelledPath (path ++ [.member f.name]) data) data = some (.list items)

/-- A document with an item more in a list of a node. -/
def withItem (data : Value) (path : List Step) (f : NodeField) (i : Nat) (item : Value) : Value :=
  insertItem i item (spelledPath (path ++ [.member f.name]) data) data

section

variable {data : Value} {card : Card} {warnings : List Stranger} {path : List Step} {n : Node}
  {f : NodeField} {items : List Value} {i : Nat}

/-- A document with an item more is read as the same card with what the item is read as. -/
theorem read_withItem (hload : ofData data = .ok (.loaded card warnings))
    (hlist : IsNodeList data card path n f items) (hi : i ≤ items.length) (item : Value) :
    ∃ (entries : Entries) (steps : List String) (place : Node → Node),
      withItem data path f i item = .map entries ∧ IsCardData entries ∧
      (∀ new, Node.Inserts f.name i new (.element (.card card)) path (place new)) ∧
      Role.card.read (.map entries) = place <$> (f.role.read item).underAll steps := by
  obtain ⟨entries, rfl, hroot, hread, -⟩ := card_of_ofData hload
  have hcard : Role.card.read (.map entries) = .good (.element (.card card)) :=
    Checked.map_eq_good.mpr ⟨card, hread, rfl⟩
  obtain ⟨steps, place, hplace, hgrown⟩ := read_insertItem hlist.holds hcard hlist.known
    hlist.field hlist.isList hlist.items hi item
  -- the type of the document is not below a field with nodes
  obtain ⟨g, hg, rest, hfirst⟩ := hlist.holds.exists_first hlist.field
  obtain ⟨grown, heq, htype⟩ := find?_type_insertItem hg i item rest entries
  rw [← hfirst] at heq
  rw [heq] at hgrown
  exact ⟨grown, steps, place, heq, fun type h => hroot type (htype ▸ h), hplace, hgrown⟩

/-- **A node of unknown kind more.** Into a list of elements or of actions of a document that is
loaded, at any position, an object is put whose type is no known kind. The document is then loaded
if the members of the object that all nodes have can be read, and otherwise it fails; the former is
so if the object has no such members. The card is the same with one node more at this place, which
keeps all other members of the object as they are. -/
theorem loads_with_stranger (hload : ofData data = .ok (.loaded card warnings))
    (hlist : IsNodeList data card path n f items) (hi : i ≤ items.length)
    {members : List (String × Value)} {kind : String}
    (htype : Value.find? "type" (entriesOf members) = some (.text kind))
    (hkind : isKnownKind kind = false) :
    (∀ u, IsPlaceholder f.role members u → ∃ card',
      ofData (withItem data path f i (.ofMembers members)) =
        .ok (.loaded card' (strangers (withItem data path f i (.ofMembers members)))) ∧
      Node.Inserts f.name i (f.role.placeholder u) (.element (.card card)) path
        (.element (.card card'))) ∧
    ((¬ ∃ u, IsPlaceholder f.role members u) → ∃ first more,
      ofData (withItem data path f i (.ofMembers members)) = .ok (.failed first more)) ∧
    ((∀ m ∈ members, m.1 ∈ f.role.checkedNames → m.1 = "type") →
      ∃ u, IsPlaceholder f.role members u) := by
  obtain ⟨entries, steps, place, heq, hroot, hplace, hread⟩ :=
    read_withItem hload hlist hi (.ofMembers members)
  obtain ⟨hgo, hplaceholder⟩ := Role.read_stranger hlist.role htype hkind
  rw [heq]
  refine ⟨fun u hu => ?_, fun hnone => ?_, fun hplain => ?_⟩
  · have hgood : Role.card.read (.map entries) = .good (place (f.role.placeholder u)) := by
      rw [hread]
      exact Checked.map_eq_good.mpr ⟨_, Checked.underAll_eq_good.mpr
        ((hplaceholder _).mpr ⟨u, hu, rfl⟩), rfl⟩
    obtain ⟨card', hcard', hloaded⟩ := loaded_of_read hroot hgood
    exact ⟨card', hloaded, hcard' ▸ hplace _⟩
  · refine failed_of_read hroot ?_ fun k hk => hnone ?_
    · rw [hread, Checked.isHalted_fmap, Checked.isHalted_underAll, hgo]
    · rw [hread] at hk
      obtain ⟨new, hnew, -⟩ := Checked.map_eq_good.mp hk
      obtain ⟨u, hu, -⟩ := (hplaceholder new).mp (Checked.underAll_eq_good.mp hnew)
      exact ⟨u, hu⟩
  · obtain ⟨u, hu, -⟩ := exists_placeholder htype hplain
    exact ⟨u, hu⟩

end

/-- A card with a text in a container, as data. -/
def boxedData : Value :=
  .ofMembers [("type", .text "AdaptiveCard"), ("body", .list [
    .ofMembers [("type", .text "Container"), ("items", .list [
      .ofMembers [("type", .text "TextBlock"), ("text", .text "Prices")]])]])]

/-- The card. -/
def boxedCard : Card where
  frame := {}
  version := some "1.0"
  body := [.container {
    frame := {}, items := [.textBlock { text := "Prices" }], selectAction := none }]
  actions := []
  fallbackText := none
  backgroundImage := none

/-- An object of unknown kind with a spacing that all nodes may have and two members of its own. -/
def chartMembers : List (String × Value) :=
  [("type", .text "Chart"), ("spacing", .text "large"), ("title", .int 5),
    ("points", .list [.int 1])]

/-- What stands for the object. -/
def chart : Unknown where
  kind := "Chart"
  frame := { spacing := .large }
  members := [("title", .int 5), ("points", .list [.int 1])]

/-- The items of the container of the card. -/
theorem isNodeList_boxed : IsNodeList boxedData boxedCard [.member "body", .position 0]
    (.element (.container {
      frame := {}, items := [.textBlock { text := "Prices" }], selectAction := none }))
    ⟨"items", true, .element⟩
    [.ofMembers [("type", .text "TextBlock"), ("text", .text "Prices")]] where
  holds := by
    have hbox : ([.member "body", .position 0], .element (.container {
        frame := {}, items := [.textBlock { text := "Prices" }], selectAction := none })) ∈
        (Node.element (.card boxedCard)).below :=
      List.mem_cons_self
    exact .step hbox (.refl _)
  known := rfl
  field := List.mem_cons_self
  isList := rfl
  role := .inl rfl
  items := rfl

/-- The chart becomes the second item of the container. -/
theorem loads_with_stranger_chart :
    ofData boxedData = .ok (.loaded boxedCard []) ∧ IsPlaceholder .element chartMembers chart ∧
    let grown := withItem boxedData [.member "body", .position 0] ⟨"items", true, .element⟩ 1
      (.ofMembers chartMembers)
    ∃ card', ofData grown = .ok (.loaded card' (strangers grown)) ∧
      Node.Inserts "items" 1 (.element (.unknown chart)) (.element (.card boxedCard))
        [.member "body", .position 0] (.element (.card card')) := by
  have hload : ofData boxedData = .ok (.loaded boxedCard []) := rfl
  have hchart : IsPlaceholder .element chartMembers chart := ⟨rfl, rfl, rfl, rfl, rfl, rfl⟩
  have htype : Value.find? "type" (entriesOf chartMembers) = some (.text "Chart") := rfl
  exact ⟨hload, hchart, (loads_with_stranger hload isNodeList_boxed (Nat.le_refl 1) htype
    (by decide)).1 chart hchart⟩

/-! ## A chart that is too wide -/

/-- A card without elements, as a text. -/
def bareContent : String :=
  "\x7b\"type\": \"AdaptiveCard\", \"body\": []\x7d"

/-- The card. -/
def bareCard : Card where
  frame := {}
  version := some "1.0"
  body := []
  actions := []
  fallbackText := none
  backgroundImage := none

/-- The same card with an object of unknown kind, as a text. -/
def wideChartContent : String :=
  "\x7b\"type\": \"AdaptiveCard\", \"body\": [\x7b\"type\": \"Chart\", \"spacing\": \"wide\"\x7d]\x7d"

/-- What is wrong with the second text: no spacing has this name. -/
def wideProblem : Problem :=
  .invalid {
    path := ["body", "0", "Unknown", "spacing"]
    complaint := .notAmong
      ["none", "small", "default", "medium", "large", "extraLarge", "padding"] }

theorem read_bareContent : Json.read bareContent =
    .ok (.ofMembers [("type", .text "AdaptiveCard"), ("body", .list [])]) := by
  cbv

theorem read_wideChartContent : Json.read wideChartContent =
    .ok (.ofMembers [("type", .text "AdaptiveCard"),
      ("body", .list [.ofMembers [("type", .text "Chart"), ("spacing", .text "wide")]])]) := by
  cbv

/-- A card is loaded, and with an object of unknown kind more in its body it is not. -/
theorem parse_wideChart :
    parse none bareContent = .ok (.loaded bareCard []) ∧ isKnownKind "Chart" = false ∧
    (∃ data, Json.read bareContent = .ok data ∧ Json.read wideChartContent =
      .ok (withItem data [] ⟨"body", true, .element⟩ 0
        (.ofMembers [("type", .text "Chart"), ("spacing", .text "wide")]))) ∧
    parse none wideChartContent = .ok (.failed wideProblem []) :=
  ⟨parse_of_read (by cbv) (by cbv) read_bareContent, by decide,
    ⟨_, read_bareContent, read_wideChartContent⟩,
    parse_of_read (by cbv) (by cbv) read_wideChartContent⟩

end Placard.Document
