import Placard.Proofs.Data.Orderly
import Placard.Proofs.Document.Interruption
import Placard.Proofs.Document.Stranger

/-!
# Which unknown nodes are warned of

Reading a document and searching it for strangers are two ways through the same data. Reading takes a
field in either spelling and asks for a kind of the family that stands at its place; the search knows
one spelling of each member and takes the kinds of both families for known. So a node of unknown kind
is warned of if and only if every field on the way to it is spelled with small and capital letters, its
kind is one of neither family, and its type is given as a text (`warnings_of_parse`).

* `Node.Holds`: a node stands at a path in another one, which names the fields as the model does.
* `spelledPath`: the same path with the members as the document spells them.
* `exists_place`: every node of a card that was read was read at a place of the document.
-/

namespace Placard.Document

open Placard.Data Placard.Record

/-! ## Nodes and their paths -/

/-- The steps to the node at a position of a field. -/
def NodeField.stepsTo (f : NodeField) (i : Nat) : List Step :=
  if f.isList then [.member f.name, .position i] else [.member f.name]

namespace Node

/-- The nodes in the fields of a node, and the steps to them. -/
def below (n : Node) : List (List Step × Node) :=
  (nodeFields n.kind).flatMap fun f => (n.inField f.name).mapIdx fun i m => (f.stepsTo i, m)

/-- A node of unknown kind holds nothing, even if it has the kind of another family. -/
theorem inField_of_isUnknown {n : Node} (h : n.isUnknown = true) (name : String) :
    n.inField name = [] := by
  cases n with
  | element e =>
    cases e with
    | unknown u => unfold inField; split <;> first | rfl | (next heq => cases heq)
    | _ => cases h
  | action a =>
    cases a with
    | unknown u => unfold inField; split <;> first | rfl | (next heq => cases heq)
    | _ => cases h

/-- A node stands at a path in another one: in its lists, or as what it shows or is selected by. -/
inductive Holds : Node → List Step → Node → Prop where
  | refl (n : Node) : Holds n [] n
  | step {n m k : Node} {steps path : List Step} : (steps, m) ∈ n.below → Holds m path k →
      Holds n (steps ++ path) k

theorem mem_below {n m : Node} {steps : List Step} : (steps, m) ∈ n.below ↔
    ∃ f ∈ nodeFields n.kind, ∃ i, (n.inField f.name)[i]? = some m ∧ steps = f.stepsTo i := by
  unfold below
  rw [List.mem_flatMap]
  refine exists_congr fun f => and_congr_right fun _ => ?_
  rw [List.mem_mapIdx]
  constructor
  · rintro ⟨i, hi, heq⟩
    obtain ⟨rfl, rfl⟩ := Prod.mk.inj heq
    exact ⟨i, List.getElem?_eq_getElem hi, rfl⟩
  · rintro ⟨i, hget, rfl⟩
    obtain ⟨hi, rfl⟩ := List.getElem?_eq_some_iff.mp hget
    exact ⟨i, hi, rfl⟩

theorem Holds.trans {n m k : Node} {path path' : List Step} (h : n.Holds path m)
    (h' : m.Holds path' k) : n.Holds (path ++ path') k := by
  induction h with
  | refl => exact h'
  | step hm _ ih =>
    rw [List.append_assoc]
    exact .step hm (ih h')

theorem exists_steps_of_mem_parts {n m : Node} (h : m ∈ n.parts) :
    ∃ steps, (steps, m) ∈ n.below := by
  have hfield {name : String} {isList : Bool} {role : Role}
      (hf : ⟨name, isList, role⟩ ∈ nodeFields n.kind) (hm : m ∈ n.inField name) :
      ∃ steps, (steps, m) ∈ n.below := by
    obtain ⟨i, hi, rfl⟩ := List.mem_iff_getElem.mp hm
    exact ⟨_, mem_below.mpr ⟨_, hf, i, List.getElem?_eq_getElem hi, rfl⟩⟩
  cases n with
  | element e =>
    cases e with
    | card c =>
      rcases List.mem_append.mp h with h | h
      · exact hfield List.mem_cons_self h
      · exact hfield (List.mem_cons_of_mem _ List.mem_cons_self) h
    | container | column | columnSet | imageSet => exact hfield List.mem_cons_self h
    | _ => cases h
  | action a =>
    cases a with
    | showCard => exact hfield List.mem_cons_self h
    | _ => cases h

theorem exists_steps_of_selection {n : Node} {a : Action} (h : a ∈ n.selection?) :
    ∃ steps, (steps, action a) ∈ n.below := by
  have hone {name : String} (hn : n.inField name = n.selection?.toList.map action) :
      (n.inField name)[0]? = some (action a) := by
    rw [hn, Option.mem_def.mp h]
    rfl
  cases n with
  | element e =>
    cases e with
    | container | column | columnSet =>
      exact ⟨_, mem_below.mpr ⟨_, List.mem_cons_of_mem _ List.mem_cons_self, 0, hone rfl, rfl⟩⟩
    | image => exact ⟨_, mem_below.mpr ⟨_, List.mem_cons_self, 0, hone rfl, rfl⟩⟩
    | _ => cases h
  | action a => cases h

/-- **Every node has a path.** All nodes of a card stand at paths in it, and so does what each of them
is selected by. -/
theorem exists_path {n m : Node} (h : m ∈ n.nodes) :
    (∃ path, n.Holds path m) ∧ ∀ a ∈ m.selection?, ∃ path, n.Holds path (action a) := by
  have hself : ∃ path, n.Holds path m := by
    induction n using partsInduction with
    | step n ih =>
      rw [nodes_eq, List.mem_cons, List.mem_flatMap] at h
      rcases h with rfl | ⟨part, hpart, h⟩
      · exact ⟨[], .refl m⟩
      · obtain ⟨path, hholds⟩ := ih part hpart h
        obtain ⟨steps, hsteps⟩ := exists_steps_of_mem_parts hpart
        exact ⟨steps ++ path, .step hsteps hholds⟩
  refine ⟨hself, fun a ha => ?_⟩
  obtain ⟨path, hholds⟩ := hself
  obtain ⟨steps, hsteps⟩ := exists_steps_of_selection ha
  exact ⟨path ++ (steps ++ []), hholds.trans (.step hsteps (.refl _))⟩

end Node

/-- A path into a value with its members as the value spells them. -/
def spelledPath : List Step → Value → List Step
  | .member name :: path, .map entries =>
    match Record.find? name entries with
    | some (spelling, v) => .member spelling :: spelledPath path v
    | none => .member name :: path
  | .position i :: path, v =>
    match (itemsOf v)[i]? with
    | some w => .position i :: spelledPath path w
    | none => .position i :: path
  | path, _ => path

theorem spelledPath_nil (v : Value) : spelledPath [] v = [] := by
  cases v <;> rfl

/-! ## From nodes to places -/

theorem each_getElem {α : Type} {read : Value → Checked α} {position : Nat} {vs : List Value}
    {as : List α} (h : each read position vs = .good as) {i : Nat} {a : α} (ha : as[i]? = some a) :
    ∃ v, vs[i]? = some v ∧ read v = .good a := by
  induction vs generalizing position as i with
  | nil =>
    obtain rfl := Checked.good.inj h
    cases ha
  | cons v vs ih =>
    simp only [each, Checked.seq_eq_good, Checked.map_eq_good, Checked.under_eq_good] at h
    obtain ⟨-, ⟨b, hb, rfl⟩, rest, hrest, rfl⟩ := h
    cases i with
    | zero =>
      obtain rfl := Option.some.inj ha
      exact ⟨v, rfl, hb⟩
    | succ i => exact ih hrest ha

/-- A field is found under one of its two spellings. -/
theorem find?_spelling {name spelling : String} {entries : Entries} {v : Value}
    (h : Record.find? name entries = some (spelling, v)) :
    Value.find? spelling entries = some v ∧ (spelling = name ∨ spelling = lowLined name) := by
  unfold Record.find? at h
  split at h
  · next w hw =>
    obtain ⟨rfl, rfl⟩ := Prod.mk.inj (Option.some.inj h)
    exact ⟨hw, .inl rfl⟩
  · obtain ⟨w, hw, heq⟩ := Option.map_eq_some_iff.mp h
    obtain ⟨rfl, rfl⟩ := Prod.mk.inj heq
    exact ⟨hw, .inr rfl⟩

/-- The search knows a field by one of its spellings only. -/
theorem mem_nodeMembers_iff {kind spelling : String} {f : NodeField} (hf : f ∈ nodeFields kind)
    (h : spelling = f.name ∨ spelling = lowLined f.name) :
    spelling ∈ nodeMembers ↔ spelling = f.name := by
  have hnames : ∀ f ∈ nodeFields kind, f.name ∈ nodeMembers := by
    unfold nodeFields
    split <;> decide
  have hlow : ∀ name ∈ nodeMembers, lowLined name ∈ nodeMembers → lowLined name = name := by
    decide
  constructor
  · intro hmem
    rcases h with rfl | rfl
    · rfl
    · exact hlow _ (hnames f hf) hmem
  · rintro rfl
    exact hnames f hf

/-- A path leads from one value to another, which is a mapping, under a spelling of its members. -/
structure Leads (path : List Step) (v : Value) (spelled : List Step) (w : Value) : Prop where
  isMap : ∃ entries, w = .map entries
  spells (rest : List Step) : spelledPath (path ++ rest) v = spelled ++ spelledPath rest w
  length : spelled.length = path.length
  /-- The search follows the path if it is spelled as the fields are named. -/
  isNodePath : IsNodePath spelled ↔ spelled = path
  valueAt : IsOrderly v → valueAt? spelled v = some w ∧ IsOrderly w

theorem Leads.refl (entries : Entries) : Leads [] (.map entries) [] (.map entries) where
  isMap := ⟨entries, rfl⟩
  spells _ := rfl
  length := rfl
  isNodePath := iff_of_true isNodePath_nil rfl
  valueAt h := ⟨rfl, h⟩

theorem Leads.trans {path path' spelled spelled' : List Step} {u v w : Value}
    (h : Leads path u spelled v) (h' : Leads path' v spelled' w) :
    Leads (path ++ path') u (spelled ++ spelled') w where
  isMap := h'.isMap
  spells rest := by rw [List.append_assoc, h.spells, h'.spells, List.append_assoc]
  length := by rw [List.length_append, List.length_append, h.length, h'.length]
  isNodePath := by
    rw [isNodePath_append, h.isNodePath, h'.isNodePath]
    constructor
    · rintro ⟨rfl, rfl⟩
      rfl
    · exact fun heq => List.append_inj heq h.length
  valueAt hu := by
    obtain ⟨hv, horderly⟩ := h.valueAt hu
    rw [valueAt?_append, hv, Option.bind_some]
    exact h'.valueAt horderly

/-- Only a mapping is read as a node. -/
theorem Role.exists_map_of_read {role : Role} {v : Value} {n : Node} (h : role.read v = .good n) :
    ∃ entries, v = .map entries := by
  by_contra hnot
  exact (Role.read_of_not_map fun entries heq => hnot ⟨entries, heq⟩).2 n h

/-- An orderly member of a mapping holds its mappings in a list. -/
theorem items_of_isOrderly {v : Value} (hv : IsOrderly v) {i : Nat} {entries : Entries}
    (h : (itemsOf v)[i]? = some (.map entries)) : ∃ items, v = .list items ∧
      items[i]? = some (.map entries) ∧ IsOrderly (.map entries) := by
  have hmem : Value.map entries ∈ itemsOf v := List.mem_of_getElem? h
  cases hv with
  | map => cases hmem
  | list hitems => exact ⟨_, rfl, h, hitems _ hmem fun _ heq => by cases heq⟩
  | set hkeys => cases hkeys _ hmem
  | key hkey hnot =>
    cases v with
    | list | map | set => cases hkey
    | tuple vs => exact absurd rfl (hnot vs)
    | _ => cases hmem

section

variable {f : NodeField} {kind spelling : String} {entries inner : Entries} {v : Value} {i : Nat}

theorem isOrderly_of_field (hfind : Record.find? f.name entries = some (spelling, v))
    (h : IsOrderly (.map entries)) : IsOrderly v := by
  obtain ⟨key, hmem⟩ := mem_of_find? (find?_spelling hfind).1
  cases h with
  | map hall => exact hall _ hmem
  | key hkey => cases hkey

/-- To the node of a field that holds one. -/
theorem Leads.single (hf : f ∈ nodeFields kind)
    (hfind : Record.find? f.name entries = some (spelling, .map inner)) :
    Leads [.member f.name] (.map entries) [.member spelling] (.map inner) := by
  obtain ⟨hmember, hspelling⟩ := find?_spelling hfind
  refine ⟨⟨inner, rfl⟩, fun rest => ?_, rfl, ?_, fun hentries => ?_⟩
  · simp [spelledPath, hfind]
  · rw [isNodePath_member, mem_nodeMembers_iff hf hspelling]
    simp [isNodePath_nil]
  · refine ⟨?_, isOrderly_of_field hfind hentries⟩
    rw [valueAt?, hmember]
    rfl

/-- To a node of a field that holds a list. -/
theorem Leads.item (hf : f ∈ nodeFields kind)
    (hfind : Record.find? f.name entries = some (spelling, v))
    (hitem : (itemsOf v)[i]? = some (.map inner)) :
    Leads [.member f.name, .position i] (.map entries) [.member spelling, .position i]
      (.map inner) := by
  obtain ⟨hmember, hspelling⟩ := find?_spelling hfind
  refine ⟨⟨inner, rfl⟩, fun rest => ?_, rfl, ?_, fun hentries => ?_⟩
  · simp [spelledPath, hfind, hitem]
  · rw [isNodePath_member, isNodePath_position, mem_nodeMembers_iff hf hspelling]
    simp [isNodePath_nil]
  · -- the search looks into lists only, but an orderly value holds mappings in nothing else
    obtain ⟨items, rfl, hget, hinner⟩ :=
      items_of_isOrderly (isOrderly_of_field hfind hentries) hitem
    refine ⟨?_, hinner⟩
    rw [valueAt?, hmember, Option.bind_some, valueAt?, hget]
    rfl

variable {ns : List Node} {n : Node}

/-- A node of a list was read at its position. -/
theorem NodeField.read_item (hlist : f.isList = true) (h : f.read v = .good ns)
    (hn : ns[i]? = some n) : ∃ w, (itemsOf v)[i]? = some w ∧ f.role.read w = .good n := by
  unfold NodeField.read at h
  rw [if_pos hlist] at h
  unfold listOf at h
  split at h
  · next vs hvs =>
    rw [itemsOf, hvs]
    exact each_getElem h hn
  · cases h

/-- A node that is not in a list is the only one of its field. -/
theorem NodeField.read_single (hlist : ¬ f.isList = true) (h : f.read v = .good ns)
    (hn : ns[i]? = some n) : i = 0 ∧ f.role.read v = .good n := by
  unfold NodeField.read at h
  rw [if_neg hlist] at h
  have hnull : v ≠ .null := by
    rintro rfl
    obtain rfl := Checked.good.inj h
    cases hn
  have hone : (fun n => [n]) <$> f.role.read v = .good ns := by
    cases v <;> first | exact absurd rfl hnull | exact h
  obtain ⟨m, hm, rfl⟩ := Checked.map_eq_good.mp hone
  cases i with
  | zero =>
    obtain rfl := Option.some.inj hn
    exact ⟨rfl, hm⟩
  | succ i => cases hn

/-- **One step.** A node that was read in a field of a node was read at a place of that field. -/
theorem NodeField.exists_place (hf : f ∈ nodeFields kind) (h : f.nodes entries = .good ns)
    (hn : ns[i]? = some n) (path : List Step) : ∃ q ∈ f.places path entries, q.read = .good n ∧
      ∃ spelled, q.path = path ++ spelled ∧
        Leads (f.stepsTo i) (.map entries) spelled q.value := by
  unfold nodes field at h
  unfold places stepsTo
  cases hfind : Record.find? f.name entries with
  | none =>
    rw [hfind] at h
    obtain rfl := Checked.good.inj h
    cases hn
  | some found =>
    obtain ⟨spelling, v⟩ := found
    rw [hfind] at h
    have hread : f.read v = .good ns := Checked.under_eq_good.mp h
    dsimp only
    by_cases hlist : f.isList = true
    · rw [if_pos hlist, if_pos hlist]
      obtain ⟨w, hitem, hgood⟩ := read_item hlist hread hn
      obtain ⟨inner, rfl⟩ := Role.exists_map_of_read hgood
      obtain ⟨hi, hget⟩ := List.getElem?_eq_some_iff.mp hitem
      refine ⟨_, List.mem_mapIdx.mpr ⟨i, hi, rfl⟩, by rw [hget]; exact hgood,
        [.member spelling, .position i], by simp, ?_⟩
      dsimp only
      rw [hget]
      exact .item hf hfind hitem
    · rw [if_neg hlist, if_neg hlist]
      obtain ⟨rfl, hgood⟩ := read_single hlist hread hn
      obtain ⟨inner, rfl⟩ := Role.exists_map_of_read hgood
      exact ⟨_, List.mem_singleton.mpr rfl, hgood, [.member spelling], rfl, .single hf hfind⟩

end

/-- A node that holds others is read from the fields of its kind. -/
theorem Place.exists_below {p : Place} {n m : Node} (h : p.read = .good n) {steps : List Step}
    (hm : (steps, m) ∈ n.below) : ∃ q ∈ p.below, q.read = .good m ∧
      ∃ spelled, q.path = p.path ++ spelled ∧ Leads steps p.value spelled q.value := by
  obtain ⟨entries, hvalue⟩ := Role.exists_map_of_read h
  rw [read, hvalue] at h
  obtain ⟨f, hf, i, hget, rfl⟩ := Node.mem_below.mp hm
  cases hkind : p.role.kindIn entries with
  | error kind =>
    rw [Role.read_of_error hkind] at h
    cases h
  | ok kind? =>
    cases kind? with
    | none =>
      obtain ⟨hunknown, -⟩ := (Role.read_of_none hkind).good n h
      rw [Node.inField_of_isUnknown hunknown] at hget
      cases hget
    | some kind =>
      obtain ⟨-, rfl, hfields⟩ := (Role.read_of_some hkind).good n h
      obtain ⟨q, hq, hread, spelled, hpath, hleads⟩ :=
        NodeField.exists_place hf (hfields f hf) hget p.path
      exact ⟨q, mem_below.mpr ⟨entries, _, hvalue, hkind, f, hf, hq⟩, hread, spelled, hpath,
        hvalue ▸ hleads⟩

/-- The kind of a node of unknown kind is the text of its type. -/
theorem Role.type_of_unknown {role : Role} {entries : Entries} {n : Node}
    (h : role.read (.map entries) = .good n) (hunknown : n.isUnknown = true) :
    ∃ type, Value.find? "type" entries = some type ∧ text type = .good n.kind := by
  cases hkind : role.kindIn entries with
  | error kind =>
    rw [read_of_error hkind] at h
    cases h
  | ok kind? =>
    cases kind? with
    | none => exact ((read_of_none hkind).good n h).2
    | some kind =>
      obtain ⟨hknown, -⟩ := (read_of_some hkind).good n h
      rw [hknown] at hunknown
      cases hunknown

/-- **All steps.** A node that stands anywhere in a node that was read was itself read at a place that
is reached. -/
theorem exists_place {n m : Node} {path : List Step} (h : n.Holds path m) :
    ∀ {p : Place}, p.read = .good n → ∃ q, Reaches p q ∧ q.read = .good m ∧
      ∃ spelled, q.path = p.path ++ spelled ∧ Leads path p.value spelled q.value := by
  induction h with
  | refl n =>
    intro p hread
    obtain ⟨entries, hvalue⟩ := Role.exists_map_of_read hread
    exact ⟨p, .refl p, hread, [], (List.append_nil _).symm, hvalue ▸ .refl entries⟩
  | step hm _ ih =>
    intro p hread
    obtain ⟨q, hq, hreadq, spelled, hpath, hleads⟩ := Place.exists_below hread hm
    obtain ⟨r, hreach, hreadr, spelled', hpath', hleads'⟩ := ih hreadq
    refine ⟨r, .step hq hreach, hreadr, spelled ++ spelled', ?_, hleads.trans hleads'⟩
    rw [hpath', hpath, List.append_assoc]

/-! ## Loading -/

theorem isOrderly_loadData {format : Format} {content : String} {v : Value}
    (h : loadData format content = .ok (.ok v)) : IsOrderly v := by
  unfold loadData at h
  cases format with
  | json =>
    dsimp only at h
    split at h
    · next w hread =>
      obtain rfl := Except.ok.inj (Except.ok.inj h)
      exact Json.read_induction isClosed_isOrderly hread
    · cases h
  | yaml =>
    dsimp only at h
    split at h
    · cases h
    · next w _ hread =>
      obtain rfl := Except.ok.inj (Except.ok.inj h)
      exact Yaml.isOrderly_read hread
    · split at h <;> cases h

/-- A text that is loaded has a format that is known. -/
theorem exists_format_of_parse {formatName : Option String} {content : String} {card : Card}
    {warnings : List Stranger} (h : parse formatName content = .ok (.loaded card warnings)) :
    ∃ format, formatOf? formatName content = some format := by
  unfold parse at h
  unfold formatOf?
  split at h
  · cases h
  · cases hname : formatName.filter (!·.isEmpty) with
    | none => exact ⟨_, rfl⟩
    | some name =>
      rw [hname] at h
      dsimp only at h ⊢
      cases hformat : Format.ofName? name with
      | none =>
        rw [hformat] at h
        cases h
      | some format => exact ⟨format, rfl⟩

/-- A card that is loaded was read from the data of the text, and so were its warnings. -/
theorem data_of_parse {formatName : Option String} {content : String} {card : Card}
    {warnings : List Stranger} (h : parse formatName content = .ok (.loaded card warnings)) :
    ∃ format entries, formatOf? formatName content = some format ∧
      loadData format content = .ok (.ok (.map entries)) ∧
      readCard (.map entries) = .good card ∧ warnings = strangers (.map entries) := by
  obtain ⟨format, hformat⟩ := exists_format_of_parse h
  -- no other outcome of the steps in between gives a card
  have hparse := parseAs_of_parse hformat h
  unfold parseAs at hparse
  split at hparse
  · cases hparse
  · cases hparse
  · next v hload =>
    obtain ⟨entries, rfl, -, hread, hwarnings⟩ := card_of_ofData hparse
    exact ⟨format, entries, hformat, hload, hread, hwarnings⟩

/-- **Which unknown nodes are warned of.** Every node of unknown kind in a card that was loaded stands
at a path of the document, where an object has that kind for its type. It is warned of if and only if
the document names all members on the path as the fields are named, the kind is known in neither
family, and the type is a text. -/
theorem warnings_of_parse {formatName : Option String} {content : String} {card : Card}
    {warnings : List Stranger} (h : parse formatName content = .ok (.loaded card warnings)) :
    ∃ format data, formatOf? formatName content = some format ∧
      loadData format content = .ok (.ok data) ∧
      ∀ path n, (Node.element (.card card)).Holds path n → n.isUnknown = true →
        ∃ entries type, valueAt? (spelledPath path data) data = some (.map entries) ∧
          Value.find? "type" entries = some type ∧ text type = .good n.kind ∧
          ({ path := spelledPath path data, kind := n.kind } ∈ warnings ↔
            spelledPath path data = path ∧ isKnownKind n.kind = false ∧ type = .text n.kind) := by
  obtain ⟨format, entries, hformat, hload, hread, rfl⟩ := data_of_parse h
  refine ⟨format, .map entries, hformat, hload, fun path n hholds hunknown => ?_⟩
  let root : Place := { path := [], role := .card, value := .map entries }
  have hroot : root.read = .good (.element (.card card)) :=
    Checked.map_eq_good.mpr ⟨card, hread, rfl⟩
  obtain ⟨p, -, hp, spelled, -, hleads⟩ := exists_place hholds hroot
  obtain ⟨inner, hvalue⟩ := hleads.isMap
  have hspelled : spelledPath path (.map entries) = spelled := by
    have heq := hleads.spells []
    rwa [List.append_nil, spelledPath_nil, List.append_nil] at heq
  obtain ⟨hat, -⟩ := hleads.valueAt (isOrderly_loadData hload)
  rw [hvalue] at hat
  rw [Place.read, hvalue] at hp
  obtain ⟨type, hfind, htext⟩ := Role.type_of_unknown hp hunknown
  have hattype : valueAt? (spelled ++ [.member "type"]) (.map entries) = some type := by
    rw [valueAt?_append, hat, Option.bind_some, valueAt?, hfind]
    rfl
  refine ⟨inner, type, hspelled ▸ hat, hfind, htext, ?_⟩
  -- the three parts of the condition are those of `HasStranger` at the spelled path
  rw [hspelled, mem_strangers_iff, ← hleads.isNodePath]
  constructor
  · rintro ⟨hpath, hstranger, hnew⟩
    rw [hattype] at hstranger
    exact ⟨hpath, hnew, Option.some.inj hstranger⟩
  · rintro ⟨hpath, hnew, rfl⟩
    exact ⟨hpath, hattype, hnew⟩

/-! ## A bell without a warning -/

/-- A card with two nodes of unknown kind, as a text. -/
def bellContent : String :=
  "\x7b\"type\": \"AdaptiveCard\", \"body\": [\x7b\"type\": \"Chart\"\x7d, " ++
    "\x7b\"type\": \"Container\", \"select_action\": \x7b\"type\": \"Action.Bell\"\x7d\x7d]\x7d"

/-- The card. -/
def bellCard : Card where
  frame := {}
  version := some "1.0"
  body := [.unknown { kind := "Chart" }, .container {
    frame := {}, items := [], selectAction := some (.unknown { kind := "Action.Bell" }) }]
  actions := []
  fallbackText := none
  backgroundImage := none

/-- The warnings. -/
def bellWarnings : List Stranger :=
  [{ path := [.member "body", .position 0], kind := "Chart" }]

theorem parse_bellContent : parse none bellContent = .ok (.loaded bellCard bellWarnings) := by
  have hread : Json.read bellContent = .ok (.map [(.text "type", .text "AdaptiveCard"),
      (.text "body", .list [.map [(.text "type", .text "Chart")],
        .map [(.text "type", .text "Container"),
          (.text "select_action", .map [(.text "type", .text "Action.Bell")])]])]) := by
    cbv
  exact parse_of_read (by cbv) (by cbv) hread

/-- The path to what the container of the card is selected by. -/
def bellPath : List Step :=
  [.member "body", .position 1, .member "selectAction"]

theorem holds_bell :
    (Node.element (.card bellCard)).Holds bellPath (.action (.unknown { kind := "Action.Bell" })) := by
  let container : Node := .element (.container {
    frame := {}, items := [], selectAction := some (.unknown { kind := "Action.Bell" }) })
  have hcontainer : ([.member "body", .position 1], container) ∈
      (Node.element (.card bellCard)).below :=
    List.mem_cons_of_mem _ List.mem_cons_self
  have hbell : ([.member "selectAction"], .action (.unknown { kind := "Action.Bell" })) ∈
      container.below :=
    List.mem_cons_self
  have hholds := Node.Holds.step hcontainer (.step hbell (.refl _))
  exact hholds

/-- The container of the card is selected by a node of unknown kind, and nothing says so. -/
theorem parse_silentBell : parse none bellContent = .ok (.loaded bellCard bellWarnings) ∧
    (Node.element (.card bellCard)).Holds bellPath (.action (.unknown { kind := "Action.Bell" })) ∧
    ∀ s ∈ bellWarnings, s.kind ≠ "Action.Bell" :=
  ⟨parse_bellContent, holds_bell, by decide⟩

/-- The chart in the card is warned of at its place. -/
theorem warnings_of_bellContent :
    parse none bellContent = .ok (.loaded bellCard bellWarnings) ∧
    ∃ format data, formatOf? none bellContent = some format ∧
      loadData format bellContent = .ok (.ok data) ∧
      ∀ path n, (Node.element (.card bellCard)).Holds path n → n.isUnknown = true →
        ∃ entries type, valueAt? (spelledPath path data) data = some (.map entries) ∧
          Value.find? "type" entries = some type ∧ text type = .good n.kind ∧
          ({ path := spelledPath path data, kind := n.kind } ∈ bellWarnings ↔
            spelledPath path data = path ∧ isKnownKind n.kind = false ∧ type = .text n.kind) :=
  ⟨parse_bellContent, warnings_of_parse parse_bellContent⟩

end Placard.Document
