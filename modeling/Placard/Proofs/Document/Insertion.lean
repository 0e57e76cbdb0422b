import Placard.Proofs.Document.Locality
import Placard.Proofs.Document.Warning

/-!
# Documents with a node more

An item is put into a list of a document: the body or the actions of a card, or the items of a
container or a column. Reading is local (`Role.read_agreeOff`), so the document is read as before
but for the item, whatever the item is: the node that it is read as stands at its place in the list
(`Node.Inserts`), and what is wrong with the document is what is wrong with the item
(`read_insertItem`).
-/

namespace Placard.Document

open Placard.Data Placard.Record

/-! ## Data with an item more -/

/-- The entries with the value of a text key edited. -/
def editEntry (name : String) (edit : Value → Value) : Entries → Entries
  | [] => []
  | (key, v) :: rest =>
    if isNamed name key then (key, edit v) :: rest else (key, v) :: editEntry name edit rest

/-- A value with an item more, at a position of the list that a path leads to. -/
def insertItem (i : Nat) (item : Value) : List Step → Value → Value
  | [], .list items => .list (items.insertIdx i item)
  | .member name :: path, .map entries => .map (editEntry name (insertItem i item path) entries)
  | .position j :: path, .list items => .list (items.modify j (insertItem i item path))
  | _, v => v

section

variable {name other spelling : String} {edit : Value → Value} {entries : Entries} {v : Value}

theorem find?_editEntry_self : Value.find? name (editEntry name edit entries) =
    (Value.find? name entries).map edit := by
  induction entries with
  | nil => rfl
  | cons e entries ih =>
    obtain ⟨key, v⟩ := e
    rw [editEntry, find?_cons]
    split
    · next hkey => rw [find?_cons, if_pos hkey]; rfl
    · next hkey => rw [find?_cons, if_neg hkey, ih]

/-- An entry is no entry of two names. -/
theorem isNamed_inj {key : Value} (h : isNamed name key = true) (h' : isNamed other key = true) :
    name = other := by
  cases key with
  | text s => exact (beq_iff_eq.mp h).symm.trans (beq_iff_eq.mp h')
  | _ => cases h

theorem find?_editEntry_of_ne (h : other ≠ name) :
    Value.find? other (editEntry name edit entries) = Value.find? other entries := by
  induction entries with
  | nil => rfl
  | cons e entries ih =>
    obtain ⟨key, v⟩ := e
    rw [editEntry, find?_cons]
    split
    · next hkey =>
      have hother : ¬ isNamed other key = true := fun hkey' => h (isNamed_inj hkey' hkey)
      rw [find?_cons, if_neg hother, if_neg hother]
    · rw [find?_cons, ih]

/-- A field is found under the same spelling when its value has been edited. -/
theorem find?_editEntry (h : Record.find? name entries = some (spelling, v)) :
    Record.find? name (editEntry spelling edit entries) = some (spelling, edit v) := by
  obtain ⟨hfind, hspelling⟩ := find?_spelling h
  have hself : Value.find? spelling (editEntry spelling edit entries) = some (edit v) := by
    rw [find?_editEntry_self, hfind]
    rfl
  by_cases heq : spelling = name
  · subst heq
    unfold Record.find?
    rw [hself]
  · obtain rfl := hspelling.resolve_left heq
    have hnone : Value.find? name entries = none := by
      unfold Record.find? at h
      split at h
      · exact absurd (Prod.mk.inj (Option.some.inj h)).1.symm heq
      · next hnone => exact hnone
    unfold Record.find?
    rw [find?_editEntry_of_ne (Ne.symm heq), hnone]
    dsimp only
    rw [hself]
    rfl

theorem agreeOff_editEntry (h : spelling = name ∨ spelling = lowLined name) :
    AgreeOff name entries (editEntry spelling edit entries) := by
  intro other hname hlow
  refine find?_editEntry_of_ne fun heq => ?_
  rcases h with h | h
  · exact hname (heq.trans h)
  · exact hlow (heq.trans h)

end

/-! ## Lists with an item more -/

section

variable {α : Type} {read : Value → Checked α} {vs : List Value} {as : List α}

/-- Items are read one by one. -/
theorem each_eq_good {position : Nat} :
    each read position vs = .good as ↔ List.Forall₂ (fun v a => read v = .good a) vs as := by
  induction vs generalizing position as with
  | nil =>
    rw [each, Checked.good.injEq, List.forall₂_nil_left_iff]
    exact eq_comm
  | cons v vs ih =>
    simp only [each, Checked.seq_eq_good, Checked.map_eq_good, Checked.under_eq_good, ih,
      List.forall₂_cons_left_iff]
    constructor
    · rintro ⟨-, ⟨a, ha, rfl⟩, rest, hrest, rfl⟩
      exact ⟨a, rest, ha, hrest, rfl⟩
    · rintro ⟨a, rest, ha, hrest, rfl⟩
      exact ⟨_, ⟨a, ha, rfl⟩, rest, hrest, rfl⟩

/-- The first item decides if all others can be read. -/
theorem each_cons_of_good {position : Nat} (v : Value)
    (h : List.Forall₂ (fun v a => read v = .good a) vs as) : each read position (v :: vs) =
      (fun a => a :: as) <$> (read v).under (positionText position) := by
  rw [each, each_eq_good.mpr h]
  cases (read v).under (positionText position) <;> rfl

theorem each_cons_good {position : Nat} {v : Value} {a : α} (h : read v = .good a) :
    each read position (v :: vs) = List.cons a <$> each read (position + 1) vs := by
  rw [each, h]
  cases each read (position + 1) vs <;> rfl

/-- An item more. -/
theorem each_insertIdx (h : List.Forall₂ (fun v a => read v = .good a) vs as) (position : Nat)
    {i : Nat} (hi : i ≤ vs.length) (item : Value) : each read position (vs.insertIdx i item) =
      (fun a => as.insertIdx i a) <$> (read item).under (positionText (position + i)) := by
  induction h generalizing position i with
  | nil =>
    obtain rfl := Nat.le_zero.mp hi
    exact each_cons_of_good item .nil
  | @cons v a vs as hv hvs ih =>
    cases i with
    | zero => exact each_cons_of_good item (.cons hv hvs)
    | succ i =>
      rw [List.insertIdx_succ_cons, each_cons_good hv, ih (position + 1) (Nat.le_of_succ_le_succ hi),
        map_map, Nat.add_right_comm, Nat.add_assoc]
      rfl

/-- An item that is edited. -/
theorem each_modify (h : List.Forall₂ (fun v a => read v = .good a) vs as) (position : Nat)
    {j : Nat} {w : Value} (hw : vs[j]? = some w) (edit : Value → Value) :
    each read position (vs.modify j edit) =
      (fun a => as.set j a) <$> (read (edit w)).under (positionText (position + j)) := by
  induction h generalizing position j with
  | nil => cases hw
  | @cons v a vs as hv hvs ih =>
    cases j with
    | zero =>
      obtain rfl := Option.some.inj hw
      exact each_cons_of_good (edit v) hvs
    | succ j =>
      rw [List.modify_succ_cons, each_cons_good hv, ih (position + 1) hw, map_map,
        Nat.add_right_comm, Nat.add_assoc]
      rfl

end

/-! ## Nodes with a node more -/

/-- The second node is the first one with a new node more: at a position of the list of a name, of
the node that stands at a path. -/
inductive Node.Inserts (name : String) (i : Nat) (new : Node) : Node → List Step → Node → Prop where
  | here (n : Node) : Inserts name i new n [] (n.withField name ((n.inField name).insertIdx i new))
  | inside {n m m' : Node} {path : List Step} {f : NodeField} {j : Nat} : f ∈ nodeFields n.kind →
      (n.inField f.name)[j]? = some m → Inserts name i new m path m' →
      Inserts name i new n (f.stepsTo j ++ path)
        (n.withField f.name ((n.inField f.name).set j m'))

/-- A node that holds others is of a known kind. -/
theorem isUnknown_of_inField {n m : Node} {name : String} {j : Nat}
    (h : (n.inField name)[j]? = some m) : n.isUnknown = false := by
  cases hunknown : n.isUnknown with
  | false => rfl
  | true =>
    rw [Node.inField_of_isUnknown hunknown] at h
    cases h

section

variable {role : Role} {entries : Entries} {n m : Node} {f : NodeField} {spelling : String}
  {v w : Value} {i j : Nat}

theorem NodeField.nodes_of_find? (hfind : Record.find? f.name entries = some (spelling, v)) :
    f.nodes entries = (f.read v).under spelling := by
  unfold nodes field
  rw [hfind]

/-- A field that has nodes is there. -/
theorem NodeField.exists_value {ns : List Node} (h : f.nodes entries = .good ns)
    (hm : ns[j]? = some m) :
    ∃ spelling v, Record.find? f.name entries = some (spelling, v) ∧ f.read v = .good ns := by
  cases hfind : Record.find? f.name entries with
  | none =>
    unfold nodes field at h
    rw [hfind] at h
    obtain rfl := Checked.good.inj h
    cases hm
  | some found =>
    obtain ⟨spelling, v⟩ := found
    rw [nodes_of_find? hfind, Checked.under_eq_good] at h
    exact ⟨spelling, v, rfl, h⟩

/-- **One field.** A mapping with an edited field is read as before but for what the field holds. -/
theorem Role.read_editEntry (h : role.read (.map entries) = .good n) (hknown : n.isUnknown = false)
    (hf : f ∈ nodeFields n.kind) (hfind : Record.find? f.name entries = some (spelling, v))
    (edit : Value → Value) : ∃ steps, role.read (.map (editEntry spelling edit entries)) =
      n.withField f.name <$> (f.read (edit v)).underAll steps := by
  obtain ⟨steps, hread⟩ := read_agreeOff h hknown hf (agreeOff_editEntry (find?_spelling hfind).2)
  refine ⟨steps ++ [spelling], ?_⟩
  rw [hread, NodeField.nodes_of_find? (find?_editEntry hfind), Checked.underAll_append]
  rfl

theorem NodeField.forall₂_of_read (hlist : f.isList = true) {items : List Value} {ns : List Node}
    (h : f.read (.list items) = .good ns) :
    List.Forall₂ (fun v n => f.role.read v = .good n) items ns := by
  unfold read at h
  rw [if_pos hlist] at h
  exact each_eq_good.mp h

theorem NodeField.read_list (hlist : f.isList = true) (items : List Value) :
    f.read (.list items) = each f.role.read 0 items := by
  unfold read
  rw [if_pos hlist]
  rfl

/-- A path to the value of a field says how the field is spelled. -/
theorem exists_spelling {name : String}
    (h : valueAt? (spelledPath [.member name] (.map entries)) (.map entries) = some v) :
    ∃ spelling, Record.find? name entries = some (spelling, v) ∧
      spelledPath [.member name] (.map entries) = [.member spelling] := by
  cases hfind : Record.find? name entries with
  | none =>
    have hpath : spelledPath [.member name] (.map entries) = [.member name] := by
      simp [spelledPath, hfind]
    have hnone : Value.find? name entries = none := by
      unfold Record.find? at hfind
      split at hfind
      · cases hfind
      · next hnone => exact hnone
    rw [hpath, valueAt?, hnone] at h
    cases h
  | some found =>
    obtain ⟨spelling, w⟩ := found
    have hpath : spelledPath [.member name] (.map entries) = [.member spelling] := by
      simp [spelledPath, hfind]
    rw [hpath, valueAt?, (find?_spelling hfind).1] at h
    obtain rfl := Option.some.inj h
    exact ⟨spelling, rfl, hpath⟩

/-- A mapping with an item more somewhere in it is a mapping. -/
theorem exists_insertItem_map (i : Nat) (item : Value) (path : List Step) (entries : Entries) :
    ∃ entries', insertItem i item path (.map entries) = .map entries' := by
  cases path with
  | nil => exact ⟨entries, rfl⟩
  | cons step path =>
    cases step with
    | member name => exact ⟨_, rfl⟩
    | position j => exact ⟨entries, rfl⟩

/-- A field that holds one node holds nothing but this node. -/
theorem NodeField.read_map_single (hlist : ¬ f.isList = true) {ns : List Node}
    (h : f.read v = .good ns) (hm : ns[j]? = some m) (inner : Entries) :
    f.read (.map inner) = (fun k => ns.set j k) <$> f.role.read (.map inner) := by
  obtain ⟨rfl, hread⟩ := read_single hlist h hm
  obtain ⟨entries, rfl⟩ := Role.exists_map_of_read hread
  have hone (inner : Entries) : f.read (.map inner) = (fun k => [k]) <$> f.role.read (.map inner) := by
    unfold read
    rw [if_neg hlist]
  rw [hone, hread] at h
  obtain rfl := Checked.good.inj h
  exact hone inner

/-- **One step.** Where a path leads on through a node of a field, an item further down is one that
is put into what this node was read from. -/
theorem NodeField.exists_step {ns : List Node} {rest : List Step} {x : Value}
    (hfind : Record.find? f.name entries = some (spelling, v)) (hgood : f.read v = .good ns)
    (hm : ns[j]? = some m)
    (hx : valueAt? (spelledPath (f.stepsTo j ++ rest) (.map entries)) (.map entries) = some x) :
    ∃ w, f.role.read w = .good m ∧ valueAt? (spelledPath rest w) w = some x ∧
      ∀ i item, ∃ (edit : Value → Value) (steps : List String),
        insertItem i item (spelledPath (f.stepsTo j ++ rest) (.map entries)) (.map entries) =
          .map (editEntry spelling edit entries) ∧
        f.read (edit v) = (fun k => ns.set j k) <$>
          (f.role.read (insertItem i item (spelledPath rest w) w)).underAll steps := by
  obtain ⟨hmember, -⟩ := find?_spelling hfind
  unfold stepsTo at hx ⊢
  by_cases hlist : f.isList = true
  · rw [if_pos hlist] at hx ⊢
    obtain ⟨w, hw, hread⟩ := read_item hlist hgood hm
    have hpath : spelledPath ([.member f.name, .position j] ++ rest) (.map entries) =
        .member spelling :: .position j :: spelledPath rest w := by
      simp [spelledPath, hfind, hw]
    rw [hpath, valueAt?, hmember, Option.bind_some] at hx
    rw [hpath]
    -- the way leads through a list, as positions count its items
    cases v with
    | list items =>
      rw [valueAt?, show items[j]? = some w from hw, Option.bind_some] at hx
      refine ⟨w, hread, hx, fun i item => ⟨insertItem i item (.position j :: spelledPath rest w),
        [positionText (0 + j)], rfl, ?_⟩⟩
      rw [insertItem, read_list hlist, each_modify (forall₂_of_read hlist hgood) 0 hw]
      rfl
    | _ => cases hx
  · rw [if_neg hlist] at hx ⊢
    obtain ⟨-, hread⟩ := read_single hlist hgood hm
    have hpath : spelledPath ([.member f.name] ++ rest) (.map entries) =
        .member spelling :: spelledPath rest v := by
      simp [spelledPath, hfind]
    rw [hpath, valueAt?, hmember, Option.bind_some] at hx
    rw [hpath]
    refine ⟨v, hread, hx, fun i item => ⟨insertItem i item (spelledPath rest v), [], rfl, ?_⟩⟩
    obtain ⟨inner, rfl⟩ := Role.exists_map_of_read hread
    obtain ⟨inner', hinner⟩ := exists_insertItem_map i item (spelledPath rest (.map inner)) inner
    rw [hinner]
    exact read_map_single hlist hgood hm inner'

/-- **All fields on the way.** In a value that was read as a node, an item is put into the list that
a path leads to. What the value is read as then depends on what the item is read as, and on nothing
else. -/
theorem read_insertItem {n m : Node} {path : List Step} (h : n.Holds path m) :
    ∀ {role : Role} {v : Value}, role.read v = .good n → m.isUnknown = false →
      ∀ {f : NodeField}, f ∈ nodeFields m.kind → f.isList = true →
      ∀ {items : List Value},
        valueAt? (spelledPath (path ++ [.member f.name]) v) v = some (.list items) →
      ∀ {i : Nat}, i ≤ items.length → ∀ item : Value, ∃ (steps : List String) (place : Node → Node),
        (∀ new, Node.Inserts f.name i new n path (place new)) ∧
        role.read (insertItem i item (spelledPath (path ++ [.member f.name]) v) v) =
          place <$> (f.role.read item).underAll steps := by
  -- at the end of the path the item goes into the list; above it one member is edited
  induction h with
  | refl n =>
    intro role v hread hknown f hf hlist items hitems i hi item
    obtain ⟨entries, rfl⟩ := Role.exists_map_of_read hread
    have hgood := Role.nodes_of_read hread hknown hf
    obtain ⟨spelling, hfind, hpath⟩ := exists_spelling hitems
    rw [NodeField.nodes_of_find? hfind, Checked.under_eq_good] at hgood
    obtain ⟨steps, hedit⟩ := Role.read_editEntry hread hknown hf hfind (insertItem i item [])
    refine ⟨steps ++ [positionText (0 + i)], fun new => n.withField f.name
      ((n.inField f.name).insertIdx i new), fun new => .here n, ?_⟩
    rw [List.nil_append, hpath, insertItem, hedit, insertItem, NodeField.read_list hlist,
      each_insertIdx (NodeField.forall₂_of_read hlist hgood) 0 hi, ← Checked.map_underAll, map_map,
      Checked.underAll_append]
    rfl
  | @step n k m steps path hk _ ih =>
    intro role v hread hknown f hf hlist items hitems i hi item
    obtain ⟨entries, rfl⟩ := Role.exists_map_of_read hread
    obtain ⟨g, hg, j, hget, rfl⟩ := Node.mem_below.mp hk
    have hfields := Role.nodes_of_read hread (isUnknown_of_inField hget) hg
    obtain ⟨spelling, v, hfind, hgood⟩ := NodeField.exists_value hfields hget
    rw [List.append_assoc] at hitems ⊢
    obtain ⟨w, hw, hrest, hstep⟩ := NodeField.exists_step hfind hgood hget hitems
    obtain ⟨edit, more, hinsert, hfield⟩ := hstep i item
    obtain ⟨steps, hedit⟩ := Role.read_editEntry hread (isUnknown_of_inField hget) hg hfind edit
    obtain ⟨below, place, hplace, hbelow⟩ := ih hw hknown hf hlist hrest hi item
    refine ⟨steps ++ (more ++ below),
      fun new => n.withField g.name ((n.inField g.name).set j (place new)),
      fun new => .inside hg hget (hplace new), ?_⟩
    rw [hinsert, hedit, hfield, hbelow, ← Checked.map_underAll, ← Checked.map_underAll,
      ← Checked.map_underAll, map_map, map_map, Checked.underAll_append, Checked.underAll_append]

end

end Placard.Document
