import Placard.Proofs.Document.Role

/-!
# The places of a document

A place is a value of a document where a node is read, with the path that leads to it and the role in
which it is read. `Place.below` are the places that the node at a place has in its fields, and
`Reaches` is any number of steps down. What is read at a place is smaller than what it is read from,
so that places can be gone through by induction (`Place.belowInduction`).
-/

namespace Placard.Document

open Placard.Data Placard.Record

/-- A value where a node is read. -/
structure Place where
  /-- the way to the value, with the members as the document spells them -/
  path : List Step
  role : Role
  value : Value

/-- The places in a field of a mapping that a path leads to. -/
def NodeField.places (f : NodeField) (path : List Step) (entries : Entries) : List Place :=
  match Record.find? f.name entries with
  | none => []
  | some (spelling, v) =>
    let path := path ++ [.member spelling]
    if f.isList then
      (itemsOf v).mapIdx fun i w => { path := path ++ [.position i], role := f.role, value := w }
    else
      match v with
      | .null => []
      | v => [{ path, role := f.role, value := v }]

namespace Place

/-- What is read at a place. -/
def read (p : Place) : Checked Node :=
  p.role.read p.value

/-- The places in the fields of the node at a place, if it is of a known kind. -/
def below (p : Place) : List Place :=
  match p.value with
  | .map entries =>
    match p.role.kindIn entries with
    | .ok (some kind) => (nodeFields kind).flatMap fun f => f.places p.path entries
    | _ => []
  | _ => []

end Place

/-- One place is another one or anywhere below it. -/
inductive Reaches : Place → Place → Prop where
  | refl (p : Place) : Reaches p p
  | step {p q r : Place} : q ∈ p.below → Reaches q r → Reaches p r

/-! ## Size -/

theorem NodeField.sizeOf_lt {f : NodeField} {path : List Step} {entries : Entries} {p : Place}
    (h : p ∈ f.places path entries) : sizeOf p.value < sizeOf (Value.map entries) := by
  unfold places at h
  split at h
  · cases h
  · next spelling v hfind =>
    obtain ⟨key, hmem⟩ := mem_of_find?_spelling hfind
    have hv : sizeOf v < sizeOf (Value.map entries) := sizeOf_lt_of_mem_map hmem
    dsimp only at h
    split at h
    · obtain ⟨i, hi, rfl⟩ := List.mem_mapIdx.mp h
      exact Nat.lt_trans (sizeOf_lt_of_mem_itemsOf (List.getElem_mem hi)) hv
    · split at h
      · cases h
      · obtain rfl := List.mem_singleton.mp h
        exact hv

/-- The places below a place are those in the fields of its kind. -/
theorem Place.mem_below {p q : Place} : q ∈ p.below ↔ ∃ entries kind, p.value = .map entries ∧
    p.role.kindIn entries = .ok (some kind) ∧ ∃ f ∈ nodeFields kind, q ∈ f.places p.path entries := by
  unfold below
  constructor
  · intro h
    split at h
    · next entries hvalue =>
      split at h
      · next kind hkind =>
        obtain ⟨f, hf, hq⟩ := List.mem_flatMap.mp h
        exact ⟨entries, kind, hvalue, hkind, f, hf, hq⟩
      · cases h
    · cases h
  · rintro ⟨entries, kind, hvalue, hkind, f, hf, hq⟩
    rw [hvalue]
    dsimp only
    rw [hkind]
    exact List.mem_flatMap.mpr ⟨f, hf, hq⟩

theorem Place.sizeOf_lt {p q : Place} (h : q ∈ p.below) : sizeOf q.value < sizeOf p.value := by
  obtain ⟨entries, kind, hvalue, -, f, -, hq⟩ := mem_below.mp h
  rw [hvalue]
  exact NodeField.sizeOf_lt hq

/-- **Induction over places.** What holds of a place as soon as it holds of the places below it holds
of every place. -/
theorem Place.belowInduction {P : Place → Prop} (step : ∀ p, (∀ q ∈ p.below, P q) → P p)
    (p : Place) : P p :=
  step p fun q _ => belowInduction step q
termination_by sizeOf p.value
decreasing_by exact Place.sizeOf_lt ‹_›

end Placard.Document
