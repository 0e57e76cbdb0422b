import Placard.Record.Field

/-!
# What an outcome says

A combination of checks is good if all of them are. What is read from a list is then read from its
items, and what is read from a member of a mapping from one of its values. Else the issues of the
combination are those of the checks, and those of a field are below the field.
-/

namespace Placard.Record

open Placard.Data

namespace Checked

variable {α β : Type}

theorem map_eq_good {f : α → β} {x : Checked α} {b : β} :
    f <$> x = good b ↔ ∃ a, x = good a ∧ f a = b := by
  cases x <;> simp [Functor.map, map]

theorem seq_eq_good {f : Checked (α → β)} {x : Checked α} {b : β} :
    f <*> x = good b ↔ ∃ g, f = good g ∧ ∃ a, x = good a ∧ g a = b := by
  cases f <;> cases x <;> simp [Seq.seq, both]

theorem map_map {γ : Type} (g : β → γ) (f : α → β) (x : Checked α) :
    g <$> f <$> x = (fun a => g (f a)) <$> x := by
  cases x <;> rfl

/-- What is done to the value of two checks is done by the first. -/
theorem map_seq {γ : Type} (g : β → γ) (f : Checked (α → β)) (x : Checked α) :
    g <$> (f <*> x) = (fun h a => g (h a)) <$> f <*> x := by
  cases f <;> cases x <;> rfl

/-- A check that is good at once just fills in its value. -/
theorem seq_good (f : Checked (α → β)) (a : α) : f <*> good a = (fun h => h a) <$> f := by
  cases f <;> rfl

theorem under_eq_good {step : String} {x : Checked α} {a : α} :
    x.under step = good a ↔ x = good a := by
  cases x <;> simp [under]

end Checked

/-! ## Members -/

/-- Whether a key is this text. -/
def isNamed (name : String) (key : Value) : Bool :=
  match key with
  | .text s => s == name
  | _ => false

theorem find?_cons (name : String) (key v : Value) (entries : Entries) :
    Value.find? name ((key, v) :: entries) =
      if isNamed name key then some v else Value.find? name entries := by
  have hfind : Value.find? name ((key, v) :: entries) =
      (((key, v) :: entries).find? fun e => isNamed name e.1).map (·.2) := rfl
  rw [hfind, List.find?_cons]
  cases isNamed name key <;> rfl

/-- A member of a mapping is the value of one of its entries. -/
theorem mem_of_find? {name : String} {entries : Entries} {v : Value}
    (h : Value.find? name entries = some v) : ∃ key, (key, v) ∈ entries := by
  obtain ⟨e, he, rfl⟩ := Option.map_eq_some_iff.mp h
  exact ⟨e.1, List.mem_of_find?_eq_some he⟩

/-- So is a member that may be spelled in two ways. -/
theorem mem_of_find?_spelling {name spelling : String} {entries : Entries} {v : Value}
    (h : find? name entries = some (spelling, v)) : ∃ key, (key, v) ∈ entries := by
  unfold find? at h
  split at h
  · next w hw =>
    obtain ⟨-, rfl⟩ := Prod.mk.inj (Option.some.inj h)
    exact mem_of_find? hw
  · obtain ⟨w, hw, heq⟩ := Option.map_eq_some_iff.mp h
    obtain ⟨-, rfl⟩ := Prod.mk.inj heq
    exact mem_of_find? hw

/-! ## Items -/

theorem each_good {α : Type} {read : Value → Checked α} {position : Nat} {vs : List Value}
    {as : List α} (h : each read position vs = .good as) :
    ∀ a ∈ as, ∃ v ∈ vs, read v = .good a := by
  induction vs generalizing position as with
  | nil =>
    obtain rfl := Checked.good.inj h
    exact fun _ ha => absurd ha List.not_mem_nil
  | cons v vs ih =>
    simp only [each, Checked.seq_eq_good, Checked.map_eq_good, Checked.under_eq_good] at h
    obtain ⟨-, ⟨a, ha, rfl⟩, rest, hrest, rfl⟩ := h
    refine List.forall_mem_cons.mpr ⟨⟨v, List.mem_cons_self, ha⟩, fun b hb => ?_⟩
    obtain ⟨w, hw, hread⟩ := ih hrest b hb
    exact ⟨w, List.mem_cons_of_mem v hw, hread⟩

/-- The items of a value that is a list of some kind. -/
abbrev itemsOf (v : Value) : List Value :=
  (items? v).getD []

/-- What is read from a list is read from its items. -/
theorem listOf_good {α : Type} {read : Value → Checked α} {v : Value} {as : List α}
    (h : listOf read v = .good as) : ∀ a ∈ as, ∃ w ∈ itemsOf v, read w = .good a := by
  unfold listOf at h
  unfold itemsOf
  split at h
  · next vs hvs =>
    rw [hvs]
    exact each_good h
  · cases h

/-! ## Issues -/

namespace Checked

variable {α β : Type}

/-- The issues of an outcome, of which a good one has none. -/
def issues : Checked α → List Issue
  | bad first more => first :: more
  | _ => []

theorem issues_map (f : α → β) (x : Checked α) : (f <$> x).issues = x.issues := by
  cases x <;> rfl

theorem mem_issues_of_seq {f : Checked (α → β)} {x : Checked α} {i : Issue}
    (h : i ∈ (f <*> x).issues) : i ∈ f.issues ∨ i ∈ x.issues := by
  rw [← List.mem_append]
  cases f <;> cases x <;> simp_all [Seq.seq, both, issues]

theorem issues_under (step : String) (x : Checked α) :
    (x.under step).issues = x.issues.map (Issue.under step) := by
  cases x <;> rfl

end Checked

/-- Whether an issue is below a field, in one of the spellings of its name. -/
def IsBelow (name : String) (i : Issue) : Prop :=
  ∃ step ∈ [name, lowLined name], i.path.head? = some step

theorem mem_spellings_of_find? {name spelling : String} {entries : Entries} {v : Value}
    (h : find? name entries = some (spelling, v)) : spelling ∈ [name, lowLined name] := by
  unfold find? at h
  split at h
  · obtain ⟨rfl, -⟩ := Prod.mk.inj (Option.some.inj h)
    exact List.mem_cons_self
  · obtain ⟨w, -, heq⟩ := Option.map_eq_some_iff.mp h
    obtain ⟨rfl, -⟩ := Prod.mk.inj heq
    exact List.mem_cons_of_mem _ List.mem_cons_self

/-- The issues of a field are below it. -/
theorem isBelow_of_mem_field {α : Type} {entries : Entries} {name : String}
    {read : Value → Checked α} {default : α} {i : Issue}
    (h : i ∈ (field entries name read default).issues) : IsBelow name i := by
  unfold field at h
  split at h
  · next spelling v hfind =>
    rw [Checked.issues_under] at h
    obtain ⟨j, -, rfl⟩ := List.mem_map.mp h
    exact ⟨spelling, mem_spellings_of_find? hfind, rfl⟩
  · cases h

end Placard.Record
