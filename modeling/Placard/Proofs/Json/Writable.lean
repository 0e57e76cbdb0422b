import Mathlib.Data.List.Basic
import Placard.Json.Reader
import Placard.Json.Writer
import Placard.Proofs.Number.Nearest

/-!
# What was read can be written

A value can be written if its parts can be and all keys have texts. Of the values that data can
have, dates, octets and sets cannot be written; none of them is ever read from JSON, where a property
holds of every value as soon as it holds of all that can be put together there (`read_induction`).
So what was read can be written (`read_isWritable`).
-/

namespace Placard.Json

open Placard.Text Placard.Number Placard.Data

/-- Whether a value has a written form. -/
def IsWritable (v : Value) : Prop :=
  ∃ cs, write v = .ok cs

/-- Whether an entry of a mapping has a written form. -/
def IsWritableEntry (e : Value × Value) : Prop :=
  (keyText? e.1).isSome ∧ IsWritable e.2

/-! ## Lists and mappings -/

theorem writeItems_ok_iff {vs : List Value} :
    (∃ parts, writeItems vs = .ok parts) ↔ ∀ v ∈ vs, IsWritable v := by
  induction vs with
  | nil => simp [writeItems]
  | cons v vs ih =>
    rw [List.forall_mem_cons, ← ih, writeItems, IsWritable]
    cases write v with
    | error e => simp
    | ok part => cases writeItems vs <;> simp [Except.map]

theorem writeMembers_ok_iff {es : List (Value × Value)} :
    (∃ parts, writeMembers es = .ok parts) ↔ ∀ e ∈ es, IsWritableEntry e := by
  induction es with
  | nil => simp [writeMembers]
  | cons e es ih =>
    obtain ⟨k, v⟩ := e
    rw [List.forall_mem_cons, ← ih, writeMembers, IsWritableEntry, IsWritable]
    cases keyText? k with
    | none => simp
    | some name =>
      cases write v with
      | error e => simp
      | ok part => cases writeMembers es <;> simp [Except.map]

theorem map_eq_ok {α β ε : Type} {x : Except ε α} {f : α → β} {b : β} (h : x.map f = .ok b) :
    ∃ a, x = .ok a ∧ f a = b := by
  cases x with
  | error e => cases h
  | ok a => exact ⟨a, rfl, Except.ok.inj h⟩

theorem map_ok_iff {α β ε : Type} {x : Except ε α} {f : α → β} :
    (∃ b, x.map f = .ok b) ↔ ∃ a, x = .ok a := by
  cases x <;> simp [Except.map]

/-- Which values have a written form, kind by kind. -/
theorem isWritable_iff {v : Value} : IsWritable v ↔
    match v with
    | .null | .bool _ | .int _ | .float _ | .text _ => True
    | .list vs | .tuple vs => ∀ w ∈ vs, IsWritable w
    | .map es => ∀ e ∈ es, IsWritableEntry e
    | .date _ | .moment _ | .bytes _ | .set _ => False := by
  unfold IsWritable
  cases v with
  | list vs | tuple vs => rw [write, map_ok_iff, writeItems_ok_iff]; rfl
  | map es => rw [write, map_ok_iff, writeMembers_ok_iff]
  | _ => simp [write]

/-! ## Reading -/

/-- An entry with a text for a key and a value with the property. -/
abbrev HoldsOfEntry (P : Value → Prop) (e : Value × Value) : Prop :=
  (∃ name, e.1 = .text name) ∧ P e.2

/-- Whether entries have different texts for keys, and values with the property. -/
structure HoldsOfEntries (P : Value → Prop) (es : List (Value × Value)) : Prop where
  each : ∀ e ∈ es, HoldsOfEntry P e
  nodup : (es.map (·.1)).Nodup

/-- A property of all values that are put together as in JSON. -/
structure IsClosed (P : Value → Prop) : Prop where
  null : P .null
  bool : ∀ b, P (.bool b)
  int : ∀ i, P (.int i)
  float : ∀ x, x.IsCanonical → P (.float x)
  text : ∀ s, P (.text s)
  list : ∀ vs, (∀ v ∈ vs, P v) → P (.list vs)
  map : ∀ es, HoldsOfEntries P es → P (.map es)

section

variable {P : Value → Prop}

theorem holdsOfEntries_nil : HoldsOfEntries P [] :=
  ⟨fun _ h => absurd h List.not_mem_nil, .nil⟩

theorem sameKey_text (s t : String) : Value.sameKey (.text s) (.text t) = (s == t) :=
  rfl

/-- A written entry has a new key or that of the entry in its place. -/
theorem key_of_mem_writeEntry {key v : Value} {es : List (Value × Value)} :
    ∀ k ∈ (Value.writeEntry key v es).map (·.1), k = key ∨ k ∈ es.map (·.1) := by
  induction es with
  | nil => exact List.forall_mem_singleton.mpr (.inl rfl)
  | cons e es ih =>
    unfold Value.writeEntry
    split
    · exact fun k hk => .inr hk
    · exact List.forall_mem_cons.mpr ⟨.inr List.mem_cons_self, fun k hk =>
        (ih k hk).imp_right (List.mem_cons_of_mem _)⟩

/-- A written entry has the key that was there or its own, and its own value. -/
theorem holdsOfEntries_writeEntry (name : String) {v : Value} (hv : P v)
    {es : List (Value × Value)} (hes : HoldsOfEntries P es) :
    HoldsOfEntries P (Value.writeEntry (.text name) v es) := by
  induction es with
  | nil => exact ⟨List.forall_mem_singleton.mpr ⟨⟨name, rfl⟩, hv⟩, List.nodup_singleton _⟩
  | cons e es ih =>
    obtain ⟨heach, hnodup⟩ := hes
    rw [List.forall_mem_cons] at heach
    rw [List.map_cons, List.nodup_cons] at hnodup
    obtain ⟨own, hown⟩ := heach.1.1
    obtain ⟨k, w⟩ := e
    obtain rfl : k = .text own := hown
    rw [Value.writeEntry, sameKey_text]
    split
    · exact ⟨List.forall_mem_cons.mpr ⟨⟨⟨own, rfl⟩, hv⟩, heach.2⟩, List.nodup_cons.mpr hnodup⟩
    · next hne =>
      obtain ⟨heach', hnodup'⟩ := ih ⟨heach.2, hnodup.2⟩
      refine ⟨List.forall_mem_cons.mpr ⟨heach.1, heach'⟩,
        List.nodup_cons.mpr ⟨fun hmem => ?_, hnodup'⟩⟩
      rcases key_of_mem_writeEntry _ hmem with heq | hold
      · exact hne (beq_iff_eq.mpr (Value.text.inj heq))
      · exact hnodup.1 hold

variable (hP : IsClosed P)

include hP

theorem IsClosed.number? {cs rest : List Char} {v : Value} (h : number? cs = some (v, rest)) :
    P v := by
  unfold Json.number? at h
  dsimp only at h
  split at h
  · cases h
  split at h
  · obtain ⟨rfl, -⟩ := Prod.mk.inj (Option.some.inj h)
    exact hP.int _
  · obtain ⟨rfl, -⟩ := Prod.mk.inj (Option.some.inj h)
    exact hP.float _ (Scientific.isCanonical_toDouble _)

theorem IsClosed.words : ∀ w ∈ words, P w.2 := by
  simp only [Json.words, List.forall_mem_cons]
  exact ⟨hP.null, hP.bool _, hP.bool _, hP.float _ trivial, hP.float _ trivial,
    hP.float _ trivial, fun _ hw => absurd hw List.not_mem_nil⟩

theorem IsClosed.scalar {cs rest : List Char} {v : Value} (h : scalar cs = .ok (v, rest)) :
    P v := by
  unfold Json.scalar at h
  split at h
  · next p hp =>
    obtain rfl := Except.ok.inj h
    obtain ⟨w, hw, hrest⟩ := List.exists_of_findSome?_eq_some hp
    obtain ⟨after, -, heq⟩ := Option.map_eq_some_iff.mp hrest
    obtain ⟨rfl, -⟩ := Prod.mk.inj heq
    exact hP.words w hw
  split at h
  · next p hp =>
    obtain rfl := Except.ok.inj h
    exact hP.number? hp
  · cases h

/-- Whether some fuel reads only values with the property, items and members behind others with it. -/
structure ReadsOnly (P : Value → Prop) (fuel : Nat) : Prop where
  value : ∀ {cs v rest}, value fuel cs = .ok (v, rest) → P v
  items : ∀ {seen cs vs rest}, items fuel seen cs = .ok (vs, rest) → (∀ v ∈ seen, P v) →
    ∀ v ∈ vs, P v
  members : ∀ {seen cs es rest}, members fuel seen cs = .ok (es, rest) → HoldsOfEntries P seen →
    HoldsOfEntries P es

namespace ReadsOnly

variable {fuel : Nat} (hreads : ReadsOnly P fuel)

include hreads

theorem value_succ {cs rest : List Char} {v : Value}
    (h : Json.value (fuel + 1) cs = .ok (v, rest)) : P v := by
  have hempty : ∀ v ∈ ([] : List Value), P v := fun _ hv => absurd hv List.not_mem_nil
  unfold Json.value at h
  split at h
  · obtain ⟨p, -, hp⟩ := map_eq_ok h
    obtain ⟨rfl, -⟩ := Prod.mk.inj hp
    exact hP.text _
  · split at h
    · obtain ⟨rfl, -⟩ := Prod.mk.inj (Except.ok.inj h)
      exact hP.list [] hempty
    · obtain ⟨p, hp, heq⟩ := map_eq_ok h
      obtain ⟨rfl, -⟩ := Prod.mk.inj heq
      exact hP.list _ (hreads.items hp hempty)
  · split at h
    · obtain ⟨rfl, -⟩ := Prod.mk.inj (Except.ok.inj h)
      exact hP.map [] holdsOfEntries_nil
    · obtain ⟨p, hp, heq⟩ := map_eq_ok h
      obtain ⟨rfl, -⟩ := Prod.mk.inj heq
      exact hP.map _ (hreads.members hp holdsOfEntries_nil)
  · exact hP.scalar h

omit hP in
theorem items_succ {cs rest : List Char} {seen vs : List Value}
    (h : Json.items (fuel + 1) seen cs = .ok (vs, rest)) (hseen : ∀ v ∈ seen, P v) :
    ∀ v ∈ vs, P v := by
  unfold Json.items at h
  split at h
  · cases h
  next v after hv =>
  have hseen := List.forall_mem_append.mpr ⟨hseen, List.forall_mem_singleton.mpr (hreads.value hv)⟩
  split at h
  · obtain ⟨rfl, -⟩ := Prod.mk.inj (Except.ok.inj h)
    exact hseen
  · exact hreads.items h hseen
  · cases h

omit hP in
theorem members_succ {cs rest : List Char} {seen es : List (Value × Value)}
    (h : Json.members (fuel + 1) seen cs = .ok (es, rest)) (hseen : HoldsOfEntries P seen) :
    HoldsOfEntries P es := by
  unfold Json.members at h
  split at h
  swap
  · cases h
  split at h
  · cases h
  split at h
  swap
  · cases h
  split at h
  · cases h
  next v after hv =>
  have hseen := fun name => holdsOfEntries_writeEntry name (hreads.value hv) hseen
  dsimp only at h
  split at h
  · obtain ⟨rfl, -⟩ := Prod.mk.inj (Except.ok.inj h)
    exact hseen _
  · exact hreads.members h (hseen _)
  · cases h

end ReadsOnly

/-- By induction on the fuel, for values, lists of items and lists of members at once. -/
theorem IsClosed.readsOnly (fuel : Nat) : ReadsOnly P fuel := by
  induction fuel with
  | zero => exact { value := nofun, items := nofun, members := nofun }
  | succ fuel ih =>
    exact { value := ih.value_succ hP, items := ih.items_succ, members := ih.members_succ }

/-- **Induction over what is read.** A property that passes from the parts of lists and mappings to
the whole holds of every value that is read. -/
theorem read_induction {s : String} {v : Value} (h : read s = .ok v) : P v := by
  unfold read readText at h
  split at h
  · cases h
  split at h
  · cases h
  · next v' rest hv =>
    split at h
    · obtain rfl := Except.ok.inj h
      exact (hP.readsOnly _).value hv
    · cases h

end

theorem isClosed_isWritable : IsClosed IsWritable where
  null := isWritable_iff.mpr trivial
  bool _ := isWritable_iff.mpr trivial
  int _ := isWritable_iff.mpr trivial
  float _ _ := isWritable_iff.mpr trivial
  text _ := isWritable_iff.mpr trivial
  list _ hvs := isWritable_iff.mpr hvs
  map es hes := by
    refine isWritable_iff.mpr fun e he => ?_
    obtain ⟨⟨name, hname⟩, hvalue⟩ := hes.each e he
    exact ⟨by rw [hname]; rfl, hvalue⟩

/-- **What was read can be written.** -/
theorem read_isWritable {s : String} {v : Value} (h : read s = .ok v) : IsWritable v :=
  read_induction isClosed_isWritable h

end Placard.Json
