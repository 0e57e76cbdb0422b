import Placard.Document.Stranger
import Placard.Proofs.Document.Loaded

/-!
# What the search for strangers finds

A stranger is found exactly where a path that names no members but those for nodes leads to an object
whose type is a text and no known kind (`mem_strangers_iff`). The kinds of both families count as
known wherever they stand.
-/

namespace Placard.Document

open Placard.Data Placard.Record

/-- The value at the end of a path of members and positions. -/
def valueAt? : List Step → Value → Option Value
  | [], v => some v
  | .member name :: path, .map entries => (Value.find? name entries).bind (valueAt? path)
  | .position i :: path, .list items => (items[i]?).bind (valueAt? path)
  | _ :: _, _ => none

theorem valueAt?_append (p q : List Step) (v : Value) :
    valueAt? (p ++ q) v = (valueAt? p v).bind (valueAt? q) := by
  induction p generalizing v with
  | nil => rfl
  | cons s p ih =>
    cases s with
    | member name =>
      cases v with
      | map entries =>
        rw [List.cons_append, valueAt?, valueAt?, Option.bind_assoc]
        exact congrArg _ (funext ih)
      | _ => rfl
    | position i =>
      cases v with
      | list items =>
        rw [List.cons_append, valueAt?, valueAt?, Option.bind_assoc]
        exact congrArg _ (funext ih)
      | _ => rfl

/-- Whether a path names no members but those for nodes. -/
def IsNodePath (path : List Step) : Prop :=
  ∀ name, Step.member name ∈ path → name ∈ nodeMembers

theorem isNodePath_nil : IsNodePath [] :=
  fun _ h => absurd h List.not_mem_nil

theorem isNodePath_append {p q : List Step} :
    IsNodePath (p ++ q) ↔ IsNodePath p ∧ IsNodePath q := by
  simp only [IsNodePath, List.mem_append]
  constructor
  · exact fun h => ⟨fun name hp => h name (.inl hp), fun name hq => h name (.inr hq)⟩
  · rintro ⟨hp, hq⟩ name (h | h)
    · exact hp name h
    · exact hq name h

theorem isNodePath_member {name : String} {path : List Step} :
    IsNodePath (.member name :: path) ↔ name ∈ nodeMembers ∧ IsNodePath path := by
  rw [← List.singleton_append, isNodePath_append]
  simp [IsNodePath]

theorem isNodePath_position {i : Nat} {path : List Step} :
    IsNodePath (.position i :: path) ↔ IsNodePath path := by
  simp [IsNodePath]

/-! ## The search -/

/-- Whether a stranger of a kind stands at the end of a path into a value. -/
structure HasStranger (v : Value) (path : List Step) (kind : String) : Prop where
  isNodePath : IsNodePath path
  type : valueAt? (path ++ [.member "type"]) v = some (.text kind)
  isUnknown : isKnownKind kind = false

theorem mem_ownStranger {path : List Step} {entries : List (Value × Value)} {s : Stranger} :
    s ∈ ownStranger path entries ↔
      s.path = path ∧ Value.find? "type" entries = some (.text s.kind) ∧
        isKnownKind s.kind = false := by
  obtain ⟨place, kind⟩ := s
  unfold ownStranger
  split
  · next found hfind =>
    rw [hfind]
    split
    · next hknown =>
      constructor
      · exact fun h => absurd h List.not_mem_nil
      · rintro ⟨-, htext, hunknown⟩
        obtain rfl := Value.text.inj (Option.some.inj htext)
        rw [hknown] at hunknown
        cases hunknown
    · next hunknown =>
      rw [List.mem_singleton, Stranger.mk.injEq]
      constructor
      · rintro ⟨rfl, rfl⟩
        exact ⟨rfl, rfl, Bool.eq_false_iff.mpr hunknown⟩
      · rintro ⟨hpath, htext, -⟩
        exact ⟨hpath, (Value.text.inj (Option.some.inj htext)).symm⟩
  · next hnone =>
    constructor
    · exact fun h => absurd h List.not_mem_nil
    · rintro ⟨-, htext, -⟩
      exact absurd htext (hnone kind)

theorem strangersUnder_eq (path : List Step) (name : String) (entries : List (Value × Value)) :
    strangersUnder path name entries =
      (Value.find? name entries).elim [] (strangersAt path) := by
  induction entries with
  | nil => rw [strangersUnder]; rfl
  | cons e entries ih =>
    obtain ⟨key, v⟩ := e
    have hstep : strangersUnder path name ((key, v) :: entries) =
        if isNamed name key then strangersAt path v else strangersUnder path name entries := by
      rw [strangersUnder.eq_def]
      rfl
    rw [hstep, find?_cons, ih]
    split <;> rfl

theorem mem_strangersFrom {path : List Step} {items : List Value} {i : Nat} {s : Stranger} :
    s ∈ strangersFrom path i items ↔
      ∃ j v, items[j]? = some v ∧ s ∈ strangersAt (path ++ [.position (i + j)]) v := by
  induction items generalizing i with
  | nil => simp [strangersFrom]
  | cons v items ih =>
    rw [strangersFrom, List.mem_append, ih]
    constructor
    · rintro (h | ⟨j, w, hw, h⟩)
      · exact ⟨0, v, rfl, h⟩
      · refine ⟨j + 1, w, hw, ?_⟩
        rwa [Nat.add_right_comm] at h
    · rintro ⟨j, w, hw, h⟩
      cases j with
      | zero =>
        obtain rfl := Option.some.inj hw
        exact .inl h
      | succ j =>
        refine .inr ⟨j, w, hw, ?_⟩
        rwa [Nat.add_right_comm]

section

variable {entries : List (Value × Value)} {items : List Value} {path : List Step} {kind : String}

theorem hasStranger_nil : HasStranger (.map entries) [] kind ↔
    Value.find? "type" entries = some (.text kind) ∧ isKnownKind kind = false := by
  have htype : valueAt? ([] ++ [.member "type"]) (.map entries) = Value.find? "type" entries := by
    rw [List.nil_append, valueAt?]
    exact Option.bind_fun_some (Value.find? "type" entries)
  constructor
  · exact fun h => ⟨htype ▸ h.type, h.isUnknown⟩
  · rintro ⟨hfind, hunknown⟩
    exact ⟨isNodePath_nil, htype.trans hfind, hunknown⟩

theorem hasStranger_member {name : String} : HasStranger (.map entries) (.member name :: path) kind ↔
    name ∈ nodeMembers ∧ ∃ v, Value.find? name entries = some v ∧ HasStranger v path kind := by
  constructor
  · rintro ⟨hpath, htype, hunknown⟩
    obtain ⟨hname, hrest⟩ := isNodePath_member.mp hpath
    rw [List.cons_append, valueAt?] at htype
    obtain ⟨v, hfind, htype⟩ := Option.bind_eq_some_iff.mp htype
    exact ⟨hname, v, hfind, hrest, htype, hunknown⟩
  · rintro ⟨hname, v, hfind, hrest, htype, hunknown⟩
    refine ⟨isNodePath_member.mpr ⟨hname, hrest⟩, ?_, hunknown⟩
    rw [List.cons_append, valueAt?, hfind]
    exact htype

theorem hasStranger_position {i : Nat} : HasStranger (.list items) (.position i :: path) kind ↔
    ∃ v, items[i]? = some v ∧ HasStranger v path kind := by
  constructor
  · rintro ⟨hpath, htype, hunknown⟩
    rw [List.cons_append, valueAt?] at htype
    obtain ⟨v, hget, htype⟩ := Option.bind_eq_some_iff.mp htype
    exact ⟨v, hget, isNodePath_position.mp hpath, htype, hunknown⟩
  · rintro ⟨v, hget, hrest, htype, hunknown⟩
    refine ⟨isNodePath_position.mpr hrest, ?_, hunknown⟩
    rw [List.cons_append, valueAt?, hget]
    exact htype

/-- A stranger in a mapping is the mapping itself or is in one of its members for nodes. -/
theorem exists_stranger_map {s : Stranger} :
    (∃ q, s.path = path ++ q ∧ HasStranger (.map entries) q s.kind) ↔
      s ∈ ownStranger path entries ∨
        ∃ name ∈ nodeMembers, ∃ v, Value.find? name entries = some v ∧
          ∃ q, s.path = path ++ [.member name] ++ q ∧ HasStranger v q s.kind := by
  rw [mem_ownStranger]
  constructor
  · rintro ⟨q, hpath, hstranger⟩
    rcases q with - | ⟨step, q⟩
    · rw [List.append_nil] at hpath
      exact .inl ⟨hpath, hasStranger_nil.mp hstranger⟩
    · cases step with
      | member name =>
        obtain ⟨hname, v, hfind, hstranger⟩ := hasStranger_member.mp hstranger
        refine .inr ⟨name, hname, v, hfind, q, ?_, hstranger⟩
        rw [hpath, List.append_assoc, List.singleton_append]
      | position i => cases hstranger.type
  · rintro (⟨hpath, htype⟩ | ⟨name, hname, v, hfind, q, hpath, hstranger⟩)
    · exact ⟨[], by rw [hpath, List.append_nil], hasStranger_nil.mpr htype⟩
    · refine ⟨.member name :: q, ?_, hasStranger_member.mpr ⟨hname, v, hfind, hstranger⟩⟩
      rw [hpath, List.append_assoc, List.singleton_append]

/-- A stranger in a list is in one of its items. -/
theorem exists_stranger_list {s : Stranger} :
    (∃ q, s.path = path ++ q ∧ HasStranger (.list items) q s.kind) ↔
      ∃ i v, items[i]? = some v ∧
        ∃ q, s.path = path ++ [.position i] ++ q ∧ HasStranger v q s.kind := by
  constructor
  · rintro ⟨q, hpath, hstranger⟩
    rcases q with - | ⟨step, q⟩
    · cases hstranger.type
    · cases step with
      | member name => cases hstranger.type
      | position i =>
        obtain ⟨v, hget, hstranger⟩ := hasStranger_position.mp hstranger
        refine ⟨i, v, hget, q, ?_, hstranger⟩
        rw [hpath, List.append_assoc, List.singleton_append]
  · rintro ⟨i, v, hget, q, hpath, hstranger⟩
    refine ⟨.position i :: q, ?_, hasStranger_position.mpr ⟨v, hget, hstranger⟩⟩
    rw [hpath, List.append_assoc, List.singleton_append]

end

/-- By induction on the size of the value. -/
theorem mem_strangersAt_iff {path : List Step} {v : Value} {s : Stranger} :
    s ∈ strangersAt path v ↔ ∃ q, s.path = path ++ q ∧ HasStranger v q s.kind := by
  induction hsize : sizeOf v using Nat.strongRecOn generalizing v path with
  | ind n ih =>
    subst hsize
    cases v with
    | map entries =>
      rw [exists_stranger_map, strangersAt, List.mem_append, List.mem_flatMap]
      refine or_congr_right (exists_congr fun name => and_congr_right fun _ => ?_)
      rw [strangersUnder_eq]
      cases hfind : Value.find? name entries with
      | none => simp
      | some v =>
        obtain ⟨key, hmem⟩ := mem_of_find? hfind
        rw [Option.elim_some, ih _ (sizeOf_lt_of_mem_map hmem) rfl]
        simp
    | list items =>
      rw [exists_stranger_list, strangersAt, mem_strangersFrom]
      refine exists_congr fun i => exists_congr fun v => and_congr_right fun hget => ?_
      have hlt : sizeOf v < sizeOf (Value.list items) :=
        sizeOf_lt_of_mem_itemsOf (List.mem_of_getElem? hget)
      rw [ih _ hlt rfl, Nat.zero_add]
    | _ =>
      -- the search ends at all other values, and no path leads into them
      constructor
      · intro h
        rw [strangersAt] at h
        · cases h
        all_goals exact fun _ heq => by cases heq
      · rintro ⟨q, -, hstranger⟩
        rcases q with - | ⟨step, q⟩
        · cases hstranger.type
        · cases step <;> cases hstranger.type

/-- **What the search finds.** The strangers of a document are the objects of unknown kind that a path
of members for nodes leads to. -/
theorem mem_strangers_iff {v : Value} {s : Stranger} :
    s ∈ strangers v ↔ HasStranger v s.path s.kind := by
  rw [strangers, mem_strangersAt_iff]
  constructor
  · rintro ⟨q, hpath, hstranger⟩
    rw [hpath, List.nil_append]
    exact hstranger
  · exact fun h => ⟨s.path, rfl, h⟩

end Placard.Document
