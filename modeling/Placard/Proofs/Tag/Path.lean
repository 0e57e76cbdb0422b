import Mathlib.Data.List.Pairwise
import Placard.Proofs.Tag.Tree

/-!
# Paths in a tree

A path of child positions leads to a tag. An edit at a path is an edit of the tag there
(`at_editAt_self`), and one that does nothing there does nothing at all (`editAt_eq_self`).

In document order a tag comes before the tags below it, and those come before the tags behind it. In
terms of paths this is the order of dictionaries. `placedFrom` lists the tags of a list and those
below them with their paths: each of them once (`mem_placedFrom`) and in order
(`pairwise_placedFrom`). So a search finds all that it looks for, and nothing else, in document
order (`findAll_lists`).
-/

namespace Placard.Tag

/-! ## Edits at a path -/

section

variable (f : Tag → Tag)

theorem at_editAt_cons (i j : Nat) (path path' : List Nat) (t : Tag) :
    (t.editAt f (i :: path)).at? (j :: path') =
      (t.children[j]?).bind fun u => (if i = j then u.editAt f path else u).at? path' := by
  rw [at_cons, editAt, List.getElem?_modify]
  cases t.children[j]? <;> rfl

/-- The tag at the path is edited. -/
theorem at_editAt_self (path : List Nat) (t : Tag) :
    (t.editAt f path).at? path = (t.at? path).map f := by
  induction path generalizing t with
  | nil => rfl
  | cons i path ih =>
    rw [at_editAt_cons, at_cons]
    cases t.children[i]? with
    | none => rfl
    | some u =>
      rw [Option.bind_some, Option.bind_some, if_pos rfl, ih]

variable {f}

/-- An edit that leaves the tag at its path as it was leaves the whole tree so. -/
theorem editAt_eq_self {path : List Nat} {t : Tag} (h : ∀ u, t.at? path = some u → f u = u) :
    t.editAt f path = t := by
  induction path generalizing t with
  | nil => exact h t rfl
  | cons i path ih =>
    have hchildren : t.children.modify i (editAt f path) = t.children := by
      refine List.ext_getElem? fun j => ?_
      rw [List.getElem?_modify]
      cases hj : t.children[j]? with
      | none => rfl
      | some u =>
        by_cases hij : i = j
        · subst hij
          have hu := ih fun v hv => h v (by rw [at_cons, hj, Option.bind_some, hv])
          simp [hu]
        · simp [hij]
    rw [editAt, hchildren]
    cases t
    rfl

theorem name_editAt (hf : ∀ u, (f u).name = u.name) (path : List Nat) (t : Tag) :
    (t.editAt f path).name = t.name := by
  cases path with
  | nil => exact hf t
  | cons i path => rfl

end

/-! ## Document order -/

mutual

/-- The tags below a tag with their paths, in document order. -/
def placedBelow (t : Tag) : List (List Nat × Tag) :=
  match t with
  | ⟨_, _, _, _, _, children⟩ => placedFrom 0 children

/-- The tags of a list and those below them, the first one at a given position. -/
def placedFrom (i : Nat) : List Tag → List (List Nat × Tag)
  | [] => []
  | t :: ts => ([i], t) :: (placedBelow t).map (fun e => (i :: e.1, e.2)) ++ placedFrom (i + 1) ts

end

theorem placedBelow_eq (t : Tag) : placedBelow t = placedFrom 0 t.children := by
  cases t
  rfl

@[simp] theorem placedFrom_nil (i : Nat) : placedFrom i [] = [] := rfl

@[simp] theorem placedFrom_cons (i : Nat) (t : Tag) (ts : List Tag) : placedFrom i (t :: ts) =
    ([i], t) :: (placedFrom 0 t.children).map (fun e => (i :: e.1, e.2)) ++
      placedFrom (i + 1) ts := by
  rw [← placedBelow_eq]
  rfl

/-- The paths apart, these are the tags below, in the order in which they are always listed. -/
theorem map_snd_placedFrom (ts : List Tag) (i : Nat) :
    (placedFrom i ts).map (·.2) = descendantsOf ts := by
  induction ts using forestInduction generalizing i with
  | nil => rfl
  | cons t ts hbelow hrest =>
    rw [placedFrom_cons, descendantsOf_cons, List.map_append, List.map_cons, List.map_map, hrest,
      ← hbelow 0]
    rfl

/-- **Every tag at its path.** -/
theorem mem_placedFrom {ts : List Tag} {i : Nat} {path : List Nat} {u : Tag} :
    (path, u) ∈ placedFrom i ts ↔
      ∃ j rest t, path = (i + j) :: rest ∧ ts[j]? = some t ∧ t.at? rest = some u := by
  induction ts using forestInduction generalizing i path with
  | nil => simp
  | cons t ts hbelow hrest =>
    rw [placedFrom_cons, List.mem_append, List.mem_cons, List.mem_map, hrest]
    constructor
    · -- the first tag itself, one below it, or one of the rest
      rintro ((hself | ⟨⟨path', u'⟩, hmem, heq⟩) | ⟨j, rest, v, rfl, hv, hu⟩)
      · obtain ⟨rfl, rfl⟩ := Prod.mk.inj hself
        exact ⟨0, [], u, rfl, rfl, rfl⟩
      · obtain ⟨rfl, rfl⟩ := Prod.mk.inj heq
        obtain ⟨j, rest, v, rfl, hv, hu⟩ := hbelow.mp hmem
        rw [Nat.zero_add]
        exact ⟨0, j :: rest, t, rfl, rfl, by rw [at_cons, hv, Option.bind_some, hu]⟩
      · exact ⟨j + 1, rest, v, by rw [Nat.add_right_comm, Nat.add_assoc], hv, hu⟩
    · rintro ⟨_ | j, rest, v, rfl, hv, hu⟩
      · obtain rfl := Option.some.inj hv
        cases rest with
        | nil =>
          obtain rfl := Option.some.inj hu
          exact .inl (.inl rfl)
        | cons k rest =>
          obtain ⟨w, hw, hbelow'⟩ := Option.bind_eq_some_iff.mp hu
          refine .inl (.inr ⟨(k :: rest, u), hbelow.mpr ⟨k, rest, w, ?_, hw, hbelow'⟩, rfl⟩)
          rw [Nat.zero_add]
      · exact .inr ⟨j, rest, v, by rw [Nat.add_right_comm, Nat.add_assoc], hv, hu⟩

/-- **The order of the tags.** A path comes before the longer ones that it begins, and else the
first step that differs decides. -/
theorem pairwise_placedFrom (ts : List Tag) (i : Nat) :
    (placedFrom i ts).Pairwise fun a b => a.1 < b.1 := by
  induction ts using forestInduction generalizing i with
  | nil => exact .nil
  | cons t ts hbelow hrest =>
    -- what is behind a tag has a greater first step than the tag and all below it
    have hbehind (path : List Nat) {b : List Nat × Tag} (hb : b ∈ placedFrom (i + 1) ts) :
        i :: path < b.1 := by
      obtain ⟨j, rest, v, hpath, -, -⟩ := mem_placedFrom.mp hb
      rw [hpath, List.cons_lt_cons_iff]
      exact .inl (by omega)
    rw [placedFrom_cons, List.pairwise_append, List.pairwise_cons, List.pairwise_map]
    refine ⟨⟨fun b hb => ?_, ?_⟩, hrest (i + 1), fun a ha b hb => ?_⟩
    · obtain ⟨e, he, rfl⟩ := List.mem_map.mp hb
      obtain ⟨j, rest, v, hpath, -, -⟩ := mem_placedFrom.mp he
      rw [hpath, List.cons_lt_cons_iff]
      exact .inr ⟨rfl, List.nil_lt_cons _ _⟩
    · exact (hbelow 0).imp fun h => List.cons_lt_cons_iff.mpr (.inr ⟨rfl, h⟩)
    · rcases List.mem_cons.mp ha with rfl | ha
      · exact hbehind [] hb
      · obtain ⟨e, -, rfl⟩ := List.mem_map.mp ha
        exact hbehind e.1 hb

/-- A path below a tag begins with the position of a child. -/
theorem mem_placedBelow {t : Tag} {path : List Nat} {u : Tag} :
    (path, u) ∈ placedBelow t ↔ path ≠ [] ∧ t.at? path = some u := by
  rw [placedBelow_eq, mem_placedFrom]
  constructor
  · rintro ⟨j, rest, v, rfl, hv, hu⟩
    rw [Nat.zero_add, at_cons, hv]
    exact ⟨List.cons_ne_nil _ _, hu⟩
  · rintro ⟨hne, hu⟩
    obtain ⟨j, rest, rfl⟩ := List.exists_cons_of_ne_nil hne
    obtain ⟨v, hv, hbelow⟩ := Option.bind_eq_some_iff.mp hu
    exact ⟨j, rest, v, by rw [Nat.zero_add], hv, hbelow⟩

/-- The tags are all those below a tag that satisfy a condition, in document order. -/
def Lists (t : Tag) (p : Tag → Prop) (found : List Tag) : Prop :=
  ∃ placed : List (List Nat × Tag), found = placed.map (·.2) ∧
    (placed.Pairwise fun a b => a.1 < b.1) ∧
    ∀ path u, (path, u) ∈ placed ↔ path ≠ [] ∧ t.at? path = some u ∧ p u

/-- **What a search finds.** It finds all tags below a tag that have the name, if one is given, and
the class, if one is given, and finds them in document order. -/
theorem findAll_lists (t : Tag) (name className : Option String) :
    t.Lists (fun u => (∀ n ∈ name, u.name = n) ∧ ∀ c ∈ className, c ∈ u.classes)
      (t.findAll name className) := by
  refine ⟨(placedBelow t).filter fun e =>
    name.all (e.2.name == ·) && className.all e.2.classes.contains, ?_, ?_, fun path u => ?_⟩
  · rw [findAll, descendants_eq, ← map_snd_placedFrom t.children 0, ← placedBelow_eq,
      List.filter_map]
    rfl
  · rw [placedBelow_eq]
    exact (pairwise_placedFrom t.children 0).filter _
  · rw [List.mem_filter, mem_placedBelow, and_assoc]
    simp [Option.all_eq_true]

end Placard.Tag
