import Placard.Proofs.Json.Writable
import Placard.Yaml.Reading

/-!
# The shape of what is read

JSON and YAML both put values together from mappings and lists, so that a path of members and
positions leads to every mapping. YAML has sets and tuples besides, but nothing is lost to them: the
members of a set are keys, which mappings are not, and a tuple is only ever an item of a list.
-/

namespace Placard.Data

/-- Whether a value is as reading a text leaves it. -/
inductive IsOrderly : Value → Prop where
  | map {entries : List (Value × Value)} : (∀ e ∈ entries, IsOrderly e.2) → IsOrderly (.map entries)
  | list {items : List Value} : (∀ v ∈ items, (∀ vs, v ≠ .tuple vs) → IsOrderly v) →
      IsOrderly (.list items)
  | set {items : List Value} : (∀ v ∈ items, v.isKey = true) → IsOrderly (.set items)
  | key {v : Value} : v.isKey = true → (∀ vs, v ≠ .tuple vs) → IsOrderly v

/-- What is read from JSON is orderly. -/
theorem isClosed_isOrderly : Json.IsClosed IsOrderly where
  null := .key rfl fun _ h => by cases h
  bool _ := .key rfl fun _ h => by cases h
  int _ := .key rfl fun _ h => by cases h
  float _ _ := .key rfl fun _ h => by cases h
  text _ := .key rfl fun _ h => by cases h
  list _ hvs := .list fun v hv _ => hvs v hv
  map _ hes := .map fun e he => (hes.each e he).2

end Placard.Data

namespace Placard.Yaml

open Placard.Data

/-! ## Scalars and mappings -/

theorem bind_eq_ok {α β ε : Type} {x : Except ε α} {f : α → Except ε β} {b : β}
    (h : x.bind f = .ok b) : ∃ a, x = .ok a ∧ f a = .ok b := by
  cases x with
  | error e => cases h
  | ok a => exact ⟨a, rfl, h⟩

theorem isOrderly_readStamp {text : List Char} {v : Value} (h : readStamp text = .ok v) :
    IsOrderly v := by
  unfold readStamp at h
  split at h
  · cases h
  · dsimp only at h
    split at h
    · obtain ⟨d, -, rfl⟩ := Json.map_eq_ok h
      exact .key rfl fun _ h => by cases h
    · -- the offset is read in different ways, the rest of the moment in one
      split at h
      all_goals
        obtain ⟨offset, -, h⟩ := bind_eq_ok h
        obtain ⟨date, -, h⟩ := bind_eq_ok h
        obtain ⟨clock, -, h⟩ := bind_eq_ok h
        obtain rfl := Except.ok.inj h
        exact .key rfl fun _ h => by cases h

theorem isOrderly_readScalar {label : Label} {text : List Char} {v : Value}
    (h : readScalar label text = .ok v) : IsOrderly v := by
  unfold readScalar at h
  split at h
  · cases h
    exact .key rfl fun _ h => by cases h
  · obtain ⟨b, -, rfl⟩ := Json.map_eq_ok h
    exact .key rfl fun _ h => by cases h
  · obtain ⟨i, -, rfl⟩ := Json.map_eq_ok h
    exact .key rfl fun _ h => by cases h
  · obtain ⟨x, -, rfl⟩ := Json.map_eq_ok h
    exact .key rfl fun _ h => by cases h
  · obtain ⟨octets, -, rfl⟩ := Json.map_eq_ok h
    exact .key rfl fun _ h => by cases h
  · exact isOrderly_readStamp h
  · cases h
    exact .key rfl fun _ h => by cases h
  · cases h

/-- Whether an entry has a key that can be one and a orderly value. -/
def IsOrderlyEntry (e : Value × Value) : Prop :=
  e.1.isKey = true ∧ IsOrderly e.2

theorem isOrderlyEntry_writeEntry {e : Value × Value} (he : IsOrderlyEntry e)
    {es : List (Value × Value)} (hes : ∀ e ∈ es, IsOrderlyEntry e) :
    ∀ e' ∈ Value.writeEntry e.1 e.2 es, IsOrderlyEntry e' := by
  induction es with
  | nil => exact List.forall_mem_singleton.mpr he
  | cons first es ih =>
    rw [List.forall_mem_cons] at hes
    unfold Value.writeEntry
    split
    · exact List.forall_mem_cons.mpr ⟨⟨hes.1.1, he.2⟩, hes.2⟩
    · exact List.forall_mem_cons.mpr ⟨hes.1, ih hes.2⟩

theorem isOrderlyEntry_foldl {entries seen : List (Value × Value)}
    (hentries : ∀ e ∈ entries, IsOrderlyEntry e) (hseen : ∀ e ∈ seen, IsOrderlyEntry e) :
    ∀ e ∈ entries.foldl (fun es e => Value.writeEntry e.1 e.2 es) seen, IsOrderlyEntry e := by
  induction entries generalizing seen with
  | nil => exact hseen
  | cons first entries ih =>
    rw [List.forall_mem_cons] at hentries
    exact ih hentries.2 (isOrderlyEntry_writeEntry hentries.1 hseen)

/-- The entries of a mapping have keys, whatever entries it is made from. -/
theorem isOrderlyEntry_mapOf {entries es : List (Value × Value)}
    (hentries : ∀ e ∈ entries, IsOrderly e.2) (h : mapOf entries = .ok es) :
    ∀ e ∈ es, IsOrderlyEntry e := by
  unfold mapOf at h
  split at h
  · next hkeys =>
    obtain rfl := Except.ok.inj h
    rw [List.all_eq_true] at hkeys
    exact isOrderlyEntry_foldl (fun e he => ⟨hkeys e he, hentries e he⟩)
      fun _ he => absurd he List.not_mem_nil
  · cases h

/-! ## Nodes -/

theorem readPairs_tuples {ns : List Node} {vs : List Value} (h : readPairs ns = .ok vs) :
    ∀ v ∈ vs, ∃ pair, v = .tuple pair := by
  induction ns generalizing vs with
  | nil =>
    rw [readPairs] at h
    obtain rfl := Except.ok.inj h
    exact fun _ hv => absurd hv List.not_mem_nil
  | cons n ns ih =>
    unfold readPairs at h
    split at h
    · next heq => cases heq
    · next heq =>
      obtain ⟨-, rfl⟩ := List.cons.inj heq
      split at h
      · cases h
      · cases h
      · obtain ⟨rest, hrest, rfl⟩ := Json.map_eq_ok h
        exact List.forall_mem_cons.mpr ⟨⟨_, rfl⟩, ih hrest⟩
    · cases h

mutual

/-- What a node stands for is orderly. -/
theorem isOrderly_readNode : ∀ (n : Node) {v : Value}, readNode n = .ok v → IsOrderly v
  | .scalar label text, v, h => by
    rw [readNode] at h
    exact isOrderly_readScalar h
  | .sequence label items, v, h => by
    have hpairs {vs : List Value} (h : readPairs items = .ok vs) : IsOrderly (.list vs) := by
      refine .list fun w hw hnot => ?_
      obtain ⟨pair, rfl⟩ := readPairs_tuples h w hw
      exact absurd rfl (hnot pair)
    unfold readNode at h
    split at h
    · obtain ⟨vs, hvs, rfl⟩ := Json.map_eq_ok h
      exact .list fun w hw _ => isOrderly_readNodes items hvs w hw
    · obtain ⟨vs, hvs, rfl⟩ := Json.map_eq_ok h
      exact hpairs hvs
    · obtain ⟨vs, hvs, rfl⟩ := Json.map_eq_ok h
      exact hpairs hvs
    · cases h
  | .mapping label entries, v, h => by
    unfold readNode at h
    split at h
    · obtain ⟨p, hp, h⟩ := bind_eq_ok h
      obtain ⟨es, hes, rfl⟩ := Json.map_eq_ok h
      have horderly := isOrderlyEntry_mapOf (isOrderly_readEntries entries hp) hes
      exact .map fun e he => (horderly e he).2
    · obtain ⟨p, hp, h⟩ := bind_eq_ok h
      obtain ⟨es, hes, rfl⟩ := Json.map_eq_ok h
      have horderly := isOrderlyEntry_mapOf (isOrderly_readEntries entries hp) hes
      refine .set fun w hw => ?_
      obtain ⟨e, he, rfl⟩ := List.mem_map.mp hw
      exact (horderly e he).1
    · split at h
      · split at h
        · exact isOrderly_readScalar h
        · cases h
      · cases h

theorem isOrderly_readNodes : ∀ (ns : List Node) {vs : List Value}, readNodes ns = .ok vs →
    ∀ v ∈ vs, IsOrderly v
  | [], vs, h => by
    rw [readNodes] at h
    obtain rfl := Except.ok.inj h
    exact fun _ hv => absurd hv List.not_mem_nil
  | n :: ns, vs, h => by
    rw [readNodes] at h
    split at h
    · cases h
    · next v hv =>
      obtain ⟨rest, hrest, rfl⟩ := Json.map_eq_ok h
      exact List.forall_mem_cons.mpr ⟨isOrderly_readNode n hv, isOrderly_readNodes ns hrest⟩

theorem isOrderly_readEntries : ∀ (entries : List (Node × Node))
    {p : List (Value × Value) × List (Value × Value)}, readEntries entries = .ok p →
    ∀ e ∈ p.1 ++ p.2, IsOrderly e.2
  | [], p, h => by
    rw [readEntries] at h
    obtain rfl := Except.ok.inj h
    exact fun _ he => absurd he List.not_mem_nil
  | (k, v) :: rest, p, h => by
    unfold readEntries at h
    split at h
    · next heq => cases heq
    · next heq =>
      obtain ⟨hentry, rfl⟩ := List.cons.inj heq
      obtain ⟨-, rfl⟩ := Prod.mk.inj hentry
      split at h
      · cases h
      · next entries hentries =>
        obtain ⟨q, hq, rfl⟩ := Json.map_eq_ok h
        have hrest := isOrderly_readEntries rest hq
        -- a merge key: the entries that are taken over were read as entries themselves
        have htaken := isOrderly_takenOver v hentries
        simp only [List.append_assoc, List.forall_mem_append] at hrest ⊢
        exact ⟨htaken, hrest⟩
    · next heq =>
      obtain ⟨hentry, rfl⟩ := List.cons.inj heq
      obtain ⟨-, rfl⟩ := Prod.mk.inj hentry
      split at h
      · cases h
      · next w hw =>
        obtain ⟨q, hq, rfl⟩ := Json.map_eq_ok h
        have hrest := isOrderly_readEntries rest hq
        have hvalue := isOrderly_readNode v hw
        simp only [List.forall_mem_append, List.forall_mem_cons] at hrest ⊢
        exact ⟨hrest.1, hvalue, hrest.2⟩
    · next heq =>
      obtain ⟨hentry, rfl⟩ := List.cons.inj heq
      obtain ⟨rfl, rfl⟩ := Prod.mk.inj hentry
      split at h
      · cases h
      · split at h
        · cases h
        · next w hw =>
          obtain ⟨q, hq, rfl⟩ := Json.map_eq_ok h
          have hrest := isOrderly_readEntries rest hq
          have hvalue := isOrderly_readNode v hw
          simp only [List.forall_mem_append, List.forall_mem_cons] at hrest ⊢
          exact ⟨hrest.1, hvalue, hrest.2⟩

theorem isOrderly_takenOver : ∀ (n : Node) {es : List (Value × Value)}, takenOver n = .ok es →
    ∀ e ∈ es, IsOrderly e.2
  | .scalar label text, es, h => by
    rw [takenOver] at h
    cases h
  | .sequence label items, es, h => by
    rw [takenOver] at h
    exact isOrderly_takenOverFrom items h
  | .mapping label entries, es, h => by
    rw [takenOver] at h
    obtain ⟨p, hp, rfl⟩ := Json.map_eq_ok h
    exact isOrderly_readEntries entries hp

theorem isOrderly_takenOverFrom : ∀ (ns : List Node) {es : List (Value × Value)},
    takenOverFrom ns = .ok es → ∀ e ∈ es, IsOrderly e.2
  | [], es, h => by
    rw [takenOverFrom] at h
    obtain rfl := Except.ok.inj h
    exact fun _ he => absurd he List.not_mem_nil
  | .mapping label entries :: ns, es, h => by
    rw [takenOverFrom] at h
    split at h
    · cases h
    · next p hp =>
      obtain ⟨later, hlater, rfl⟩ := Json.map_eq_ok h
      have hentries := isOrderly_readEntries entries hp
      have hrest := isOrderly_takenOverFrom ns hlater
      rw [List.append_assoc, List.forall_mem_append]
      exact ⟨hrest, hentries⟩
  | .scalar label text :: ns, es, h => by
    rw [takenOverFrom] at h
    · cases h
    · exact fun _ _ h => by cases h
  | .sequence label items :: ns, es, h => by
    rw [takenOverFrom] at h
    · cases h
    · exact fun _ _ h => by cases h

end

/-- What is read from YAML is orderly. -/
theorem isOrderly_read {text : String} {v : Value} (h : read text = .ok v) : IsOrderly v := by
  unfold read at h
  split at h
  · cases h
  split at h
  · cases h
  · cases h
    exact .key rfl fun _ h => by cases h
  · exact isOrderly_readNode _ h

end Placard.Yaml
