import Mathlib.Data.List.Basic
import Placard.Tag.Basic

/-!
# Trees of tags

What is shared by all that is said about whole trees: induction over the children of a tag, and
what the views of a tree give for the edits that build it.
-/

namespace Placard.Tag

/-- **Induction over a tree.** What holds of a tag as soon as it holds of its children holds of
every tag. -/
theorem childrenInduction {P : Tag → Prop} (step : ∀ t, (∀ u ∈ t.children, P u) → P t) (t : Tag) :
    P t :=
  step t fun u _ => childrenInduction step u
termination_by sizeOf t
decreasing_by
  rename_i hu
  have hlt := List.sizeOf_lt_of_mem hu
  cases t
  simp only [mk.sizeOf_spec] at hlt ⊢
  omega

/-- Induction over a list of tags. A tag adds what is in it and what follows it. -/
theorem forestInduction {P : List Tag → Prop} (nil : P [])
    (cons : ∀ t ts, P t.children → P ts → P (t :: ts)) (ts : List Tag) : P ts := by
  have hlist (us : List Tag) (hus : ∀ u ∈ us, P u.children) : P us := by
    induction us with
    | nil => exact nil
    | cons u us ih =>
      rw [List.forall_mem_cons] at hus
      exact cons u us hus.1 (ih hus.2)
  exact hlist ts fun t _ => childrenInduction (fun u hu => hlist u.children hu) t

/-! ## Edits -/

section

variable {κ α : Type} [DecidableEq κ]

theorem writeAt_cons (key k : κ) (value v : α) (rest : List (κ × α)) :
    writeAt key value ((k, v) :: rest) =
      if k = key then (k, value) :: rest else (k, v) :: writeAt key value rest := rfl

theorem valueAt_cons (key k : κ) (v : α) (rest : List (κ × α)) :
    valueAt? key ((k, v) :: rest) = if k = key then some v else valueAt? key rest := rfl

theorem mem_writeAt {key : κ} {value : α} {entries : List (κ × α)} {entry : κ × α}
    (h : entry ∈ writeAt key value entries) : entry = (key, value) ∨ entry ∈ entries := by
  induction entries with
  | nil => exact .inl (List.mem_singleton.mp h)
  | cons e entries ih =>
    obtain ⟨k, v⟩ := e
    rw [writeAt_cons] at h
    split at h
    · next hkey =>
      rcases List.mem_cons.mp h with rfl | h
      · exact .inl (by rw [hkey])
      · exact .inr (List.mem_cons_of_mem _ h)
    · rcases List.mem_cons.mp h with rfl | h
      · exact .inr List.mem_cons_self
      · exact (ih h).imp_right (List.mem_cons_of_mem _)

theorem valueAt_eq_none {key : κ} {entries : List (κ × α)} (h : ∀ e ∈ entries, e.1 ≠ key) :
    valueAt? key entries = none := by
  induction entries with
  | nil => rfl
  | cons e entries ih =>
    rw [List.forall_mem_cons] at h
    rw [valueAt_cons, if_neg h.1, ih h.2]

/-- Keys that are distinct stay distinct when one of them, or another one, is written. -/
theorem nodup_writeAt {key : κ} {value : α} {entries : List (κ × α)}
    (h : (entries.map (·.1)).Nodup) : ((writeAt key value entries).map (·.1)).Nodup := by
  induction entries with
  | nil => exact List.nodup_cons.mpr ⟨List.not_mem_nil, List.nodup_nil⟩
  | cons e entries ih =>
    obtain ⟨k, v⟩ := e
    rw [List.map_cons, List.nodup_cons] at h
    rw [writeAt_cons]
    split
    · next hkey => exact List.nodup_cons.mpr h
    · next hkey =>
      refine List.nodup_cons.mpr ⟨fun hmem => ?_, ih h.2⟩
      obtain ⟨entry, hentry, hk⟩ := List.mem_map.mp hmem
      rcases mem_writeAt hentry with rfl | hold
      · exact hkey hk.symm
      · exact h.1 (List.mem_map.mpr ⟨entry, hold, hk⟩)

/-- A key that is not there is written at the end. -/
theorem writeAt_of_not_mem {key : κ} (value : α) {entries : List (κ × α)}
    (h : key ∉ entries.map (·.1)) : writeAt key value entries = entries ++ [(key, value)] := by
  induction entries with
  | nil => rfl
  | cons e entries ih =>
    obtain ⟨k, v⟩ := e
    rw [List.map_cons, List.mem_cons, not_or] at h
    rw [writeAt_cons, if_neg (Ne.symm h.1), ih h.2, List.cons_append]

/-- A key that is there keeps its place. -/
theorem map_fst_writeAt_of_mem {key : κ} (value : α) {entries : List (κ × α)}
    (h : key ∈ entries.map (·.1)) : (writeAt key value entries).map (·.1) = entries.map (·.1) := by
  induction entries with
  | nil => cases h
  | cons e entries ih =>
    obtain ⟨k, v⟩ := e
    rw [writeAt_cons]
    split
    · rfl
    · next hne =>
      have hrest := (List.mem_cons.mp h).resolve_left (Ne.symm hne)
      rw [List.map_cons, List.map_cons, ih hrest]

/-- Entries are written under other keys as they are under their own. -/
theorem map_writeAt {κ' : Type} [DecidableEq κ'] {f : κ → κ'} (hf : Function.Injective f) (key : κ)
    (value : α) (entries : List (κ × α)) :
    (writeAt key value entries).map (fun e => (f e.1, e.2)) =
      writeAt (f key) value (entries.map fun e => (f e.1, e.2)) := by
  induction entries with
  | nil => rfl
  | cons e entries ih =>
    obtain ⟨k, v⟩ := e
    rw [List.map_cons, writeAt_cons, writeAt_cons]
    by_cases hkey : k = key
    · rw [if_pos hkey, if_pos (congrArg f hkey), List.map_cons]
    · rw [if_neg hkey, if_neg (hf.ne hkey), List.map_cons, ih]

theorem valueAt_writeAt (key k : κ) (value : α) (entries : List (κ × α)) :
    valueAt? k (writeAt key value entries) = if key = k then some value else valueAt? k entries := by
  induction entries with
  | nil => rfl
  | cons e entries ih =>
    obtain ⟨k', v⟩ := e
    rw [writeAt_cons]
    by_cases hkey : k' = key
    · subst hkey
      rw [if_pos rfl, valueAt_cons, valueAt_cons]
      split <;> rfl
    · rw [if_neg hkey, valueAt_cons, valueAt_cons, ih]
      by_cases hk : k' = k
      · subst hk
        rw [if_pos rfl, if_neg (Ne.symm hkey), if_pos rfl]
      · rw [if_neg hk, if_neg hk]

end

section

variable (t u : Tag) (ts : List Tag) (name value : String) (text : Option String) (p : Property)

@[simp] theorem name_named : (named name).name = name := rfl

@[simp] theorem classes_named : (named name).classes = [] := rfl

@[simp] theorem children_named : (named name).children = [] := rfl

@[simp] theorem attr_named (n : String) : (named name).attr? n = none := rfl

@[simp] theorem name_setStyle : (t.setStyle p value).name = t.name := rfl

@[simp] theorem classes_setStyle : (t.setStyle p value).classes = t.classes := rfl

@[simp] theorem children_setStyle : (t.setStyle p value).children = t.children := rfl

@[simp] theorem attr_setStyle (n : String) : (t.setStyle p value).attr? n = t.attr? n := rfl

@[simp] theorem name_setText : (t.setText text).name = t.name := rfl

@[simp] theorem classes_setText : (t.setText text).classes = t.classes := rfl

@[simp] theorem children_setText : (t.setText text).children = t.children := rfl

@[simp] theorem attr_setText (n : String) : (t.setText text).attr? n = t.attr? n := rfl

@[simp] theorem name_setAttr : (t.setAttr name value).name = t.name := rfl

@[simp] theorem classes_setAttr : (t.setAttr name value).classes = t.classes := rfl

@[simp] theorem children_setAttr : (t.setAttr name value).children = t.children := rfl

@[simp] theorem attr_setAttr (n : String) :
    (t.setAttr name value).attr? n = if name = n then some value else t.attr? n :=
  valueAt_writeAt name n value t.attributes

@[simp] theorem name_addClass : (t.addClass name).name = t.name := by
  unfold addClass
  split <;> rfl

@[simp] theorem mem_classes_addClass (c : String) :
    c ∈ (t.addClass name).classes ↔ c ∈ t.classes ∨ (name ≠ "" ∧ c = name) := by
  unfold addClass
  split
  · next hkept =>
    rw [Bool.or_eq_true, String.isEmpty_iff, List.contains_iff_mem] at hkept
    constructor
    · exact .inl
    · rintro (hc | ⟨hne, rfl⟩)
      · exact hc
      · exact hkept.resolve_left hne
  · next hnew =>
    rw [Bool.or_eq_true, String.isEmpty_iff, not_or] at hnew
    simp [hnew.1]

theorem nodup_classes_addClass {t : Tag} (h : t.classes.Nodup) (name : String) :
    (t.addClass name).classes.Nodup := by
  unfold addClass
  split
  · exact h
  · next hnew =>
    rw [Bool.or_eq_true, not_or, List.contains_iff_mem] at hnew
    refine List.nodup_append.mpr ⟨h, by simp, fun c hc d hd hcd => hnew.2 ?_⟩
    rwa [← List.mem_singleton.mp hd, ← hcd]

@[simp] theorem children_addClass : (t.addClass name).children = t.children := by
  unfold addClass
  split <;> rfl

@[simp] theorem attr_addClass (n : String) : (t.addClass name).attr? n = t.attr? n := by
  unfold addClass
  split <;> rfl

@[simp] theorem name_append : (t.append u).name = t.name := rfl

@[simp] theorem classes_append : (t.append u).classes = t.classes := rfl

@[simp] theorem children_append : (t.append u).children = t.children ++ [u] := rfl

@[simp] theorem attr_append (n : String) : (t.append u).attr? n = t.attr? n := rfl

@[simp] theorem name_appendAll : (t.appendAll ts).name = t.name := rfl

@[simp] theorem classes_appendAll : (t.appendAll ts).classes = t.classes := rfl

@[simp] theorem children_appendAll : (t.appendAll ts).children = t.children ++ ts := rfl

@[simp] theorem attr_appendAll (n : String) : (t.appendAll ts).attr? n = t.attr? n := rfl

end

/-! ## What lies below a tag -/

theorem descendants_eq (t : Tag) : t.descendants = descendantsOf t.children := by
  cases t
  rfl

@[simp] theorem descendantsOf_nil : descendantsOf [] = [] := rfl

@[simp] theorem descendantsOf_cons (t : Tag) (ts : List Tag) :
    descendantsOf (t :: ts) = t :: descendantsOf t.children ++ descendantsOf ts := by
  rw [← descendants_eq]
  rfl

@[simp] theorem descendantsOf_append (ts us : List Tag) :
    descendantsOf (ts ++ us) = descendantsOf ts ++ descendantsOf us := by
  induction ts with
  | nil => rw [descendantsOf_nil, List.nil_append, List.nil_append]
  | cons t ts ih =>
    rw [List.cons_append, descendantsOf_cons, descendantsOf_cons, ih, ← List.append_assoc]

theorem mem_descendantsOf {t : Tag} {ts : List Tag} :
    t ∈ descendantsOf ts ↔ ∃ u ∈ ts, t = u ∨ t ∈ descendantsOf u.children := by
  induction ts with
  | nil => simp
  | cons u ts ih =>
    rw [descendantsOf_cons, List.mem_append, List.mem_cons, ih]
    simp

theorem mem_descendantsOf_self {t : Tag} {ts : List Tag} (h : t ∈ ts) : t ∈ descendantsOf ts :=
  mem_descendantsOf.mpr ⟨t, h, .inl rfl⟩

theorem children_subset_descendantsOf {t : Tag} {ts : List Tag} (h : t ∈ descendantsOf ts) :
    t.children ⊆ descendantsOf ts := by
  have htree (u : Tag) : t = u ∨ t ∈ descendantsOf u.children →
      t.children ⊆ descendantsOf u.children := by
    induction u using childrenInduction with
    | step u ih =>
      rintro (rfl | hbelow)
      · exact fun v => mem_descendantsOf_self
      · obtain ⟨w, hw, hin⟩ := mem_descendantsOf.mp hbelow
        exact fun v hv => mem_descendantsOf.mpr ⟨w, hw, .inr (ih w hw hin hv)⟩
  obtain ⟨u, hu, ht⟩ := mem_descendantsOf.mp h
  exact fun v hv => mem_descendantsOf.mpr ⟨u, hu, .inr (htree u ht hv)⟩

theorem textContent_eq (t : Tag) : t.textContent = t.text.getD "" ++ textContentOf t.children := by
  cases t
  rfl

@[simp] theorem textContentOf_nil : textContentOf [] = "" := rfl

@[simp] theorem textContentOf_cons (t : Tag) (ts : List Tag) :
    textContentOf (t :: ts) = t.text.getD "" ++ textContentOf t.children ++ textContentOf ts := by
  rw [← textContent_eq]
  rfl

theorem textContentOf_append (ts us : List Tag) :
    textContentOf (ts ++ us) = textContentOf ts ++ textContentOf us := by
  induction ts with
  | nil => rw [textContentOf_nil, List.nil_append, String.empty_append]
  | cons t ts ih =>
    rw [List.cons_append, textContentOf_cons, textContentOf_cons, ih, ← String.append_assoc]

/-! ## Edits of many tags -/

@[simp] theorem editEach_nil (p : Tag → Bool) (f : Tag → Tag) : editEach p f [] = [] := rfl

/-- What is below a tag is edited first. -/
@[simp] theorem editEach_cons (p : Tag → Bool) (f : Tag → Tag) (t : Tag) (ts : List Tag) :
    editEach p f (t :: ts) =
      (if p t then f { t with children := editEach p f t.children }
        else { t with children := editEach p f t.children }) :: editEach p f ts := by
  cases t
  rw [editEach, editBelow]

/-- The tags with an edit applied to each of them and to all below them. -/
def editAll (f : Tag → Tag) (ts : List Tag) : List Tag :=
  editEach (fun _ => true) f ts

section

variable (f : Tag → Tag)

@[simp] theorem editAll_nil : editAll f [] = [] :=
  editEach_nil _ f

@[simp] theorem editAll_cons (t : Tag) (ts : List Tag) : editAll f (t :: ts) =
    f { t with children := editAll f t.children } :: editAll f ts :=
  editEach_cons _ f t ts

theorem editAll_append (ts us : List Tag) :
    editAll f (ts ++ us) = editAll f ts ++ editAll f us := by
  induction ts with
  | nil => rw [editAll_nil, List.nil_append, List.nil_append]
  | cons t ts ih => rw [List.cons_append, editAll_cons, editAll_cons, ih, List.cons_append]

end

/-! ## Paths -/

@[simp] theorem at_nil (t : Tag) : t.at? [] = some t := rfl

@[simp] theorem at_cons (i : Nat) (path : List Nat) (t : Tag) :
    t.at? (i :: path) = (t.children[i]?).bind (at? path) := rfl

theorem at_append (p q : List Nat) (t : Tag) : t.at? (p ++ q) = (t.at? p).bind (at? q) := by
  induction p generalizing t with
  | nil => rfl
  | cons i p ih =>
    rw [List.cons_append, at_cons, at_cons, Option.bind_assoc]
    congr 1
    funext u
    exact ih u

/-- The tag at a path lies in the tree. -/
theorem mem_of_at {path : List Nat} {t u : Tag} (h : t.at? path = some u) :
    u ∈ descendantsOf [t] := by
  induction path generalizing t with
  | nil =>
    obtain rfl := Option.some.inj h
    exact mem_descendantsOf_self List.mem_cons_self
  | cons i path ih =>
    obtain ⟨child, hchild, hbelow⟩ := Option.bind_eq_some_iff.mp h
    have hmem := ih hbelow
    have hpart : descendantsOf [child] ⊆ descendantsOf t.children := by
      obtain ⟨before, after, heq⟩ := List.append_of_mem (List.mem_of_getElem? hchild)
      rw [heq, descendantsOf_append, ← List.singleton_append (l := after), descendantsOf_append]
      exact List.subset_append_of_subset_right _ (List.subset_append_left _ _)
    rw [descendantsOf_cons]
    exact List.mem_append_left _ (List.mem_cons_of_mem _ (hpart hmem))

/-- A tag of a tree that is not its root is a child of another one. -/
theorem at_snoc {path : List Nat} {i : Nat} {t u : Tag} (h : t.at? (path ++ [i]) = some u) :
    ∃ parent, t.at? path = some parent ∧ parent.children[i]? = some u := by
  rw [at_append] at h
  obtain ⟨parent, hparent, hchild⟩ := Option.bind_eq_some_iff.mp h
  obtain ⟨child, hget, hu⟩ := Option.bind_eq_some_iff.mp hchild
  obtain rfl := Option.some.inj hu
  exact ⟨parent, hparent, hget⟩

theorem at_child {path : List Nat} {i : Nat} {t parent u : Tag}
    (hparent : t.at? path = some parent) (hchild : parent.children[i]? = some u) :
    t.at? (path ++ [i]) = some u := by
  rw [at_append, hparent, Option.bind_some, at_cons, hchild]
  rfl

section

variable {p : Tag → Bool}

theorem one_le_countP_of_at {path : List Nat} {t u : Tag} (h : t.at? path = some u)
    (hu : p u = true) : 1 ≤ (descendantsOf [t]).countP p :=
  List.countP_pos_iff.mpr ⟨u, mem_of_at h, hu⟩

theorem countP_cons (t : Tag) (ts : List Tag) : (descendantsOf (t :: ts)).countP p =
    (descendantsOf [t]).countP p + (descendantsOf ts).countP p := by
  rw [← List.singleton_append, descendantsOf_append, List.countP_append]

theorem countP_le_of_getElem {ts : List Tag} {i : Nat} {t : Tag} (h : ts[i]? = some t) :
    (descendantsOf [t]).countP p ≤ (descendantsOf ts).countP p := by
  obtain ⟨before, after, rfl⟩ := List.append_of_mem (List.mem_of_getElem? h)
  rw [descendantsOf_append, List.countP_append, countP_cons t after]
  omega

/-- Two tags of a list do not both hold the only tag of a kind. -/
theorem index_unique {ts : List Tag} (hone : (descendantsOf ts).countP p ≤ 1) {i j : Nat}
    {t u : Tag} (ht : ts[i]? = some t) (hu : ts[j]? = some u)
    (hpt : 1 ≤ (descendantsOf [t]).countP p) (hpu : 1 ≤ (descendantsOf [u]).countP p) : i = j := by
  induction ts generalizing i j with
  | nil => simp at ht
  | cons v ts ih =>
    rw [countP_cons] at hone
    cases i with
    | zero =>
      cases j with
      | zero => rfl
      | succ j =>
        rw [List.getElem?_cons_zero] at ht
        rw [List.getElem?_cons_succ] at hu
        obtain rfl := Option.some.inj ht
        have hle := countP_le_of_getElem (p := p) hu
        omega
    | succ i =>
      rw [List.getElem?_cons_succ] at ht
      cases j with
      | zero =>
        rw [List.getElem?_cons_zero] at hu
        obtain rfl := Option.some.inj hu
        have hle := countP_le_of_getElem (p := p) ht
        omega
      | succ j =>
        rw [List.getElem?_cons_succ] at hu
        rw [ih (by omega) ht hu]

/-- **One tag, one path.** If a tree holds at most one tag of a kind, all paths to it are one. -/
theorem path_unique {path path' : List Nat} {t u v : Tag}
    (hone : (descendantsOf [t]).countP p ≤ 1) (hu : t.at? path = some u)
    (hv : t.at? path' = some v) (hpu : p u = true) (hpv : p v = true) : path = path' := by
  induction path generalizing path' t with
  | nil =>
    cases path' with
    | nil => rfl
    | cons j path' =>
      -- the root and a tag below it would be two
      obtain rfl := Option.some.inj hu
      obtain ⟨child, hchild, hbelow⟩ := Option.bind_eq_some_iff.mp hv
      have hle := countP_le_of_getElem (p := p) hchild
      have hcount := one_le_countP_of_at hbelow hpv
      rw [descendantsOf_cons, descendantsOf_nil, List.append_nil, List.countP_cons, hpu,
        if_pos rfl] at hone
      omega
  | cons i path ih =>
    obtain ⟨child, hchild, hbelow⟩ := Option.bind_eq_some_iff.mp hu
    rw [descendantsOf_cons, descendantsOf_nil, List.append_nil, List.countP_cons] at hone
    have hle := countP_le_of_getElem (p := p) hchild
    have hcount := one_le_countP_of_at hbelow hpu
    cases path' with
    | nil =>
      obtain rfl := Option.some.inj hv
      rw [hpv, if_pos rfl] at hone
      omega
    | cons j path' =>
      obtain ⟨child', hchild', hbelow'⟩ := Option.bind_eq_some_iff.mp hv
      have hij := index_unique (by omega) hchild hchild' hcount (one_le_countP_of_at hbelow' hpv)
      subst hij
      rw [hchild] at hchild'
      obtain rfl := Option.some.inj hchild'
      rw [ih (by omega) hbelow hbelow']

end

end Placard.Tag
