import Placard.Data.Shown
import Placard.Proofs.Data.FirstOccurrence
import Placard.Proofs.Tag.Path

/-!
# Building trees

A tree begins as one new tag and grows by calls of its setters, each at a tag that the tree has by
then. What an edit adds to a tag can be told without the tag (`Edit.className?`, `Edit.style?` and
so on), and the edit does nothing but add it. So a tag is told by the edits made on it, in their
order, and however the calls are mixed, by those made at its own path:

* an edit adds its part to the tag that it is made on (`Recounts.after`);
* no other tag notices, but for a child that is new (`at_editAt_ne`);
* so every tag of a tree recounts its edits after one call more (`IsRecorded.after`), and after all
  calls of a run (`IsRecorded.run`).
-/

namespace Placard

/-! ## Names of properties -/

namespace Property

theorem ofName?_name (p : Property) : ofName? p.name = some p := by
  cases p <;> rfl

theorem name_injective : Function.Injective name := by
  intro p q h
  rw [← Option.some_inj, ← ofName?_name p, h, ofName?_name q]

/-- The names of the styles that tags may set. -/
def names : List String :=
  all.map name

theorem name_mem_names (p : Property) : p.name ∈ names :=
  List.mem_map_of_mem (List.mem_of_find?_eq_some (ofName?_name p))

theorem ofName?_eq_none_iff {n : String} : ofName? n = none ↔ n ∉ names := by
  rw [ofName?, List.find?_eq_none, names, List.mem_map]
  simp

theorem name_of_ofName? {n : String} {p : Property} (h : ofName? n = some p) : p.name = n := by
  simpa using List.find?_some h

end Property

namespace Tag

/-! ## Edits -/

/-- What a setter does to a tag. Styles and attributes take values of any kind. -/
inductive Edit (α : Type) where
  | addClass (name : String)
  | setStyle (name : String) (value : α)
  | setAttr (name : String) (value : α)
  | setText (text : Option String)
  /-- A new tag becomes the last child. -/
  | append (name : String) (text : Option String)

variable {α : Type} (shown : α → String)

/-- The tag after an edit. A style that is refused leaves it as it was. -/
def Edit.after : Edit α → Tag → Tag
  | .addClass name, t => t.addClass name
  | .setStyle name value, t => (t.setStyleNamed? name (shown value)).getD t
  | .setAttr name value, t => t.setAttr name (shown value)
  | .setText text, t => t.setText text
  | .append name text, t => t.append ((named name).setText text)

/-! ## What an edit adds -/

/-- The class name that an edit adds. -/
def Edit.className? : Edit α → Option String
  | .addClass name => if name = "" then none else some name
  | _ => none

/-- The style that an edit writes, if it is one that tags may set. -/
def Edit.style? : Edit α → Option (String × String)
  | .setStyle name value => if name ∈ Property.names then some (name, shown value) else none
  | _ => none

/-- The attribute that an edit writes. -/
def Edit.attribute? : Edit α → Option (String × String)
  | .setAttr name value => some (name, shown value)
  | _ => none

/-- The literal text that an edit sets. -/
def Edit.text? : Edit α → Option (Option String)
  | .setText text => some text
  | _ => none

/-- The name of the child that an edit appends. -/
def Edit.childName? : Edit α → Option String
  | .append name _ => some name
  | _ => none

/-- The inline styles under their names. -/
def namedStyles (t : Tag) : List (String × String) :=
  t.styles.map fun s => (s.1.name, s.2)

/-! ## Entries that are written -/

/-- The entries are what was written: their keys in the order of first writing, and under each key
the value that was written last. -/
structure Keeps (writes entries : List (String × String)) : Prop where
  keys : entries.map (·.1) = (writes.map (·.1)).eraseDups
  values : ∀ key, valueAt? key entries = (writes.filter (·.1 = key)).getLast?.map (·.2)

theorem Keeps.nil : Keeps [] [] :=
  ⟨rfl, fun _ => rfl⟩

/-- A key keeps its place and gets the new value; a new key comes last. -/
theorem Keeps.write {writes entries : List (String × String)} (h : Keeps writes entries)
    (key value : String) : Keeps (writes ++ [(key, value)]) (writeAt key value entries) where
  keys := by
    have hmem : key ∈ entries.map (·.1) ↔ key ∈ writes.map (·.1) := by
      rw [h.keys, List.mem_eraseDups]
    rw [List.map_append, List.map_singleton]
    by_cases hkey : key ∈ writes.map (·.1)
    · rw [map_fst_writeAt_of_mem value (hmem.mpr hkey), h.keys,
        Data.eraseDups_append_of_forall_mem fun k hk => List.mem_singleton.mp hk ▸ hkey]
    · rw [writeAt_of_not_mem value (mt hmem.mp hkey), List.map_append, h.keys,
        Data.eraseDups_concat_of_not_mem hkey]
      rfl
  values k := by
    rw [valueAt_writeAt, h.values, List.filter_append, List.getLast?_append]
    by_cases hkey : key = k
    · simp [hkey]
    · simp [hkey]

theorem Keeps.nodup {writes entries : List (String × String)} (h : Keeps writes entries) :
    (entries.map (·.1)).Nodup := by
  rw [h.keys]
  exact Data.nodup_eraseDups _

/-! ## One edit -/

/-- The tag has become what the edits made of a new one. -/
structure Recounts (edits : List (Edit α)) (t : Tag) : Prop where
  classes : t.classes = (edits.filterMap Edit.className?).eraseDups
  styles : Keeps (edits.filterMap (Edit.style? shown)) t.namedStyles
  attributes : Keeps (edits.filterMap (Edit.attribute? shown)) t.attributes
  text : ∀ text ∈ (edits.filterMap Edit.text?).getLast?, t.text = text
  children : t.children.map (·.name) = edits.filterMap Edit.childName?

theorem recounts_new (name : String) (text : Option String) :
    Recounts shown [] ((named name).setText text) :=
  ⟨rfl, .nil, .nil, nofun, rfl⟩

/-- A tag refuses the names that are no properties, and no others. -/
theorem setStyleNamed_eq_none_iff (t : Tag) (name value : String) :
    t.setStyleNamed? name value = none ↔ name ∉ Property.names := by
  rw [setStyleNamed?, Option.map_eq_none_iff, Property.ofName?_eq_none_iff]

/-- A style is refused, or it is written under the property of its name. -/
theorem after_setStyle (name : String) (value : α) (t : Tag) :
    name ∉ Property.names ∧ (Edit.setStyle name value).after shown t = t ∨
    ∃ p : Property, p.name = name ∧
      (Edit.setStyle name value).after shown t = t.setStyle p (shown value) := by
  rw [Edit.after, setStyleNamed?]
  cases h : Property.ofName? name with
  | none => exact .inl ⟨Property.ofName?_eq_none_iff.mp h, rfl⟩
  | some p => exact .inr ⟨p, Property.name_of_ofName? h, rfl⟩

theorem exists_after_setStyle (name : String) (value : α) (t : Tag) :
    ∃ styles, (Edit.setStyle name value).after shown t = { t with styles } := by
  rcases after_setStyle shown name value t with ⟨-, h⟩ | ⟨p, -, h⟩
  · exact ⟨t.styles, by rw [h]; cases t; rfl⟩
  · exact ⟨writeAt p (shown value) t.styles, h⟩

theorem exists_addClass (name : String) (t : Tag) :
    ∃ classes, t.addClass name = { t with classes } := by
  unfold addClass
  split
  · exact ⟨t.classes, by cases t; rfl⟩
  · exact ⟨t.classes ++ [name], rfl⟩

section

variable {shown} (e : Edit α) (t : Tag)

theorem classes_after : (e.after shown t).classes = e.className?.elim t.classes fun c =>
    if c ∈ t.classes then t.classes else t.classes ++ [c] := by
  cases e with
  | addClass name =>
    rw [Edit.after, Edit.className?, addClass]
    by_cases hempty : name = ""
    · simp [hempty]
    · by_cases hmem : name ∈ t.classes <;> simp [hempty, hmem]
  | setStyle name value =>
    obtain ⟨styles, h⟩ := exists_after_setStyle shown name value t
    rw [h]
    rfl
  | _ => rfl

theorem namedStyles_after : (e.after shown t).namedStyles =
    (e.style? shown).elim t.namedStyles fun s => writeAt s.1 s.2 t.namedStyles := by
  cases e with
  | addClass name =>
    obtain ⟨classes, h⟩ := exists_addClass name t
    rw [Edit.after, h]
    rfl
  | setStyle name value =>
    rw [Edit.style?]
    rcases after_setStyle shown name value t with ⟨hname, h⟩ | ⟨p, rfl, h⟩
    · rw [h, if_neg hname]
      rfl
    · rw [h, if_pos p.name_mem_names]
      exact map_writeAt Property.name_injective p (shown value) t.styles
  | _ => rfl

/-- Classes, styles and children apart, an edit sets the text or writes an attribute. -/
theorem frame_after : (e.after shown t).name = t.name ∧
    (e.after shown t).text = e.text?.getD t.text ∧
    (e.after shown t).attributes =
      (e.attribute? shown).elim t.attributes fun a => writeAt a.1 a.2 t.attributes := by
  cases e with
  | addClass name =>
    obtain ⟨classes, h⟩ := exists_addClass name t
    rw [Edit.after, h]
    exact ⟨rfl, rfl, rfl⟩
  | setStyle name value =>
    obtain ⟨styles, h⟩ := exists_after_setStyle shown name value t
    rw [h]
    exact ⟨rfl, rfl, rfl⟩
  | _ => exact ⟨rfl, rfl, rfl⟩

/-- The children stay, and there may be a new one behind them. -/
theorem children_after : ∃ new : Option Tag,
    (e.after shown t).children = t.children ++ new.toList ∧ new.map (·.name) = e.childName? ∧
      ∀ u ∈ new, ∃ name text, u = (named name).setText text := by
  cases e with
  | addClass name => exact ⟨none, by simp [Edit.after], rfl, nofun⟩
  | setStyle name value =>
    obtain ⟨styles, h⟩ := exists_after_setStyle shown name value t
    exact ⟨none, by simp [h], rfl, nofun⟩
  | append name text =>
    exact ⟨some ((named name).setText text), rfl, rfl, fun u hu =>
      ⟨name, text, (Option.some.inj hu).symm⟩⟩
  | _ => exact ⟨none, (List.append_nil _).symm, rfl, nofun⟩

end

variable {shown}

/-- **An edit adds its part.** What the edits before it have made stays, and only what this one is
about is changed. -/
theorem Recounts.after {edits : List (Edit α)} {t : Tag} (h : Recounts shown edits t)
    (e : Edit α) : Recounts shown (edits ++ [e]) (e.after shown t) where
  classes := by
    rw [classes_after, Data.filterMap_concat]
    cases e.className? with
    | none => simpa using h.classes
    | some c =>
      have hmem : c ∈ t.classes ↔ c ∈ edits.filterMap Edit.className? := by
        rw [h.classes, List.mem_eraseDups]
      rw [Option.elim_some, Option.toList_some]
      by_cases hc : c ∈ t.classes
      · rw [if_pos hc, h.classes, Data.eraseDups_append_of_forall_mem fun d hd =>
          List.mem_singleton.mp hd ▸ hmem.mp hc]
      · rw [if_neg hc, h.classes, Data.eraseDups_concat_of_not_mem (mt hmem.mpr hc)]
  styles := by
    rw [namedStyles_after, Data.filterMap_concat]
    cases e.style? shown with
    | none => simpa using h.styles
    | some s => exact h.styles.write s.1 s.2
  attributes := by
    rw [(frame_after e t).2.2, Data.filterMap_concat]
    cases e.attribute? shown with
    | none => simpa using h.attributes
    | some a => exact h.attributes.write a.1 a.2
  text text htext := by
    rw [Data.filterMap_concat] at htext
    rw [(frame_after e t).2.1]
    cases hlast : e.text? with
    | none =>
      rw [hlast, Option.toList_none, List.append_nil] at htext
      exact h.text text htext
    | some last =>
      rw [hlast, Option.toList_some, List.getLast?_concat] at htext
      exact Option.some.inj htext
  children := by
    obtain ⟨new, hnew, hname, -⟩ := children_after e t
    rw [hnew, List.map_append, h.children, Data.filterMap_concat, ← hname]
    cases new <;> rfl

/-- The class names that edits add are not empty. -/
theorem ne_of_mem_className {edits : List (Edit α)} {c : String}
    (h : c ∈ edits.filterMap Edit.className?) : c ≠ "" := by
  obtain ⟨e, -, he⟩ := List.mem_filterMap.mp h
  cases e with
  | addClass name =>
    rw [Edit.className?] at he
    split at he
    · cases he
    · next hne =>
      obtain rfl := Option.some.inj he
      exact hne
  | _ => cases he

/-! ## One edit in a tree -/

/-- Tags that differ in nothing but what is in their children. -/
structure Resembles (t u : Tag) : Prop where
  text : t.text = u.text
  classes : t.classes = u.classes
  styles : t.styles = u.styles
  attributes : t.attributes = u.attributes
  children : t.children.map (·.name) = u.children.map (·.name)

theorem Resembles.refl (t : Tag) : t.Resembles t :=
  ⟨rfl, rfl, rfl, rfl, rfl⟩

theorem Recounts.of_resembles {edits : List (Edit α)} {t u : Tag} (h : Recounts shown edits t)
    (hu : t.Resembles u) : Recounts shown edits u where
  classes := hu.classes ▸ h.classes
  styles := by
    rw [namedStyles, ← hu.styles]
    exact h.styles
  attributes := hu.attributes ▸ h.attributes
  text text htext := hu.text ▸ h.text text htext
  children := hu.children ▸ h.children

/-- An edit below a tag shows in its children only, and not in their names. -/
theorem resembles_editAt_cons (e : Edit α) (i : Nat) (path : List Nat) (t : Tag) :
    t.Resembles (t.editAt (e.after shown) (i :: path)) where
  text := rfl
  classes := rfl
  styles := rfl
  attributes := rfl
  children := by
    refine List.ext_getElem? fun j => ?_
    rw [editAt, List.getElem?_map, List.getElem?_map, List.getElem?_modify]
    cases t.children[j]? with
    | none => rfl
    | some u =>
      by_cases hij : i = j
      · simp [hij, name_editAt fun v => (frame_after e v).1]
      · simp [hij]

/-- **No other tag notices.** Off the path of an edit a tag is as it was, but for what is in its
children, or it is the new one that the edit has appended. -/
theorem at_editAt_ne {e : Edit α} {path path' : List Nat} {t u : Tag} (hne : path' ≠ path)
    (h : (t.editAt (e.after shown) path).at? path' = some u) :
    (∃ v, t.at? path' = some v ∧ v.Resembles u) ∨
      t.at? path' = none ∧ ∃ name text, u = (named name).setText text := by
  induction path generalizing t path' with
  | nil =>
    obtain ⟨j, rest, rfl⟩ := List.exists_cons_of_ne_nil hne
    rw [editAt, at_cons] at h
    obtain ⟨new, hnew, -, hfresh⟩ := children_after e t
    rw [hnew] at h
    obtain ⟨child, hchild, hrest⟩ := Option.bind_eq_some_iff.mp h
    rcases Nat.lt_or_ge j t.children.length with hold | hlast
    · rw [List.getElem?_append_left hold] at hchild
      exact .inl ⟨u, by rw [at_cons, hchild, Option.bind_some, hrest], .refl u⟩
    · -- only the last child is new, and there is nothing below it
      rw [List.getElem?_append_right hlast] at hchild
      have hmem := List.mem_of_getElem? hchild
      obtain ⟨name, text, rfl⟩ := hfresh child (Option.mem_toList.mp hmem)
      cases rest with
      | nil =>
        obtain rfl := Option.some.inj hrest
        refine .inr ⟨?_, name, text, rfl⟩
        rw [at_cons, List.getElem?_eq_none hlast]
        rfl
      | cons k rest => cases hrest
  | cons i path ih =>
    cases path' with
    | nil =>
      obtain rfl := Option.some.inj h
      exact .inl ⟨t, rfl, resembles_editAt_cons e i path t⟩
    | cons j rest =>
      rw [at_editAt_cons] at h
      obtain ⟨child, hchild, hrest⟩ := Option.bind_eq_some_iff.mp h
      rw [at_cons, hchild, Option.bind_some]
      by_cases hij : i = j
      · subst hij
        rw [if_pos rfl] at hrest
        exact ih (fun heq => hne (by rw [heq])) hrest
      · rw [if_neg hij] at hrest
        exact .inl ⟨u, hrest, .refl u⟩

/-- A tag stays in the tree. -/
theorem isSome_at_editAt {e : Edit α} {path path' : List Nat} {t : Tag}
    (h : (t.at? path').isSome) : ((t.editAt (e.after shown) path).at? path').isSome := by
  -- edits add children at the end, so no path is lost
  induction path generalizing t path' with
  | nil =>
    cases path' with
    | nil => rfl
    | cons j rest =>
      obtain ⟨u, hu⟩ := Option.isSome_iff_exists.mp h
      obtain ⟨child, hchild, hrest⟩ := Option.bind_eq_some_iff.mp hu
      obtain ⟨new, hnew, -, -⟩ := children_after e t
      have hj := (List.getElem?_eq_some_iff.mp hchild).1
      rw [editAt, at_cons, hnew, List.getElem?_append_left hj]
      exact h
  | cons i path ih =>
    cases path' with
    | nil => rfl
    | cons j rest =>
      rw [at_editAt_cons]
      rw [at_cons] at h
      cases hchild : t.children[j]? with
      | none =>
        rw [hchild] at h
        cases h
      | some child =>
        rw [hchild, Option.bind_some] at h
        rw [Option.bind_some]
        split
        · exact ih h
        · exact h

/-! ## Runs -/

/-- An edit of the tag at a path. -/
structure Call (α : Type) where
  path : List Nat
  edit : Edit α

/-- The tree after a call. -/
def Call.after (shown : α → String) (c : Call α) (t : Tag) : Tag :=
  t.editAt (c.edit.after shown) c.path

/-- The tree after calls, if each of them comes to a tag. -/
def run? (shown : α → String) (t : Tag) : List (Call α) → Option Tag
  | [] => some t
  | c :: calls => if (t.at? c.path).isSome then run? shown (c.after shown t) calls else none

/-- A refused style changes nothing in the whole tree. -/
theorem after_of_refused {name : String} (h : name ∉ Property.names) (path : List Nat)
    (value : α) (t : Tag) : (Call.mk path (.setStyle name value)).after shown t = t := by
  refine editAt_eq_self fun u _ => ?_
  rw [Edit.after, (setStyleNamed_eq_none_iff u name (shown value)).mpr h]
  rfl

/-- The edits that calls make at a path, in order. -/
def editsAt (path : List Nat) (calls : List (Call α)) : List (Edit α) :=
  (calls.filter (·.path = path)).map (·.edit)

/-- The calls all came to tags of the tree, and every tag of it recounts the edits at its path. -/
structure IsRecorded (shown : α → String) (calls : List (Call α)) (t : Tag) : Prop where
  found : ∀ c ∈ calls, (t.at? c.path).isSome
  recounts : ∀ path u, t.at? path = some u → Recounts shown (editsAt path calls) u

theorem isRecorded_new (name : String) (text : Option String) :
    IsRecorded shown [] ((named name).setText text) where
  found := nofun
  recounts path u h := by
    cases path with
    | nil =>
      obtain rfl := Option.some.inj h
      exact recounts_new shown name text
    | cons i path => cases h

/-- **One call.** -/
theorem IsRecorded.after {calls : List (Call α)} {t : Tag} (h : IsRecorded shown calls t)
    (c : Call α) (hc : (t.at? c.path).isSome) :
    IsRecorded shown (calls ++ [c]) (c.after shown t) where
  found c' hc' := by
    refine isSome_at_editAt ?_
    rcases List.mem_append.mp hc' with hold | hlast
    · exact h.found c' hold
    · rwa [List.mem_singleton.mp hlast]
  recounts path u hu := by
    rw [Call.after] at hu
    rw [editsAt, List.filter_append, List.map_append]
    by_cases hpath : path = c.path
    · subst hpath
      rw [at_editAt_self] at hu
      obtain ⟨v, hv, rfl⟩ := Option.map_eq_some_iff.mp hu
      rw [List.filter_singleton, decide_eq_true rfl]
      exact (h.recounts c.path v hv).after c.edit
    · rw [List.filter_cons_of_neg (by simpa using Ne.symm hpath), List.filter_nil, List.map_nil,
        List.append_nil]
      rcases at_editAt_ne hpath hu with ⟨v, hv, hsame⟩ | ⟨hnone, name, text, rfl⟩
      · exact (h.recounts path v hv).of_resembles hsame
      · -- no call can have come to a tag that was not there yet
        have hunmade : calls.filter (·.path = path) = [] := by
          rw [List.filter_eq_nil_iff]
          intro c' hc' heq
          have hfound := h.found c' hc'
          rw [of_decide_eq_true heq, hnone] at hfound
          cases hfound
        rw [hunmade]
        exact recounts_new shown name text

/-- **All calls.** -/
theorem IsRecorded.run {before calls : List (Call α)} {t u : Tag}
    (h : IsRecorded shown before t) (hrun : run? shown t calls = some u) :
    IsRecorded shown (before ++ calls) u := by
  induction calls generalizing before t with
  | nil =>
    obtain rfl := Option.some.inj hrun
    rwa [List.append_nil]
  | cons c calls ih =>
    rw [run?] at hrun
    split at hrun
    · next hc =>
      rw [List.append_cons]
      exact ih (h.after c hc) hrun
    · cases hrun

/-- **Whatever calls build.** After any calls on the tags of a tree, at every tag of it: its class
names are distinct, none is empty, and they stand in the order in which they were added first; its
styles are distinct properties in the order in which they were first written, each with what was
written last, and so are its attributes under any names; its children are those appended to it; and
a search finds just the tags below it that match, in document order. A style of another name is
refused, which changes nothing anywhere. -/
theorem recounts_of_run (shown : α → String) (name : String) (text : Option String)
    (calls : List (Call α)) (t : Tag)
    (hrun : run? shown ((named name).setText text) calls = some t) :
    (∀ path u, t.at? path = some u →
      Recounts shown (editsAt path calls) u ∧
      (u.classes.Nodup ∧ "" ∉ u.classes) ∧
      ((u.namedStyles.map (·.1)).Nodup ∧ ∀ s ∈ u.namedStyles, s.1 ∈ Property.names) ∧
      (u.attributes.map (·.1)).Nodup ∧
      ∀ tagName className, u.Lists
        (fun v => (∀ n ∈ tagName, v.name = n) ∧ ∀ c ∈ className, c ∈ v.classes)
        (u.findAll tagName className)) ∧
    ∀ style value, (∀ u : Tag, u.setStyleNamed? style (shown value) = none ↔
        style ∉ Property.names) ∧
      (style ∉ Property.names →
        ∀ path, (Call.mk path (.setStyle style value)).after shown t = t) := by
  have hrecorded := (isRecorded_new name text).run hrun
  rw [List.nil_append] at hrecorded
  refine ⟨fun path u hu => ?_, fun style value =>
    ⟨fun u => setStyleNamed_eq_none_iff u style (shown value), fun h path =>
      after_of_refused h path value t⟩⟩
  have hrecounts := hrecorded.recounts path u hu
  refine ⟨hrecounts, ⟨?_, ?_⟩, ⟨hrecounts.styles.nodup, ?_⟩, hrecounts.attributes.nodup,
    fun tagName className => findAll_lists u tagName className⟩
  · rw [hrecounts.classes]
    exact Data.nodup_eraseDups _
  · rw [hrecounts.classes, List.mem_eraseDups]
    exact fun h => ne_of_mem_className h rfl
  · rintro s hs
    obtain ⟨entry, -, rfl⟩ := List.mem_map.mp hs
    exact entry.1.name_mem_names

/-- Calls that write a style twice, try one that does not exist, and add a class twice. -/
def paragraphCalls : List (Call Data.Value) :=
  [⟨[], .append "p" (some "Hello")⟩,
    ⟨[0], .addClass "para"⟩,
    ⟨[0], .setStyle "padding" (.text "20px")⟩,
    ⟨[0], .setStyle "font-weight" (.int 600)⟩,
    ⟨[], .addClass "root"⟩,
    ⟨[0], .setStyle "float" (.text "left")⟩,
    ⟨[0], .append "span" none⟩,
    ⟨[0], .setStyle "padding" (.text "0")⟩,
    ⟨[0], .addClass "para"⟩,
    ⟨[0, 0], .setAttr "maxLength" (.int 10)⟩]

/-- The paragraph is found with what was written to it last. -/
theorem recounts_of_run_paragraph : ∃ t u,
    run? Data.shownText ((named "div").setText none) paragraphCalls = some t ∧
    t.at? [0] = some u ∧
    (Recounts Data.shownText (editsAt [0] paragraphCalls) u ∧
      u.namedStyles = [("padding", "0"), ("font-weight", "600")] ∧ u.classes = ["para"] ∧
      u.Lists (fun v => (∀ n ∈ some "span", v.name = n) ∧ ∀ c ∈ none, c ∈ v.classes)
        (u.findAll (some "span") none)) ∧
    "float" ∉ Property.names ∧
    (Call.mk [0] (.setStyle "float" (.text "left"))).after Data.shownText t = t := by
  refine ⟨_, _, rfl, rfl, ?_⟩
  obtain ⟨htags, hstyles⟩ := recounts_of_run Data.shownText "div" none paragraphCalls _ rfl
  obtain ⟨hrecounts, -, -, -, hfound⟩ := htags [0] _ rfl
  have hfloat : "float" ∉ Property.names := by decide
  exact ⟨⟨hrecounts, by decide +kernel, rfl, hfound (some "span") none⟩, hfloat,
    (hstyles "float" (.text "left")).2 hfloat [0]⟩

end Tag

end Placard
