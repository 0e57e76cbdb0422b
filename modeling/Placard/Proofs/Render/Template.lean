import Mathlib.Data.List.Forall2
import Placard.Proofs.Tag.Tree
import Placard.Render.Layout

/-!
# Templates

A template is a tree of tags with holes in it, numbered, where ids will stand. Filled with a list of
ids it is a tag.

Two passes that have issued as many ids as each other give pairs of ids, the first with the first
one, the second with the second one. Two tags are *twins* under such pairs if they are one template,
filled with the ids of one pass and with those of the other. That says the same of a name, the
classes and whatever else is in a tag, and of its children one by one (`twin_iff`), so each edit of
twins gives twins.
-/

namespace Placard.Render

open Tag

/-! ## Templates -/

/-- The value of an attribute: a text, or a hole with a number. -/
inductive Slot where
  | text (s : String)
  | hole (k : Nat)
deriving DecidableEq

/-- The value with a hole filled by the id with its number. -/
def Slot.fill (ids : List String) : Slot → String
  | .text s => s
  | .hole k => (ids[k]?).getD ""

/-- A tag with holes for ids. -/
structure Template where
  name : String
  text : Option String
  classes : List String
  styles : List (Property × String)
  attributes : List (String × Slot)
  children : List Template

/-- The attributes whose values are ids. -/
def joints : List String :=
  ["id", "for", cardLink]

namespace Template

mutual

/-- The tag that a template is with its holes filled. -/
def fill (ids : List String) (t : Template) : Tag :=
  match t with
  | ⟨name, text, classes, styles, attributes, children⟩ =>
    { name, text, classes, styles, attributes := attributes.map fun a => (a.1, a.2.fill ids)
      children := fillAll ids children }

/-- The tags that templates are with their holes filled. -/
def fillAll (ids : List String) : List Template → List Tag
  | [] => []
  | t :: ts => fill ids t :: fillAll ids ts

end

/-- All holes have numbers below `n` and are whole values of attributes for ids. -/
inductive IsPlaced (n : Nat) : Template → Prop
  | intro {t : Template} (holes : ∀ a ∈ t.attributes, ∀ k, a.2 = .hole k → a.1 ∈ joints ∧ k < n)
      (below : ∀ u ∈ t.children, IsPlaced n u) : IsPlaced n t

theorem fillAll_eq (ids : List String) (ts : List Template) :
    fillAll ids ts = ts.map (fill ids) := by
  induction ts with
  | nil => rw [fillAll, List.map_nil]
  | cons t ts ih => rw [fillAll, List.map_cons, ih]

theorem fill_eq (ids : List String) (t : Template) : t.fill ids =
    { name := t.name, text := t.text, classes := t.classes, styles := t.styles
      attributes := t.attributes.map fun a => (a.1, a.2.fill ids)
      children := t.children.map (fill ids) } := by
  cases t
  rw [fill, fillAll_eq]

theorem IsPlaced.mono {n m : Nat} (hle : n ≤ m) {t : Template} (h : t.IsPlaced n) :
    t.IsPlaced m := by
  induction h with
  | intro holes _ ih =>
    refine .intro (fun a ha k hk => ?_) ih
    obtain ⟨hname, hlt⟩ := holes a ha k hk
    exact ⟨hname, Nat.lt_of_lt_of_le hlt hle⟩

/-- Only the ids with the numbers of holes matter. -/
theorem IsPlaced.fill_append {ids : List String} {t : Template} (h : t.IsPlaced ids.length)
    (more : List String) : t.fill (ids ++ more) = t.fill ids := by
  generalize hlen : ids.length = n at h
  induction h with
  | @intro t holes _ ih =>
    rw [fill_eq, fill_eq, List.map_congr_left ih]
    congr 1
    refine List.map_congr_left fun a ha => ?_
    match hslot : a.2 with
    | .text s => rfl
    | .hole k =>
      -- its number is below the number of ids that there were
      rw [Slot.fill, Slot.fill, List.getElem?_append_left (hlen ▸ (holes a ha k hslot).2)]

end Template

/-! ## Twins -/

/-- The ids that two passes have issued. -/
abbrev IdPairs :=
  List (String × String)

/-- Two tags that are one template, filled with the ids of either pass. -/
def Twin (ids : IdPairs) (t u : Tag) : Prop :=
  ∃ template : Template, template.IsPlaced ids.length ∧
    template.fill (ids.map Prod.fst) = t ∧ template.fill (ids.map Prod.snd) = u

/-- Twins one by one. -/
def Twins (ids : IdPairs) : List Tag → List Tag → Prop :=
  List.Forall₂ (Twin ids)

/-- Twins, or no tag in either pass. -/
def MaybeTwin (ids : IdPairs) : Option Tag → Option Tag → Prop :=
  Option.Rel (Twin ids)

/-- Attributes with one name and one value, or else with ids that were issued together. -/
def TwinAttr (ids : IdPairs) (a b : String × String) : Prop :=
  a.1 = b.1 ∧ (a.2 = b.2 ∨ a.1 ∈ joints ∧ (a.2, b.2) ∈ ids)

/-- Two lists whose entries come in pairs from one entry each come from one list. -/
theorem exists_common {α β γ : Type} {P : γ → Prop} {f : γ → α} {g : γ → β} {as : List α}
    {bs : List β} (h : List.Forall₂ (fun a b => ∃ c, P c ∧ f c = a ∧ g c = b) as bs) :
    ∃ cs : List γ, (∀ c ∈ cs, P c) ∧ cs.map f = as ∧ cs.map g = bs := by
  induction h with
  | nil => exact ⟨[], fun _ hc => absurd hc List.not_mem_nil, rfl, rfl⟩
  | cons hab _ ih =>
    obtain ⟨c, hc, rfl, rfl⟩ := hab
    obtain ⟨cs, hcs, rfl, rfl⟩ := ih
    exact ⟨c :: cs, List.forall_mem_cons.mpr ⟨hc, hcs⟩, rfl, rfl⟩

section

variable {ids : IdPairs}

theorem twinAttr_iff {a b : String × String} : TwinAttr ids a b ↔
    ∃ c : String × Slot, (∀ k, c.2 = .hole k → c.1 ∈ joints ∧ k < ids.length) ∧
      (c.1, c.2.fill (ids.map Prod.fst)) = a ∧ (c.1, c.2.fill (ids.map Prod.snd)) = b := by
  constructor
  · obtain ⟨name, v⟩ := a
    obtain ⟨name', v'⟩ := b
    rintro ⟨rfl, hvalue | ⟨hjoint, hmem⟩⟩
    · obtain rfl := hvalue
      exact ⟨(name, .text v), (fun k hk => by cases hk), rfl, rfl⟩
    · obtain ⟨k, hk, hget⟩ := List.mem_iff_getElem.mp hmem
      refine ⟨(name, .hole k), fun k' hk' => ?_, ?_, ?_⟩
      · obtain rfl := Slot.hole.inj hk'
        exact ⟨hjoint, hk⟩
      · simp [Slot.fill, List.getElem?_eq_getElem hk, hget]
      · simp [Slot.fill, List.getElem?_eq_getElem hk, hget]
  · rintro ⟨⟨name, slot⟩, hplaced, rfl, rfl⟩
    refine ⟨rfl, ?_⟩
    cases slot with
    | text s => exact .inl rfl
    | hole k =>
      obtain ⟨hjoint, hk⟩ := hplaced k rfl
      refine .inr ⟨hjoint, ?_⟩
      rw [Slot.fill, Slot.fill, List.getElem?_map, List.getElem?_map, List.getElem?_eq_getElem hk]
      exact List.getElem_mem hk

theorem Twin.alike {t u : Tag} (h : Twin ids t u) : t.name = u.name ∧ t.text = u.text ∧
    t.classes = u.classes ∧ t.styles = u.styles ∧
    List.Forall₂ (TwinAttr ids) t.attributes u.attributes ∧ Twins ids t.children u.children := by
  obtain ⟨template, ⟨holes, below⟩, rfl, rfl⟩ := h
  rw [Template.fill_eq, Template.fill_eq]
  simp only [Twins, List.forall₂_map_left_iff, List.forall₂_map_right_iff, List.forall₂_same]
  refine ⟨trivial, trivial, trivial, trivial, fun a ha => ?_, fun c hc => ?_⟩
  · exact twinAttr_iff.mpr ⟨a, holes a ha, rfl, rfl⟩
  · exact ⟨c, below c hc, rfl, rfl⟩

theorem twin_of_alike {t u : Tag} (hname : t.name = u.name) (htext : t.text = u.text)
    (hclasses : t.classes = u.classes) (hstyles : t.styles = u.styles)
    (hattributes : List.Forall₂ (TwinAttr ids) t.attributes u.attributes)
    (hchildren : Twins ids t.children u.children) : Twin ids t u := by
  -- attributes and children each have a template, and together they are the template of the tags
  obtain ⟨slots, hslots, hfirst, hsecond⟩ :=
    exists_common (hattributes.imp fun _ _ => twinAttr_iff.mp)
  obtain ⟨children, hplaced, hfirst', hsecond'⟩ := exists_common hchildren
  refine ⟨⟨t.name, t.text, t.classes, t.styles, slots, children⟩, ⟨hslots, hplaced⟩, ?_, ?_⟩
  · cases t
    rw [Template.fill_eq]
    dsimp only
    rw [hfirst, hfirst']
  · cases u
    rw [Template.fill_eq]
    dsimp only
    rw [hsecond, hsecond', hname, htext, hclasses, hstyles]

/-- **Twins, part by part.** Twins have the same name, text, classes and styles, and their
attributes and children are twins. -/
theorem twin_iff {t u : Tag} : Twin ids t u ↔ t.name = u.name ∧ t.text = u.text ∧
    t.classes = u.classes ∧ t.styles = u.styles ∧
    List.Forall₂ (TwinAttr ids) t.attributes u.attributes ∧ Twins ids t.children u.children :=
  ⟨Twin.alike, fun ⟨hname, htext, hclasses, hstyles, hattributes, hchildren⟩ =>
    twin_of_alike hname htext hclasses hstyles hattributes hchildren⟩

theorem TwinAttr.refl (a : String × String) : TwinAttr ids a a :=
  ⟨rfl, .inl rfl⟩

namespace Twin

variable {t u t' u' : Tag} {ts us ts' us' : List Tag}

/-- A tag is its own twin. -/
theorem refl (t : Tag) : Twin ids t t := by
  induction t using childrenInduction with
  | step t ih =>
    exact twin_iff.mpr ⟨rfl, rfl, rfl, rfl, List.forall₂_same.mpr fun a _ => .refl a,
      List.forall₂_same.mpr ih⟩

/-- Twins stay twins when more ids are issued. -/
theorem mono (h : Twin ids t u) (more : IdPairs) : Twin (ids ++ more) t u := by
  obtain ⟨template, hplaced, rfl, rfl⟩ := h
  refine ⟨template, hplaced.mono (by simp), ?_, ?_⟩
  · have hfirst : template.IsPlaced (ids.map Prod.fst).length := by rwa [List.length_map]
    rw [List.map_append, hfirst.fill_append]
  · have hsecond : template.IsPlaced (ids.map Prod.snd).length := by rwa [List.length_map]
    rw [List.map_append, hsecond.fill_append]

theorem children (h : Twin ids t u) : Twins ids t.children u.children :=
  (twin_iff.mp h).2.2.2.2.2

theorem children_isEmpty (h : Twin ids t u) : t.children.isEmpty = u.children.isEmpty := by
  have hchildren := h.children
  generalize t.children = ts at hchildren
  generalize u.children = us at hchildren
  cases hchildren <;> rfl

theorem setStyle (h : Twin ids t u) (p : Property) (value : String) :
    Twin ids (t.setStyle p value) (u.setStyle p value) := by
  obtain ⟨hname, htext, hclasses, hstyles, hrest⟩ := twin_iff.mp h
  exact twin_iff.mpr ⟨hname, htext, hclasses, congrArg (writeAt p value) hstyles, hrest⟩

theorem setText (h : Twin ids t u) (text : Option String) :
    Twin ids (t.setText text) (u.setText text) := by
  obtain ⟨hname, -, hrest⟩ := twin_iff.mp h
  exact twin_iff.mpr ⟨hname, rfl, hrest⟩

theorem addClass (h : Twin ids t u) (name : String) :
    Twin ids (t.addClass name) (u.addClass name) := by
  obtain ⟨hname, htext, hclasses, hrest⟩ := twin_iff.mp h
  unfold Tag.addClass
  rw [hclasses]
  split
  · exact h
  · exact twin_iff.mpr ⟨hname, htext, rfl, hrest⟩

theorem appendAll (h : Twin ids t u) (hts : Twins ids ts us) :
    Twin ids (t.appendAll ts) (u.appendAll us) := by
  obtain ⟨hname, htext, hclasses, hstyles, hattributes, hchildren⟩ := twin_iff.mp h
  exact twin_iff.mpr ⟨hname, htext, hclasses, hstyles, hattributes, List.rel_append hchildren hts⟩

theorem append (h : Twin ids t u) (h' : Twin ids t' u') : Twin ids (t.append t') (u.append u') :=
  h.appendAll (.cons h' .nil)

end Twin

section

variable {tag tag' : Option Tag} {ts us ts' us' : List Tag}

theorem Twins.refl (ts : List Tag) : Twins ids ts ts :=
  List.forall₂_same.mpr fun t _ => .refl t

theorem Twins.mono (h : Twins ids ts us) (more : IdPairs) : Twins (ids ++ more) ts us :=
  h.imp fun _ _ htwin => htwin.mono more

theorem Twins.append (h : Twins ids ts us) (h' : Twins ids ts' us') :
    Twins ids (ts ++ ts') (us ++ us') :=
  List.rel_append h h'

theorem MaybeTwin.refl (tag : Option Tag) : MaybeTwin ids tag tag := by
  cases tag with
  | none => exact .none
  | some t => exact .some (.refl t)

theorem MaybeTwin.mono (h : MaybeTwin ids tag tag') (more : IdPairs) :
    MaybeTwin (ids ++ more) tag tag' := by
  cases h with
  | none => exact .none
  | some htwin => exact .some (htwin.mono more)

theorem MaybeTwin.map {f g : Tag → Tag} (h : MaybeTwin ids tag tag')
    (hfg : ∀ t u, Twin ids t u → Twin ids (f t) (g u)) :
    MaybeTwin ids (tag.map f) (tag'.map g) := by
  cases h with
  | none => exact .none
  | some htwin => exact .some (hfg _ _ htwin)

theorem MaybeTwin.toList (h : MaybeTwin ids tag tag') : Twins ids tag.toList tag'.toList := by
  cases h with
  | none => exact .nil
  | some htwin => exact .cons htwin .nil

end

/-! ## Attributes of twins -/

theorem forall₂_writeAt {as bs : List (String × String)}
    (h : List.Forall₂ (TwinAttr ids) as bs) {name v w : String}
    (hvalue : v = w ∨ name ∈ joints ∧ (v, w) ∈ ids) :
    List.Forall₂ (TwinAttr ids) (writeAt name v as) (writeAt name w bs) := by
  induction h with
  | nil => exact .cons ⟨rfl, hvalue⟩ .nil
  | @cons a b as bs hab hrest ih =>
    obtain ⟨key, x⟩ := a
    obtain ⟨key', y⟩ := b
    obtain ⟨hkey, hxy⟩ := hab
    dsimp only at hkey
    subst hkey
    rw [writeAt, writeAt]
    split
    · next hname =>
      subst hname
      exact .cons ⟨rfl, hvalue⟩ hrest
    · exact .cons ⟨rfl, hxy⟩ ih

theorem valueAt_twin {as bs : List (String × String)} (h : List.Forall₂ (TwinAttr ids) as bs)
    (name : String) : (valueAt? name as = none ∧ valueAt? name bs = none) ∨
      ∃ v w, valueAt? name as = some v ∧ valueAt? name bs = some w ∧ (v = w ∨ (v, w) ∈ ids) := by
  induction h with
  | nil => exact .inl ⟨rfl, rfl⟩
  | @cons a b as bs hab hrest ih =>
    obtain ⟨key, x⟩ := a
    obtain ⟨key', y⟩ := b
    obtain ⟨hkey, hxy⟩ := hab
    dsimp only at hkey
    subst hkey
    rw [valueAt?, valueAt?]
    split
    · exact .inr ⟨x, y, rfl, rfl, hxy.imp_right And.right⟩
    · exact ih

namespace Twin

variable {t u : Tag}

theorem setAttr (h : Twin ids t u) (name value : String) :
    Twin ids (t.setAttr name value) (u.setAttr name value) := by
  obtain ⟨hname, htext, hclasses, hstyles, hattributes, hchildren⟩ := twin_iff.mp h
  exact twin_iff.mpr ⟨hname, htext, hclasses, hstyles, forall₂_writeAt hattributes (.inl rfl),
    hchildren⟩

/-- Ids that were issued together may stand in the attributes for ids. -/
theorem setId (h : Twin ids t u) {name v w : String} (hname : name ∈ joints)
    (hid : v = w ∨ (v, w) ∈ ids) : Twin ids (t.setAttr name v) (u.setAttr name w) := by
  obtain ⟨hnames, htext, hclasses, hstyles, hattributes, hchildren⟩ := twin_iff.mp h
  exact twin_iff.mpr ⟨hnames, htext, hclasses, hstyles,
    forall₂_writeAt hattributes (hid.imp_right fun hmem => ⟨hname, hmem⟩), hchildren⟩

/-- What twins have in an attribute, or else an empty text, is one text or two ids that were issued
together. -/
theorem attr_getD (h : Twin ids t u) (name : String) :
    (t.attr? name).getD "" = (u.attr? name).getD "" ∨
      ((t.attr? name).getD "", (u.attr? name).getD "") ∈ ids := by
  obtain ⟨-, -, -, -, hattributes, -⟩ := twin_iff.mp h
  unfold Tag.attr?
  rcases valueAt_twin hattributes name with ⟨hnone, hnone'⟩ | ⟨v, w, hv, hw, hvw⟩
  · exact .inl (by rw [hnone, hnone'])
  · rw [hv, hw]
    exact hvw

end Twin

end

end Placard.Render
