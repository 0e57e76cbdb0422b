import Mathlib.Data.List.Forall2
import Placard.Proofs.Render.Visible
import Placard.Proofs.Render.WiredGroup

/-!
# Landmarks of tags

`Reflects convert ns ts` says that the landmarks of some tags and of all below them are those of the
nodes `ns`, one for each and in this order. It is put together as trees are: by appending, and by
putting tags into a tag, which is a landmark itself or not. Edits that change neither the marks of a
tag nor what is told of it (`Keeps`) do not matter.
-/

namespace Placard.Render

open Tag Document

/-! ## Marks -/

section

variable {t u : Tag} {ts : List Tag}

theorem marks_congr (h : ∀ c ∈ landmarkClasses, c ∈ u.classes ↔ c ∈ t.classes) :
    marks u = marks t :=
  List.filter_congr fun c hc => decide_eq_decide.mpr (h c hc)

@[simp] theorem marks_named (name : String) : marks (Tag.named name) = [] := by
  simp [marks]

@[simp] theorem marks_setStyle (p : Property) (value : String) :
    marks (t.setStyle p value) = marks t := rfl

@[simp] theorem marks_setText (text : Option String) : marks (t.setText text) = marks t := rfl

@[simp] theorem marks_setAttr (name value : String) : marks (t.setAttr name value) = marks t := rfl

@[simp] theorem marks_append : marks (t.append u) = marks t := rfl

@[simp] theorem marks_appendAll : marks (t.appendAll ts) = marks t := rfl

@[simp] theorem marks_addClass {c : String} (h : c ∉ landmarkClasses) :
    marks (t.addClass c) = marks t := by
  refine marks_congr fun d hd => ?_
  rw [mem_classes_addClass]
  exact ⟨fun hmem => hmem.resolve_right fun ⟨_, heq⟩ => h (heq ▸ hd), .inl⟩

/-- A tag without marks gets its first one. -/
@[simp] theorem marks_addClass_mark {c : String} (h : marks t = [])
    (hc : landmarkClasses.contains c = true) : marks (t.addClass c) = [c] := by
  have hother : ∀ d ∈ landmarkClasses, d ∉ t.classes := fun d hd hmem =>
    List.not_mem_nil (h ▸ List.mem_filter.mpr ⟨hd, decide_eq_true hmem⟩ : d ∈ [])
  have honly : ∀ c ∈ landmarkClasses, landmarkClasses.filter (fun d => decide (d = c)) = [c] ∧
      c ≠ "" := by
    decide
  obtain ⟨hfilter, hne⟩ := honly c (List.contains_iff_mem.mp hc)
  rw [← hfilter]
  refine List.filter_congr fun d hd => decide_eq_decide.mpr ?_
  rw [mem_classes_addClass]
  simp [hother d hd, hne]

theorem isLandmark_iff : isLandmark t = true ↔ marks t ≠ [] := by
  simp [isLandmark]

end

/-- An edit that keeps marks, what a tag holds, and what is told of it. -/
structure Keeps (t u : Tag) : Prop where
  name : u.name = t.name
  text : u.text = t.text
  children : u.children = t.children
  mark : marks u = marks t
  submits : u.attr? "name" = t.attr? "name"

namespace Keeps

variable {t u v : Tag}

theorem refl (t : Tag) : Keeps t t :=
  ⟨rfl, rfl, rfl, rfl, rfl⟩

theorem trans (h : Keeps t u) (h' : Keeps u v) : Keeps t v :=
  ⟨h'.name.trans h.name, h'.text.trans h.text, h'.children.trans h.children,
    h'.mark.trans h.mark, h'.submits.trans h.submits⟩

theorem setStyle (h : Keeps t u) (p : Property) (value : String) : Keeps t (u.setStyle p value) :=
  ⟨h.name, h.text, h.children, h.mark, h.submits⟩

theorem setAttr (h : Keeps t u) {name : String} (hname : name ≠ "name") (value : String) :
    Keeps t (u.setAttr name value) :=
  ⟨h.name, h.text, h.children, h.mark, by rw [attr_setAttr, if_neg hname, h.submits]⟩

theorem addClass (h : Keeps t u) {c : String} (hc : c ∉ landmarkClasses) :
    Keeps t (u.addClass c) := by
  refine ⟨?_, ?_, ?_, ?_, ?_⟩
  · rw [name_addClass, h.name]
  · rw [← h.text]
    unfold Tag.addClass
    split <;> rfl
  · rw [children_addClass, h.children]
  · rw [marks_addClass hc, h.mark]
  · rw [attr_addClass, h.submits]

end Keeps

/-! ## Reflections -/

/-- The landmarks among tags and all below them are those of these nodes, in order. -/
def Reflects (convert : String → Except Fault (List Tag)) (ns : List Node) (ts : List Tag) : Prop :=
  List.Forall₂ (Shows convert) ns ((descendantsOf ts).filter isLandmark)

section

variable {convert : String → Except Fault (List Tag)} {n : Node} {ns ms : List Node} {t u : Tag}
  {ts us : List Tag}

theorem Shows.keeps (h : Shows convert n t) (hk : Keeps t u) : Shows convert n u where
  mark := hk.mark.trans h.mark
  text b hb := by
    obtain ⟨content, hcontent, hchildren⟩ := h.text b hb
    exact ⟨content, hcontent, hk.children.trans hchildren⟩
  picture i hi := by
    rw [hk.children]
    exact h.picture i hi
  names e he hinput control hcontrol hname := by
    have htag := h.names e he hinput
    rw [descendantsOf_cons, descendantsOf_nil, List.append_nil, List.forall_mem_cons] at htag
    rw [descendantsOf_cons, descendantsOf_nil, List.append_nil, hk.children] at hcontrol
    rcases List.mem_cons.mp hcontrol with rfl | hbelow
    · rw [hk.submits]
      exact htag.1 (hk.name ▸ hname)
    · exact htag.2 control hbelow hname
  title a ha := hk.text.trans (h.title a ha)

theorem Shows.isLandmark (h : Shows convert n t) : isLandmark t = true := by
  rw [isLandmark_iff, h.mark]
  exact List.cons_ne_nil _ _

@[simp] theorem reflects_nil : Reflects convert [] [] := by
  simp [Reflects]

theorem Reflects.append (h : Reflects convert ns ts) (h' : Reflects convert ms us) :
    Reflects convert (ns ++ ms) (ts ++ us) := by
  unfold Reflects
  rw [descendantsOf_append, List.filter_append]
  exact List.rel_append h h'

/-- Tags without marks reflect nothing. -/
theorem reflects_of_unmarked (h : ∀ t ∈ descendantsOf ts, marks t = []) :
    Reflects convert [] ts := by
  have hnone : (descendantsOf ts).filter isLandmark = [] := by
    refine List.filter_eq_nil_iff.mpr fun t ht => ?_
    rw [isLandmark_iff, h t ht]
    exact fun hne => hne rfl
  rw [Reflects, hnone]
  exact .nil

/-- A landmark and what is in it. -/
theorem Reflects.landmark (h : Shows convert n t) (hbelow : Reflects convert ns t.children) :
    Reflects convert (n :: ns) [t] := by
  rw [Reflects, descendantsOf_cons, descendantsOf_nil, List.append_nil,
    List.filter_cons_of_pos h.isLandmark]
  exact .cons h hbelow

/-- A tag without marks shows just what is in it. -/
theorem reflects_plain (h : marks t = []) :
    Reflects convert ns [t] ↔ Reflects convert ns t.children := by
  have hnot : ¬ isLandmark t = true := by
    rw [isLandmark_iff, h]
    exact fun hne => hne rfl
  rw [Reflects, descendantsOf_cons, descendantsOf_nil, List.append_nil,
    List.filter_cons_of_neg hnot]
  rfl

/-- Edits that keep a tag do not change what it shows. -/
theorem Reflects.keeps (h : Reflects convert ns [t]) (hk : Keeps t u) :
    Reflects convert ns [u] := by
  by_cases hmark : marks t = []
  · rw [reflects_plain hmark] at h
    rw [reflects_plain (hk.mark.trans hmark), hk.children]
    exact h
  · have ht : isLandmark t = true := isLandmark_iff.mpr hmark
    rw [Reflects, descendantsOf_cons, descendantsOf_nil, List.append_nil,
      List.filter_cons_of_pos ht] at h
    cases h with
    | cons hshows hbelow => exact .landmark (hshows.keeps hk) (hk.children ▸ hbelow)

theorem Reflects.map {tag : Option Tag} (h : Reflects convert ns tag.toList) {f : Tag → Tag}
    (hf : ∀ t, Keeps t (f t)) : Reflects convert ns (tag.map f).toList := by
  cases tag with
  | none => exact h
  | some t => exact h.keeps (hf t)

end

end Placard.Render
