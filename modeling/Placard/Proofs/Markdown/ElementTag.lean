import Placard.Markdown.Fragment
import Placard.Proofs.Html.Tree
import Placard.Proofs.Tag.Tree

/-!
# The tags of elements

Making tags of nodes fails in one way only, and that is decided before the first tag is made:

* `hasInlineStyle` looks for an inline style at any depth. If there is one, there are no tags, else
  they are given by a plain recursion, `plainTags` (`ofNodes_eq`);
* an element puts its classes and its attributes on its tag, and nothing else (`IsTagOf`).
-/

namespace Placard.Markdown

open Placard.Text Placard.Html

/-! ## Attributes -/

/-- Whether an attribute is an inline style. -/
def isStyle (a : List Char × List Char) : Bool :=
  String.ofList a.1 = "style"

/-- Whether an attribute is an address that is not safe. -/
def isUnsafeAddress (a : List Char × List Char) : Bool :=
  (String.ofList a.1 = "href" || String.ofList a.1 = "src") && !Url.isSafe a.2

/-- Whether an attribute of an element is one of its tag. Lists of classes are not, nor are addresses
that are not safe. -/
def isKept (a : List Char × List Char) : Bool :=
  String.ofList a.1 != "class" && !isUnsafeAddress a

/-- The tag with an attribute of its element. -/
def addAttribute (t : Tag) (a : List Char × List Char) : Tag :=
  if String.ofList a.1 = "class" then addClasses a.2 t
  else if isUnsafeAddress a then t
  else t.setAttr (String.ofList a.1) (String.ofList a.2)

/-- Attributes are added one after the other, unless there is an inline style among them. -/
theorem addAttributes_eq (attributes : List (List Char × List Char)) (t : Tag) :
    addAttributes attributes t =
      if attributes.any isStyle then .error .inlineStyle
      else .ok (attributes.foldl addAttribute t) := by
  induction attributes generalizing t with
  | nil => rfl
  | cons a attributes ih =>
    rw [addAttributes, List.any_cons, List.foldl_cons, addAttribute, isStyle, isUnsafeAddress]
    by_cases hstyle : String.ofList a.1 = "style"
    · simp [hstyle]
    · simp only [hstyle, ih, decide_false, Bool.false_or, if_false]
      split
      · rfl
      · split <;> rfl

/-! ## The tag of an element -/

/-- The tag of an element around the tags of what is in it. -/
def elementTag (name : List Char) (attributes : List (List Char × List Char)) (inner : List Tag) :
    Tag :=
  attributes.foldl addAttribute ((Tag.named (String.ofList name)).appendAll inner)

theorem addClasses_eq (value : List Char) (t : Tag) :
    ∃ classes, addClasses value t = { t with classes := classes } := by
  unfold addClasses
  induction wordsBy isBlank value generalizing t with
  | nil =>
    cases t
    exact ⟨_, rfl⟩
  | cons w words ih =>
    obtain ⟨classes, heq⟩ := ih (t.addClass (String.ofList w))
    refine ⟨classes, ?_⟩
    rw [List.foldl_cons, heq, Tag.addClass]
    split <;> rfl

/-- Attributes change nothing but the classes and the attributes of a tag. -/
theorem foldl_addAttribute_eq (attributes : List (List Char × List Char)) (t : Tag) :
    ∃ classes written, attributes.foldl addAttribute t =
      { t with classes := classes, attributes := written } := by
  induction attributes generalizing t with
  | nil =>
    cases t
    exact ⟨_, _, rfl⟩
  | cons a attributes ih =>
    obtain ⟨classes, written, heq⟩ := ih (addAttribute t a)
    refine ⟨classes, written, ?_⟩
    rw [List.foldl_cons, heq, addAttribute]
    split
    · obtain ⟨classes', heq'⟩ := addClasses_eq a.2 t
      rw [heq']
    · split <;> rfl

/-- The tag of an element, but for its classes and its attributes. -/
theorem elementTag_eq (name : List Char) (attributes : List (List Char × List Char))
    (inner : List Tag) : ∃ classes written, elementTag name attributes inner =
      { name := String.ofList name, text := none, classes := classes, styles := [],
        attributes := written, children := inner } :=
  foldl_addAttribute_eq attributes ((Tag.named (String.ofList name)).appendAll inner)

/-- The classes that a text lists are its words. -/
theorem mem_classes_addClasses (value : List Char) (t : Tag) (c : String) :
    c ∈ (addClasses value t).classes ↔ c ∈ t.classes ∨ c.toList ∈ wordsBy isBlank value := by
  have hword : ∀ w ∈ wordsBy isBlank value, w ≠ [] := fun w hw => (isWord_of_mem hw).1
  unfold addClasses
  generalize wordsBy isBlank value = words at hword
  induction words generalizing t with
  | nil => simp
  | cons w words ih =>
    obtain ⟨hw, hrest⟩ := List.forall_mem_cons.mp hword
    have hname : String.ofList w ≠ "" := fun h =>
      hw (String.ofList_injective (h.trans String.ofList_toList.symm))
    have heq : c = String.ofList w ↔ c.toList = w := by
      rw [← String.toList_inj, String.toList_ofList]
    refine (ih (t.addClass (String.ofList w)) hrest).trans ?_
    rw [Tag.mem_classes_addClass, List.mem_cons, heq, or_assoc, and_iff_right hname]

theorem nodup_classes_addClasses (value : List Char) {t : Tag} (h : t.classes.Nodup) :
    (addClasses value t).classes.Nodup := by
  unfold addClasses
  induction wordsBy isBlank value generalizing t with
  | nil => exact h
  | cons w words ih => exact ih (Tag.nodup_classes_addClass h _)

theorem mem_classes_foldl (attributes : List (List Char × List Char)) (t : Tag) (c : String) :
    c ∈ (attributes.foldl addAttribute t).classes ↔
      c ∈ t.classes ∨
        ∃ a ∈ attributes, String.ofList a.1 = "class" ∧ c.toList ∈ wordsBy isBlank a.2 := by
  induction attributes generalizing t with
  | nil => simp
  | cons a attributes ih =>
    have hfirst : c ∈ (addAttribute t a).classes ↔
        c ∈ t.classes ∨ String.ofList a.1 = "class" ∧ c.toList ∈ wordsBy isBlank a.2 := by
      unfold addAttribute
      split
      · next hclass => rw [mem_classes_addClasses, and_iff_right hclass]
      · next hclass => split <;> simp [hclass]
    rw [List.foldl_cons, ih, hfirst, List.exists_mem_cons_iff, or_assoc]

theorem nodup_classes_foldl (attributes : List (List Char × List Char)) {t : Tag}
    (h : t.classes.Nodup) : (attributes.foldl addAttribute t).classes.Nodup := by
  induction attributes generalizing t with
  | nil => exact h
  | cons a attributes ih =>
    refine ih ?_
    unfold addAttribute
    split
    · exact nodup_classes_addClasses a.2 h
    · split <;> exact h

/-- Attributes of different names are written in order, behind those that the tag has. -/
theorem attributes_foldl {attributes : List (List Char × List Char)}
    (hdistinct : (attributes.map (·.1)).Nodup) {t : Tag}
    (hnew : ∀ a ∈ attributes, String.ofList a.1 ∉ t.attributes.map (·.1)) :
    (attributes.foldl addAttribute t).attributes = t.attributes ++
      (attributes.filter isKept).map fun a => (String.ofList a.1, String.ofList a.2) := by
  induction attributes generalizing t with
  | nil => simp
  | cons a attributes ih =>
    obtain ⟨hfresh, hrest⟩ := List.nodup_cons.mp hdistinct
    obtain ⟨hfirst, hlater⟩ := List.forall_mem_cons.mp hnew
    rw [List.foldl_cons, addAttribute]
    split_ifs with hclass hunsafe
    · obtain ⟨classes, heq⟩ := addClasses_eq a.2 t
      rw [ih hrest (by rwa [heq]), heq, List.filter_cons_of_neg (by simp [isKept, hclass])]
    · rw [ih hrest hlater, List.filter_cons_of_neg (by simp [isKept, hunsafe])]
    · -- a kept attribute is written last, since no earlier one has its name
      have hwrite := Tag.writeAt_of_not_mem (String.ofList a.2) hfirst
      have hlater' : ∀ b ∈ attributes, String.ofList b.1 ∉
          (t.setAttr (String.ofList a.1) (String.ofList a.2)).attributes.map (·.1) := by
        intro b hb hmem
        rw [Tag.setAttr, hwrite, List.map_append, List.mem_append, List.map_singleton,
          List.mem_singleton] at hmem
        rcases hmem with hold | hname
        · exact hlater b hb hold
        · exact hfresh (List.mem_map.mpr ⟨b, hb, String.ofList_injective hname⟩)
      rw [ih hrest hlater', List.filter_cons_of_pos (by simp [isKept, hclass, hunsafe]),
        List.map_cons, Tag.setAttr, hwrite, List.append_assoc, List.singleton_append]

/-- The tag of an element. It has the name of the element, as its attributes those that are kept, in
order, and as its classes the words of the list of classes. -/
structure IsTagOf (name : List Char) (attributes : List (List Char × List Char))
    (inner : List Tag) (t : Tag) : Prop where
  name : t.name = String.ofList name
  text : t.text = none
  styles : t.styles = []
  written : t.attributes =
    (attributes.filter isKept).map fun a => (String.ofList a.1, String.ofList a.2)
  classes : ∀ c, c ∈ t.classes ↔
    ∃ a ∈ attributes, String.ofList a.1 = "class" ∧ c.toList ∈ wordsBy isBlank a.2
  distinct : t.classes.Nodup
  children : t.children = inner

theorem isTagOf_elementTag (name : List Char) {attributes : List (List Char × List Char)}
    (hdistinct : (attributes.map (·.1)).Nodup) (inner : List Tag) :
    IsTagOf name attributes inner (elementTag name attributes inner) := by
  obtain ⟨classes, written, heq⟩ := elementTag_eq name attributes inner
  exact
    { name := by rw [heq]
      text := by rw [heq]
      styles := by rw [heq]
      written := attributes_foldl hdistinct fun _ _ => List.not_mem_nil
      classes := fun c => (mem_classes_foldl attributes _ c).trans
        (or_iff_right (List.not_mem_nil (a := c)))
      distinct := nodup_classes_foldl attributes List.nodup_nil
      children := by rw [heq] }

/-! ## The tags of nodes -/

/-- Whether a node is an element with an inline style. -/
def isStyled : Node → Bool
  | .element _ attributes _ => attributes.any isStyle
  | _ => false

/-- Whether an element carries an inline style, at any depth. -/
def hasInlineStyle (nodes : List Node) : Bool :=
  (Node.descendantsOf nodes).any isStyled

mutual

/-- The tag of a node that carries no inline style, if it has one. -/
def plainTag? (top : Bool) (before after : Option Node) : Node → Option Tag
  | .comment => none
  | .text cs => ofText top before after cs
  | .element name attributes children =>
    some (elementTag name attributes (plainTags false none children))

/-- The tags of nodes that carry no inline style. -/
def plainTags (top : Bool) (before : Option Node) : List Node → List Tag
  | [] => []
  | node :: rest =>
    (plainTag? top before rest.head? node).toList ++ plainTags top (some node) rest

end

section

variable (top : Bool) (before : Option Node) (cs name : List Char)
  (attributes : List (List Char × List Char)) (children rest : List Node)

@[simp] theorem plainTags_nil : plainTags top before [] = [] := rfl

@[simp] theorem plainTags_text : plainTags top before (.text cs :: rest) =
    (ofText top before rest.head? cs).toList ++ plainTags top (some (.text cs)) rest := rfl

@[simp] theorem plainTags_comment : plainTags top before (.comment :: rest) =
    plainTags top (some .comment) rest := rfl

@[simp] theorem plainTags_element :
    plainTags top before (.element name attributes children :: rest) =
      elementTag name attributes (plainTags false none children) ::
        plainTags top (some (.element name attributes children)) rest := rfl

@[simp] theorem hasInlineStyle_text :
    hasInlineStyle (.text cs :: rest) = hasInlineStyle rest := rfl

@[simp] theorem hasInlineStyle_comment :
    hasInlineStyle (.comment :: rest) = hasInlineStyle rest := rfl

@[simp] theorem hasInlineStyle_element :
    hasInlineStyle (.element name attributes children :: rest) =
      (attributes.any isStyle || (hasInlineStyle children || hasInlineStyle rest)) :=
  congrArg (attributes.any isStyle || ·) List.any_append

end

/-- **There are tags unless there is an inline style.** -/
theorem ofNodes_eq (nodes : List Node) (top : Bool) (before : Option Node) :
    ofNodes top before nodes =
      if hasInlineStyle nodes then .error .inlineStyle else .ok (plainTags top before nodes) := by
  induction nodes using Node.forestInduction generalizing top before with
  | nil => rfl
  | text cs rest ih =>
    rw [ofNodes, ofNode, ih, hasInlineStyle_text, plainTags_text]
    cases hasInlineStyle rest <;> rfl
  | comment rest ih =>
    rw [ofNodes, ofNode, ih, hasInlineStyle_comment, plainTags_comment]
    cases hasInlineStyle rest <;> rfl
  | element name attributes children rest ihc ihr =>
    -- children, attributes and what follows are tried in turn, and all fail in the same way
    rw [ofNodes, ofNode, ihc, ihr, hasInlineStyle_element, plainTags_element, elementTag]
    simp only [addAttributes_eq]
    cases hasInlineStyle children <;> cases attributes.any isStyle <;>
      cases hasInlineStyle rest <;> rfl

end Placard.Markdown
