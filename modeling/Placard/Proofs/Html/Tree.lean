import Mathlib.Data.List.Nodup
import Placard.Html.Tree
import Placard.Proofs.Text.Blank

/-!
# Trees of markup

What is shared by all that is said about the nodes of markup:

* `Node.descendantsOf`: all nodes of a list of trees in document order, and induction over such a
  list (`Node.forestInduction`);
* `Grows`: how a tree is built. What holds of every element when it is opened holds of every element
  of the finished tree (`element_of_parse`), whatever the order of the tags;
* `isTidy_of_parse`: the attributes of an element have different names, and where a value is a list
  of words it has single spaces.
-/

namespace Placard.Html

open Placard.Text

/-! ## Nodes -/

namespace Node

mutual

/-- The nodes below a node, in document order. -/
def descendants : Node → List Node
  | .text _ => []
  | .comment => []
  | .element _ _ children => descendantsOf children

/-- The nodes of a list and those below them, in document order. -/
def descendantsOf : List Node → List Node
  | [] => []
  | n :: ns => n :: descendants n ++ descendantsOf ns

end

/-- Whether a node is an element. -/
def isElement : Node → Bool
  | .element _ _ _ => true
  | _ => false

/-- **Induction over a list of trees.** An element adds what is in it and what follows it. -/
theorem forestInduction {P : List Node → Prop} (nil : P [])
    (text : ∀ cs rest, P rest → P (.text cs :: rest))
    (comment : ∀ rest, P rest → P (.comment :: rest))
    (element : ∀ name attributes children rest, P children → P rest →
      P (.element name attributes children :: rest)) : ∀ nodes, P nodes
  | [] => nil
  | .text cs :: rest => text cs rest (forestInduction nil text comment element rest)
  | .comment :: rest => comment rest (forestInduction nil text comment element rest)
  | .element name attributes children :: rest =>
    element name attributes children rest (forestInduction nil text comment element children)
      (forestInduction nil text comment element rest)

section

variable (cs name : List Char) (attributes : List (List Char × List Char))
  (children rest : List Node)

@[simp] theorem descendantsOf_nil : descendantsOf [] = [] := rfl

@[simp] theorem descendantsOf_text : descendantsOf (.text cs :: rest) =
    .text cs :: descendantsOf rest := rfl

@[simp] theorem descendantsOf_comment : descendantsOf (.comment :: rest) =
    .comment :: descendantsOf rest := rfl

@[simp] theorem descendantsOf_element :
    descendantsOf (.element name attributes children :: rest) =
      .element name attributes children :: (descendantsOf children ++ descendantsOf rest) := rfl

theorem descendantsOf_cons (n : Node) :
    descendantsOf (n :: rest) = n :: descendants n ++ descendantsOf rest := rfl

end

theorem mem_descendantsOf {n : Node} {nodes : List Node} :
    n ∈ descendantsOf nodes ↔ ∃ m ∈ nodes, n ∈ descendantsOf [m] := by
  induction nodes with
  | nil => simp
  | cons m nodes ih =>
    rw [descendantsOf_cons, List.mem_append, ih, List.exists_mem_cons_iff, descendantsOf_cons,
      descendantsOf_nil, List.append_nil]

end Node

/-! ## Attributes -/

/-- The attributes of an element as they stand in the tree. -/
def storedAttributes (name : List Char) (attributes : List (List Char × List Char)) :
    List (List Char × List Char) :=
  (distinctAttributes attributes).map fun a => (a.1, normalValue name a.1 a.2)

/-- The attributes of an element: their names are different, and a list of words has single spaces
between its words. -/
structure IsTidy (name : List Char) (attributes : List (List Char × List Char)) : Prop where
  distinct : (attributes.map (·.1)).Nodup
  normal : ∀ a ∈ attributes, normalValue name a.1 a.2 = a.2

/-- An attribute has the place of the first of its name. -/
theorem names_add (attributes : List (List Char × List Char)) (a : List Char × List Char) :
    (distinctAttributes.add attributes a).map (·.1) =
      if a.1 ∈ attributes.map (·.1) then attributes.map (·.1)
      else attributes.map (·.1) ++ [a.1] := by
  have hany : (attributes.any fun b => b.1 == a.1) = true ↔ a.1 ∈ attributes.map (·.1) := by
    rw [List.any_eq_true, List.mem_map]
    simp only [beq_iff_eq]
  unfold distinctAttributes.add
  split
  · next h =>
    rw [if_pos (hany.mp h), List.map_map]
    refine List.map_congr_left fun b _ => ?_
    dsimp only [Function.comp_apply]
    split <;> rfl
  · next h =>
    rw [if_neg fun hmem => h (hany.mpr hmem), List.map_append, List.map_singleton]

/-- The names of the attributes without repetition are different, and each is one of theirs. -/
theorem names_distinctAttributes (attributes : List (List Char × List Char)) :
    ((distinctAttributes attributes).map (·.1)).Nodup ∧
      (distinctAttributes attributes).map (·.1) ⊆ attributes.map (·.1) := by
  have hfold (as : List (List Char × List Char)) : ∀ done : List (List Char × List Char),
      (done.map (·.1)).Nodup →
        ((as.foldl distinctAttributes.add done).map (·.1)).Nodup ∧
          (as.foldl distinctAttributes.add done).map (·.1) ⊆ done.map (·.1) ++ as.map (·.1) := by
    induction as with
    | nil => exact fun done hdone => ⟨hdone, List.subset_append_left _ _⟩
    | cons a as ih =>
      intro done hdone
      have hadd : ((distinctAttributes.add done a).map (·.1)).Nodup ∧
          (distinctAttributes.add done a).map (·.1) ⊆ done.map (·.1) ++ [a.1] := by
        rw [names_add]
        split
        · exact ⟨hdone, List.subset_append_left _ _⟩
        · next hnew =>
          exact ⟨hdone.append (List.nodup_singleton _) (List.disjoint_singleton.mpr hnew),
            fun _ h => h⟩
      obtain ⟨hnodup, hsub⟩ := ih _ hadd.1
      refine ⟨hnodup, fun name hname => ?_⟩
      rcases List.mem_append.mp (hsub hname) with h | h
      · rcases List.mem_append.mp (hadd.2 h) with h | h
        · exact List.mem_append_left _ h
        · rw [List.mem_singleton.mp h]
          exact List.mem_append_right _ List.mem_cons_self
      · exact List.mem_append_right _ (List.mem_cons_of_mem _ h)
  exact hfold attributes [] List.nodup_nil

theorem normalValue_idem (element name value : List Char) :
    normalValue element name (normalValue element name value) = normalValue element name value := by
  unfold normalValue
  dsimp only
  split
  · rw [wordsBy_joinWith (by decide) fun w hw => isWord_of_mem hw]
  · rfl

theorem isTidy_storedAttributes (name : List Char) (attributes : List (List Char × List Char)) :
    IsTidy name (storedAttributes name attributes) where
  distinct := by
    rw [storedAttributes, List.map_map]
    exact (names_distinctAttributes attributes).1
  normal a ha := by
    obtain ⟨b, -, rfl⟩ := List.mem_map.mp ha
    exact normalValue_idem ..

/-! ## How a tree is built -/

/-- A tree that is being built: the open elements satisfy `E`, and the finished nodes `P`. -/
structure Grows (E : List Char → List (List Char × List Char) → Prop) (P : Node → Prop)
    (g : Growth) : Prop where
  base : ∀ n ∈ g.base, P n
  opened : ∀ e ∈ g.opened, E e.name e.attributes ∧ ∀ n ∈ e.children, P n

/-- What a token may bring in. -/
def Admits (E : List Char → List (List Char × List Char) → Prop) (P : Node → Prop) : Token → Prop
  | .start name attributes _ => E name (storedAttributes name attributes)
  | .finish _ => True
  | .text _ => True
  | .comment => P .comment
  | .section _ => True

namespace Grows

variable {E : List Char → List (List Char × List Char) → Prop} {P : Node → Prop} {g : Growth}

theorem empty : Grows E P .empty :=
  ⟨fun _ hn => absurd hn List.not_mem_nil, fun _ he => absurd he List.not_mem_nil⟩

theorem add (hg : Grows E P g) {n : Node} (hn : P n) : Grows E P (g.add n) := by
  obtain ⟨hbase, hopened⟩ := hg
  unfold Growth.add
  split
  · exact ⟨List.forall_mem_cons.mpr ⟨hn, hbase⟩, hopened⟩
  · next e es heq =>
    rw [heq, List.forall_mem_cons] at hopened
    obtain ⟨⟨helement, hchildren⟩, hrest⟩ := hopened
    exact ⟨hbase, List.forall_mem_cons.mpr
      ⟨⟨helement, List.forall_mem_cons.mpr ⟨hn, hchildren⟩⟩, hrest⟩⟩

section

variable (htext : ∀ cs, P (.text cs))
  (helement : ∀ name attributes children, E name attributes → (∀ n ∈ children, P n) →
    P (.element name attributes children))

include htext in
theorem endText (hg : Grows E P g) : Grows E P g.endText := by
  unfold Growth.endText
  split
  · exact hg
  · exact add (g := { g with text := none }) ⟨hg.base, hg.opened⟩ (htext _)

include helement in
theorem closeOne (hg : Grows E P g) : Grows E P g.closeOne := by
  obtain ⟨hbase, hopened⟩ := hg
  unfold Growth.closeOne
  split
  · exact ⟨hbase, hopened⟩
  · next e es heq =>
    rw [heq, List.forall_mem_cons] at hopened
    obtain ⟨⟨hname, hchildren⟩, hrest⟩ := hopened
    refine add (g := { g with opened := es }) ⟨hbase, hrest⟩ (helement _ _ _ hname ?_)
    exact fun n hn => hchildren n (List.mem_reverse.mp hn)

include helement in
theorem closeMany (n : Nat) : ∀ {g : Growth}, Grows E P g → Grows E P (g.closeMany n) := by
  induction n with
  | zero => exact fun hg => hg
  | succ n ih => exact fun hg => ih (hg.closeOne helement)

include helement in
theorem close (hg : Grows E P g) (name : List Char) : Grows E P (g.close name) := by
  unfold Growth.close
  split
  · exact hg
  · exact hg.closeMany helement _

include htext helement

theorem finish (hg : Grows E P g) (name : List Char) : Grows E P (g.finish name) := by
  unfold Growth.finish
  split
  · exact ⟨hg.base, hg.opened⟩
  · exact (hg.endText htext).close helement name

theorem read (hg : Grows E P g) {t : Token} (ht : Admits E P t) : Grows E P (g.read t) := by
  have hended := hg.endText htext
  cases t with
  | text cs => exact ⟨hg.base, hg.opened⟩
  | finish name => exact hg.finish htext helement name
  | comment => exact hended.add ht
  | «section» cs =>
    exact endText (g := { g.endText with text := some cs }) htext ⟨hended.base, hended.opened⟩
  | start name attributes closed =>
    -- a tag that closes itself, or has no content, is opened and closed at once
    have hopen : Grows E P { g.endText with
        opened := ⟨name, storedAttributes name attributes, []⟩ :: g.endText.opened } :=
      ⟨hended.base, List.forall_mem_cons.mpr
        ⟨⟨ht, fun _ hn => absurd hn List.not_mem_nil⟩, hended.opened⟩⟩
    unfold Growth.read
    dsimp only
    split
    · exact hopen.finish htext helement name
    · split
      · have hclosed := hopen.close helement name
        exact ⟨hclosed.base, hclosed.opened⟩
      · exact hopen

/-- **How a tree is built.** Tokens that bring in nothing but what is admitted build nodes of that
kind. -/
theorem ofTokens {ts : List Token} (h : ∀ t ∈ ts, Admits E P t) : ∀ n ∈ Node.ofTokens ts, P n := by
  have hfold : ∀ {g : Growth}, Grows E P g → Grows E P (ts.foldl Growth.read g) := by
    induction ts with
    | nil => exact fun hg => hg
    | cons t ts ih =>
      intro g hg
      rw [List.forall_mem_cons] at h
      exact ih h.2 (hg.read htext helement h.1)
  intro n hn
  have hdone := ((hfold empty).endText htext).closeMany helement
    (ts.foldl Growth.read .empty).endText.opened.length
  exact hdone.base n (List.mem_reverse.mp hn)

end

end Grows

/-! ## Elements of markup -/

/-- What holds of the name and the attributes of every element when it is opened holds of every
element of the tree. -/
theorem element_of_parse {E : List Char → List (List Char × List Char) → Prop}
    (h : ∀ name attributes, E name (storedAttributes name attributes)) {markup : String}
    {nodes : List Node} (hparse : parse markup = .ok nodes) {name : List Char}
    {attributes : List (List Char × List Char)} {children : List Node}
    (hmem : .element name attributes children ∈ Node.descendantsOf nodes) : E name attributes := by
  -- the builder only ever stores elements with the attributes of their start tags
  let All (n : Node) : Prop := ∀ name attributes children,
    .element name attributes children ∈ Node.descendantsOf [n] → E name attributes
  obtain ⟨ts, rfl⟩ : ∃ ts, nodes = Node.ofTokens ts := by
    unfold parse at hparse
    cases hts : tokens markup.toList with
    | error r =>
      rw [hts] at hparse
      cases hparse
    | ok ts =>
      rw [hts] at hparse
      exact ⟨ts, (Except.ok.inj hparse).symm⟩
  have hall : ∀ n ∈ Node.ofTokens ts, All n := by
    refine Grows.ofTokens (E := E) ?_ ?_ fun t _ => ?_
    · intro cs name attributes children hmem
      simp at hmem
    · intro name attributes children helement hchildren name' attributes' children' hmem
      simp only [Node.descendantsOf_element, Node.descendantsOf_nil, List.append_nil, List.mem_cons,
        Node.element.injEq] at hmem
      rcases hmem with ⟨rfl, rfl, rfl⟩ | hbelow
      · exact helement
      · obtain ⟨m, hm, hin⟩ := Node.mem_descendantsOf.mp hbelow
        exact hchildren m hm _ _ _ hin
    · cases t with
      | start name attributes closed => exact h name attributes
      | comment =>
        intro name attributes children hmem
        simp at hmem
      | _ => trivial
  obtain ⟨n, hn, hin⟩ := Node.mem_descendantsOf.mp hmem
  exact hall n hn _ _ _ hin

/-- **Attributes are tidy.** Every element of parsed markup has attributes of different names, with
single spaces between the words of a list. -/
theorem isTidy_of_parse {markup : String} {nodes : List Node} (h : parse markup = .ok nodes)
    {name : List Char} {attributes : List (List Char × List Char)} {children : List Node}
    (hmem : .element name attributes children ∈ Node.descendantsOf nodes) :
    IsTidy name attributes :=
  element_of_parse isTidy_storedAttributes h hmem

end Placard.Html
