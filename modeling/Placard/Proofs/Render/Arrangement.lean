import Mathlib.Data.List.Basic
import Placard.Proofs.Tag.Tree
import Placard.Render.Group

/-!
# Arrangements of tags

Elements, columns and the buttons of actions are added to a tag one by one, each with something
before it if there are others. All three are one loop with a separator of its own for each entry
(`addEach`). What the loop gives is said here without it: `arrange` are the tags of all entries that
show, in order, each with its separator right before it, but for the first.

* `addEach_eq`: the loop renders all entries in order and appends their arrangement.
* `SeparatorsLead`: each separator is directly followed by a rendered tag, so that no two of them
  meet and none comes last.
-/

namespace Placard.Render

open Document

variable {α : Type}

/-- A tag in another one: drawn to set others apart, or rendered. -/
inductive Piece where
  | separator (t : Tag)
  | rendered (t : Tag)

namespace Piece

/-- The tag itself. -/
def tag : Piece → Tag
  | separator t => t
  | rendered t => t

/-- The tag, if it was rendered. -/
def rendered? : Piece → Option Tag
  | separator _ => none
  | rendered t => some t

end Piece

/-- The entries that show, each with its tag. -/
def showing (as : List α) (tags : List (Option Tag)) : List (α × Tag) :=
  (as.zip tags).filterMap fun p => p.2.map (p.1, ·)

/-- Tags in order, each with the separator of its entry right before it. Nothing stands before the
first one, unless it continues what is there already. -/
def arrange (separator : α → Option Tag) (continues : Bool) (entries : List (α × Tag)) :
    List Piece :=
  (entries.mapIdx fun k entry =>
    (if k = 0 ∧ continues = false then []
      else (separator entry.1).toList.map Piece.separator) ++ [.rendered entry.2]).flatten

/-! ## Entries -/

@[simp] theorem showing_nil (tags : List (Option Tag)) : showing ([] : List α) tags = [] := rfl

@[simp] theorem showing_none (a : α) (as : List α) (tags : List (Option Tag)) :
    showing (a :: as) (none :: tags) = showing as tags := rfl

@[simp] theorem showing_some (a : α) (as : List α) (t : Tag) (tags : List (Option Tag)) :
    showing (a :: as) (some t :: tags) = (a, t) :: showing as tags := rfl

section

variable (separator : α → Option Tag)

@[simp] theorem arrange_nil (continues : Bool) : arrange separator continues [] = [] := rfl

@[simp] theorem arrange_cons (continues : Bool) (a : α) (t : Tag) (entries : List (α × Tag)) :
    arrange separator continues ((a, t) :: entries) =
      (if continues then (separator a).toList.map Piece.separator else []) ++
        .rendered t :: arrange separator true entries := by
  unfold arrange
  rw [List.mapIdx_cons, List.flatten_cons, List.append_assoc]
  cases continues <;> simp

/-- Without its separators an arrangement is the rendered tags in order. -/
theorem rendered_arrange (continues : Bool) (entries : List (α × Tag)) :
    (arrange separator continues entries).filterMap Piece.rendered? = entries.map (·.2) := by
  have hdrawn (tags : List Tag) :
      (tags.map Piece.separator).filterMap Piece.rendered? = [] := by
    induction tags with
    | nil => rfl
    | cons t tags ih => exact ih
  induction entries generalizing continues with
  | nil => rfl
  | cons entry entries ih =>
    obtain ⟨a, t⟩ := entry
    have hfirst : (Piece.rendered t :: arrange separator true entries).filterMap Piece.rendered? =
        t :: entries.map (·.2) := by
      rw [← ih true]
      rfl
    rw [arrange_cons, List.filterMap_append, hfirst, List.map_cons]
    cases continues with
    | true => exact congrArg (· ++ _) (hdrawn _)
    | false => rfl

end

/-! ## Separators lead -/

/-- Each separator is directly followed by a rendered tag. -/
def SeparatorsLead (pieces : List Piece) : Prop :=
  ∀ before t after, pieces = before ++ .separator t :: after →
    ∃ u rest, after = .rendered u :: rest

namespace SeparatorsLead

variable {pieces more : List Piece}

theorem nil : SeparatorsLead [] := by
  intro before t after h
  simp at h

theorem rendered (h : SeparatorsLead pieces) (u : Tag) :
    SeparatorsLead (.rendered u :: pieces) := by
  intro before t after heq
  cases before with
  | nil => cases heq
  | cons piece before =>
    obtain ⟨-, heq⟩ := List.cons.inj heq
    exact h before t after heq

theorem separator (h : SeparatorsLead pieces) (s u : Tag) :
    SeparatorsLead (.separator s :: .rendered u :: pieces) := by
  intro before t after heq
  cases before with
  | nil => exact ⟨u, pieces, (List.cons.inj heq).2.symm⟩
  | cons piece before => exact h.rendered u before t after (List.cons.inj heq).2

/-- At most one separator, in front of a rendered tag. -/
theorem optional (h : SeparatorsLead pieces) (s : Option Tag) (u : Tag) :
    SeparatorsLead (s.toList.map .separator ++ .rendered u :: pieces) := by
  cases s with
  | none => exact h.rendered u
  | some s => exact h.separator s u

theorem append (h : SeparatorsLead pieces) (hmore : SeparatorsLead more) :
    SeparatorsLead (pieces ++ more) := by
  intro before t after heq
  rcases List.append_eq_append_iff.mp heq with ⟨mid, -, hrest⟩ | ⟨mid, rfl, hrest⟩
  · exact hmore mid t after hrest
  · cases mid with
    | nil => exact hmore [] t after hrest.symm
    | cons piece mid =>
      obtain ⟨rfl, rfl⟩ := List.cons.inj hrest
      obtain ⟨u, rest, rfl⟩ := h before t mid rfl
      exact ⟨u, rest ++ more, rfl⟩

end SeparatorsLead

theorem separatorsLead_rendered (tags : List Tag) : SeparatorsLead (tags.map .rendered) := by
  induction tags with
  | nil => exact .nil
  | cons t tags ih => exact ih.rendered t

theorem separatorsLead_arrange (separator : α → Option Tag) (continues : Bool)
    (entries : List (α × Tag)) : SeparatorsLead (arrange separator continues entries) := by
  induction entries generalizing continues with
  | nil => exact .nil
  | cons entry entries ih =>
    obtain ⟨a, t⟩ := entry
    rw [arrange_cons]
    cases continues with
    | true => exact (ih true).optional (separator a) t
    | false => exact (ih true).rendered t

/-! ## The loop -/

/-- A tag with an entry more if it shows, and before it its separator if there are others. -/
def addOne (render : α → Render (Option Tag)) (separator : α → Option Tag) (t : Tag) (a : α) :
    Render Tag := do
  match ← render a with
  | none => return t
  | some tag => return appendSeparated (separator a) t tag

/-- A tag with entries more. -/
def addEach (render : α → Render (Option Tag)) (separator : α → Option Tag) :
    Tag → List α → Render Tag
  | t, [] => pure t
  | t, a :: as => do addEach render separator (← addOne render separator t a) as

theorem appendAll_nil (t : Tag) : t.appendAll [] = t := by
  cases t
  rw [Tag.appendAll, List.append_nil]

theorem appendAll_append (t : Tag) (tags more : List Tag) :
    t.appendAll (tags ++ more) = (t.appendAll tags).appendAll more := by
  unfold Tag.appendAll
  rw [← List.append_assoc]

theorem appendSeparated_eq (separator : Option Tag) (t tag : Tag) :
    appendSeparated separator t tag = (t.appendAll
      (if !t.children.isEmpty then separator.toList else [])).appendAll [tag] := by
  unfold appendSeparated
  cases t.children.isEmpty with
  | true => exact congrArg (Tag.append · tag) (appendAll_nil t).symm
  | false => rfl

/-- What the loop appends for all entries it appends for the first one and then for the others. -/
theorem appendAll_arrange_cons (separator : α → Option Tag) (t : Tag) (a : α) (tag : Tag)
    (entries : List (α × Tag)) :
    t.appendAll ((arrange separator (!t.children.isEmpty) ((a, tag) :: entries)).map Piece.tag) =
      (appendSeparated (separator a) t tag).appendAll
        ((arrange separator true entries).map Piece.tag) := by
  rw [arrange_cons, appendSeparated_eq, List.map_append, List.map_cons, appendAll_append,
    ← List.singleton_append (l := List.map _ _), appendAll_append]
  cases t.children.isEmpty with
  | true => rfl
  | false => simp [Piece.tag, Function.comp_def]

/-- **The loop.** All entries are rendered in order, and what shows is appended with its separators.
By induction on the entries; once one of them shows the tag is empty no more. -/
theorem addEach_eq (render : α → Render (Option Tag)) (separator : α → Option Tag) (t : Tag)
    (as : List α) : addEach render separator t as =
      (fun tags => t.appendAll
        ((arrange separator (!t.children.isEmpty) (showing as tags)).map Piece.tag)) <$>
          as.mapM render := by
  induction as generalizing t with
  | nil =>
    rw [List.mapM_nil, map_pure, showing_nil, arrange_nil, List.map_nil, appendAll_nil]
    rfl
  | cons a as ih =>
    rw [addEach, addOne, List.mapM_cons, map_bind, bind_assoc]
    refine bind_congr fun tag => ?_
    rw [map_bind]
    cases tag with
    | none =>
      rw [pure_bind, ih, map_eq_pure_bind]
      exact bind_congr fun tags => rfl
    | some tag =>
      have hsome : (!(appendSeparated (separator a) t tag).children.isEmpty) = true := by
        simp [appendSeparated_eq]
      rw [pure_bind, ih, hsome, map_eq_pure_bind]
      refine bind_congr fun tags => ?_
      rw [map_pure, showing_some, appendAll_arrange_cons]

/-! ## Elements and columns -/

/-- What stands before an element that has others before it. -/
def elementSeparator? (host : Host.Config) (e : Element) : Option Tag :=
  separator? host e.frame.spacing e.frame.separator

theorem addElements_eq (s : Scene) (t : Tag) (es : List Element) :
    addElements s t es = addEach (fun e => s.render (.element e)) (elementSeparator? s.host) t es := by
  induction es generalizing t with
  | nil => rfl
  | cons e es ih =>
    have hfirst : addElement s t e =
        addOne (fun e => s.render (.element e)) (elementSeparator? s.host) t e := by
      unfold addElement addOne elementSeparator?
      refine bind_congr fun tag => ?_
      cases tag <;> rfl
    rw [addElements, addEach, hfirst]
    exact bind_congr fun u => ih u

/-- The tag of a column with its share of the row, if it shows. -/
def renderShare (s : Scene) (total : Number.Double) (c : Column) : Render (Option Tag) := do
  match ← s.render (.element (.column c)) with
  | none => return none
  | some tag =>
    let width ← ofExcept (flex total c)
    return some (tag.setStyle .flex width)

theorem addColumns_eq (s : Scene) (total : Number.Double) (row : Tag) (cs : List Column) :
    addColumns s total row cs =
      addEach (renderShare s total) (fun c => columnSeparator? s.host c.frame) row cs := by
  induction cs generalizing row with
  | nil => rfl
  | cons c cs ih =>
    have hfirst : addColumn s total row c =
        addOne (renderShare s total) (fun c => columnSeparator? s.host c.frame) row c := by
      unfold addColumn addOne renderShare
      rw [bind_assoc]
      refine bind_congr fun tag => ?_
      cases tag with
      | none => rw [pure_bind]
      | some tag =>
        dsimp only
        rw [bind_assoc]
        refine bind_congr fun width => ?_
        rw [pure_bind]
    rw [addColumns, addEach, hfirst]
    exact bind_congr fun u => ih u

end Placard.Render
