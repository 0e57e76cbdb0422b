import Placard.Proofs.Render.Arrangement
import Placard.Proofs.Render.MirrorGroup

/-!
# Rows of columns

A column set renders its columns in order, gives each one that shows its share of the row, and puts
them side by side. Three things have to go together for each column, whatever is left out around it:
its own tag, its own share in the weights of all columns (`IsWidened`), and the separator that it
asks for itself (`columnSeparator?`). Renderers are arbitrary here, and so is what is done to the
tags of actions; only what that puts into a row that can be selected stands in it before the columns
(`columns_of_row`).
-/

namespace Placard.Render

open Tag Document

/-! ## Widening -/

/-- Whether tags differ in one style at most. -/
structure SameBut (property : Property) (t u : Tag) : Prop where
  name : u.name = t.name
  text : u.text = t.text
  classes : u.classes = t.classes
  attributes : u.attributes = t.attributes
  children : u.children = t.children
  styles : ∀ p, p ≠ property → valueAt? p u.styles = valueAt? p t.styles

/-- Whether the second is a column that shows with its share of the row, and the first is the same
without it. -/
structure IsWidened (total : Number.Double) (shown widened : Column × Tag) : Prop where
  column : widened.1 = shown.1
  widen : ∃ width, flex total shown.1 = .ok width ∧ widened.2 = shown.2.setStyle .flex width

theorem sameBut_setStyle (property : Property) (value : String) (t : Tag) :
    SameBut property t (t.setStyle property value) where
  name := rfl
  text := rfl
  classes := rfl
  attributes := rfl
  children := rfl
  styles p hp := by rw [setStyle, valueAt_writeAt, if_neg (Ne.symm hp)]

theorem valueAt_setStyle (property : Property) (value : String) (t : Tag) :
    valueAt? property (t.setStyle property value).styles = some value := by
  rw [setStyle, valueAt_writeAt, if_pos rfl]

/-- The share is the only thing about the tag of a column that the row decides. -/
theorem IsWidened.style {total : Number.Double} {shown widened : Column × Tag}
    (h : IsWidened total shown widened) :
    (∃ width, flex total widened.1 = .ok width ∧
      valueAt? .flex widened.2.styles = some width) ∧ SameBut .flex shown.2 widened.2 := by
  obtain ⟨hcolumn, width, hflex, htag⟩ := h
  rw [hcolumn, htag]
  exact ⟨⟨width, hflex, valueAt_setStyle .flex width shown.2⟩, sameBut_setStyle .flex width shown.2⟩

/-! ## Rendering columns -/

section

variable {α β : Type}

/-- A step succeeds together with what follows it. -/
theorem run_bind_ok_iff {m : Render α} {f : α → Render β} {source : IdSource} {p r : Pass} {b : β} :
    (m >>= f) source p = (.ok b, r) ↔
      ∃ a q, m source p = (.ok a, q) ∧ f a source q = (.ok b, r) := by
  constructor
  · intro h
    match hm : m source p with
    | (.ok a, q) => exact ⟨a, q, rfl, by rwa [run_bind_ok hm] at h⟩
    | (.error e, q) =>
      rw [run_bind_error hm] at h
      cases h
  · rintro ⟨a, q, hm, hf⟩
    rw [run_bind_ok hm, hf]

theorem run_pure_ok_iff {a b : α} {source : IdSource} {p q : Pass} :
    (pure a : Render α) source p = (.ok b, q) ↔ a = b ∧ p = q := by
  rw [run_pure, Prod.mk.injEq, Except.ok.injEq]

theorem run_ofExcept_ok_iff {x : Except Fault α} {a : α} {source : IdSource} {p q : Pass} :
    ofExcept x source p = (.ok a, q) ↔ x = .ok a ∧ p = q := by
  rw [ofExcept, Prod.mk.injEq]

end

section

variable {s : Scene} {total : Number.Double} {source : IdSource}

/-- What renders the column of a row. -/
def renderColumnOf (s : Scene) (c : Column) : Render (Option Tag) :=
  s.render (.element (.column c))

theorem renderShare_ok_iff {c : Column} {result : Option Tag} {p q : Pass} :
    renderShare s total c source p = (.ok result, q) ↔
      renderColumnOf s c source p = (.ok none, q) ∧ result = none ∨
      ∃ tag width, renderColumnOf s c source p = (.ok (some tag), q) ∧
        flex total c = .ok width ∧ result = some (tag.setStyle .flex width) := by
  unfold renderShare renderColumnOf
  rw [run_bind_ok_iff]
  constructor
  · rintro ⟨tag, q', hrun, hrest⟩
    cases tag with
    | none =>
      obtain ⟨rfl, rfl⟩ := run_pure_ok_iff.mp hrest
      exact .inl ⟨hrun, rfl⟩
    | some tag =>
      obtain ⟨width, q'', hwidth, hpure⟩ := run_bind_ok_iff.mp hrest
      obtain ⟨hflex, rfl⟩ := run_ofExcept_ok_iff.mp hwidth
      obtain ⟨rfl, rfl⟩ := run_pure_ok_iff.mp hpure
      exact .inr ⟨tag, width, hrun, hflex, rfl⟩
  · rintro (⟨hrun, rfl⟩ | ⟨tag, width, hrun, hflex, rfl⟩)
    · exact ⟨none, q, hrun, rfl⟩
    · exact ⟨some tag, q, hrun,
        run_bind_ok_iff.mpr ⟨width, q, run_ofExcept_ok_iff.mpr ⟨hflex, rfl⟩, rfl⟩⟩

/-- Columns are rendered with their shares if they are rendered and their shares are defined. By
induction on the columns; a column that does not show needs no share. -/
theorem mapM_renderShare_iff {cs : List Column} {widened : List (Column × Tag)} {p r : Pass} :
    (∃ results, cs.mapM (renderShare s total) source p = (.ok results, r) ∧
        showing cs results = widened) ↔
      ∃ tags, cs.mapM (renderColumnOf s) source p = (.ok tags, r) ∧
        List.Forall₂ (IsWidened total) (showing cs tags) widened := by
  induction cs generalizing p widened with
  | nil =>
    simp only [List.mapM_nil, run_pure_ok_iff]
    constructor
    · rintro ⟨results, ⟨rfl, rfl⟩, rfl⟩
      exact ⟨[], ⟨rfl, rfl⟩, .nil⟩
    · rintro ⟨tags, ⟨rfl, rfl⟩, hwidened⟩
      cases hwidened
      exact ⟨[], ⟨rfl, rfl⟩, rfl⟩
  | cons c cs ih =>
    simp only [List.mapM_cons, run_bind_ok_iff, run_pure_ok_iff]
    constructor
    · rintro ⟨_, ⟨result, q, hfirst, results, _, hrest, rfl, rfl⟩, rfl⟩
      obtain ⟨tags, htags, hwidened⟩ := ih.mp ⟨results, hrest, rfl⟩
      rcases renderShare_ok_iff.mp hfirst with ⟨hrun, rfl⟩ | ⟨tag, width, hrun, hflex, rfl⟩
      · exact ⟨none :: tags, ⟨none, q, hrun, tags, _, htags, rfl, rfl⟩, hwidened⟩
      · exact ⟨some tag :: tags, ⟨some tag, q, hrun, tags, _, htags, rfl, rfl⟩,
          .cons ⟨rfl, width, hflex, rfl⟩ hwidened⟩
    · rintro ⟨_, ⟨tag, q, hrun, tags, _, htags, rfl, rfl⟩, hwidened⟩
      -- a column that does not show gets no width
      cases tag with
      | none =>
        obtain ⟨results, hrest, rfl⟩ := ih.mpr ⟨tags, htags, hwidened⟩
        exact ⟨none :: results, ⟨none, q, renderShare_ok_iff.mpr (.inl ⟨hrun, rfl⟩), results, _,
          hrest, rfl, rfl⟩, rfl⟩
      | some tag =>
        rw [showing_some] at hwidened
        cases hwidened with
        | @cons _ first _ others hfirst hothers =>
          obtain ⟨column, t⟩ := first
          obtain ⟨hcolumn, width, hflex, htag⟩ := hfirst
          dsimp only at hcolumn hflex htag
          subst hcolumn htag
          obtain ⟨results, hrest, rfl⟩ := ih.mpr ⟨tags, htags, hothers⟩
          exact ⟨some (tag.setStyle .flex width) :: results, ⟨_, q,
            renderShare_ok_iff.mpr (.inr ⟨tag, width, hrun, hflex, rfl⟩), results, _,
            hrest, rfl, rfl⟩, rfl⟩

end

/-! ## The row -/

/-- What a row of columns holds after what is in it at first. -/
def columnPieces (host : Host.Config) (row : Tag) (widened : List (Column × Tag)) : List Piece :=
  arrange (fun c => columnSeparator? host c.frame) (!row.children.isEmpty) widened

/-- A row is made of the row without columns, which may be selectable, and of the columns that show
with their shares. -/
theorem renderColumnSet_ok_iff {s : Scene} {c : ColumnSet} {source : IdSource} {p r : Pass}
    {result : Option Tag} :
    renderColumnSet s c source p = (.ok result, r) ↔
      ∃ row q tags widened,
        selectable s c.selectAction emptyRow source p = (.ok row, q) ∧
        c.columns.mapM (renderColumnOf s) source q = (.ok tags, r) ∧
        List.Forall₂ (IsWidened (totalWeight c.columns)) (showing c.columns tags) widened ∧
        result = some (row.appendAll ((columnPieces s.host row widened).map Piece.tag)) := by
  unfold renderColumnSet columnPieces
  simp only [addColumns_eq, addEach_eq, map_eq_pure_bind, run_bind_ok_iff, run_pure_ok_iff]
  constructor
  · rintro ⟨row, q, hrow, _, _, ⟨results, _, hresults, rfl, rfl⟩, rfl, rfl⟩
    obtain ⟨tags, htags, hwidened⟩ := mapM_renderShare_iff.mp ⟨results, hresults, rfl⟩
    exact ⟨row, q, tags, _, hrow, htags, hwidened, rfl⟩
  · rintro ⟨row, q, tags, widened, hrow, htags, hwidened, rfl⟩
    obtain ⟨results, hresults, rfl⟩ := mapM_renderShare_iff.mpr ⟨tags, htags, hwidened⟩
    exact ⟨row, q, hrow, _, r, ⟨results, r, hresults, rfl, rfl⟩, rfl, rfl⟩

/-- Whether what is done to the tags of actions puts no children into them. -/
def Scene.Stamps (s : Scene) : Prop :=
  ∀ action t source p u q, s.transform action t source p = (.ok u, q) → u.children = t.children

/-- What is done at first puts no children into tags. -/
theorem stamps_of_standard {s : Scene} (hs : s.transformers = standardTransformers.get?) :
    s.Stamps := by
  intro action t source p u q h
  obtain ⟨-, -, -, hkeeps⟩ := keeps_transform hs action t source p u q h
  exact hkeeps.children

theorem children_selectable {s : Scene} (hs : s.Stamps) {action : Option Action} {t u : Tag}
    {source : IdSource} {p q : Pass} (h : selectable s action t source p = (.ok u, q)) :
    u.children = t.children := by
  unfold selectable asAction at h
  split at h
  · split at h
    · rw [hs _ _ _ _ _ _ h]
      simp
    · rw [(run_pure_ok_iff.mp h).1]
  · rw [(run_pure_ok_iff.mp h).1]

/-! ## Separators -/

/-- What a separator of columns is for the frame of the column behind it. -/
structure IsColumnSeparator (host : Host.Config) (frame : Frame) (t : Tag) : Prop where
  classes : t.classes = ["ac-columnseparator"]
  border : valueAt? .borderLeftWidth t.styles =
    some (if frame.separator then pixels host.separator.lineThickness else "0px")
  padding : valueAt? .paddingLeft t.styles =
    some (pixels ((host.spacing.pixels frame.spacing).fdiv 2))
  margin : valueAt? .marginLeft t.styles =
    some (pixels ((host.spacing.pixels frame.spacing).fdiv 2))
  children : t.children = []

theorem isSome_columnSeparator? (host : Host.Config) (frame : Frame) :
    (columnSeparator? host frame).isSome = true ↔
      frame.separator = true ∨ frame.spacing ≠ .none := by
  unfold columnSeparator?
  cases frame.separator with
  | true => simp
  | false => by_cases h : frame.spacing = .none <;> simp [h]

theorem isColumnSeparator_of_mem {host : Host.Config} {frame : Frame} {t : Tag}
    (h : columnSeparator? host frame = some t) : IsColumnSeparator host frame t := by
  unfold columnSeparator? at h
  split at h
  · cases h
  · obtain rfl := Option.some.inj h
    refine ⟨rfl, ?_, rfl, rfl, rfl⟩
    cases frame.separator <;> rfl

/-! ## What a row is -/

/-- What a row is for the columns that show, given what stood in it at first. -/
structure IsColumnRow (host : Host.Config) (row : Tag) (widened : List (Column × Tag))
    (result : Tag) : Prop where
  children : result.children = row.children ++ (columnPieces host row widened).map Piece.tag
  /-- Nothing else of the row changes. -/
  others : result = { row with children := result.children }
  columns : (columnPieces host row widened).filterMap Piece.rendered? = widened.map (·.2)
  leads : SeparatorsLead (columnPieces host row widened)
  /-- Told by their class, separators can be taken out again. -/
  removed : row.children = [] → (∀ shown ∈ widened, "ac-columnseparator" ∉ shown.2.classes) →
    result.children.filter (fun t => !t.classes.contains "ac-columnseparator") =
      widened.map (·.2)
  /-- A column asks for a separator by its own line or its own space. -/
  asks : ∀ c : Column, (columnSeparator? host c.frame).isSome = true ↔
    c.frame.separator = true ∨ c.frame.spacing ≠ .none
  separators : ∀ c : Column, ∀ t ∈ columnSeparator? host c.frame,
    IsColumnSeparator host c.frame t

/-- Where separators have a class that rendered tags lack, they can be told apart by it. -/
theorem filter_arrange {α : Type} {separator : α → Option Tag} (isSeparator : Tag → Bool)
    {entries : List (α × Tag)} (hseparator : ∀ a, ∀ t ∈ separator a, isSeparator t = true)
    (hentries : ∀ entry ∈ entries, isSeparator entry.2 = false) (continues : Bool) :
    ((arrange separator continues entries).map Piece.tag).filter (fun t => !isSeparator t) =
      entries.map (·.2) := by
  induction entries generalizing continues with
  | nil => rfl
  | cons entry entries ih =>
    obtain ⟨a, t⟩ := entry
    obtain ⟨hfirst, hrest⟩ := List.forall_mem_cons.mp hentries
    have hkept : (fun t => !isSeparator t) t = true := by
      dsimp only at hfirst ⊢
      rw [hfirst]
      rfl
    have hdrawn : ((if continues then (separator a).toList.map Piece.separator else []).map
        Piece.tag).filter (fun t => !isSeparator t) = [] := by
      cases continues with
      | false => rfl
      | true =>
        cases h : separator a with
        | none => rfl
        | some u => simp [Piece.tag, hseparator a u h]
    rw [arrange_cons, List.map_append, List.filter_append, hdrawn, List.nil_append, List.map_cons,
      List.map_cons, Piece.tag, ← ih hrest true]
    exact List.filter_cons_of_pos hkept

theorem isColumnRow_appendAll (host : Host.Config) (row : Tag) (widened : List (Column × Tag)) :
    IsColumnRow host row widened
      (row.appendAll ((columnPieces host row widened).map Piece.tag)) where
  children := children_appendAll ..
  others := rfl
  columns := rendered_arrange ..
  leads := separatorsLead_arrange _ _ _
  removed hempty hclass := by
    rw [children_appendAll, hempty, List.nil_append]
    refine filter_arrange (fun t => t.classes.contains "ac-columnseparator")
      (fun c t ht => ?_) (fun shown hshown => ?_) _
    · rw [(isColumnSeparator_of_mem ht).classes]
      rfl
    · simpa using hclass shown hshown
  asks c := isSome_columnSeparator? host c.frame
  separators _ _ ht := isColumnSeparator_of_mem ht

end Placard.Render
