import Placard.Proofs.Render.WiredAction
import Placard.Render.Group

/-!
# Cards, containers and columns are wired

What a renderer gives is wired as soon as all that it has rendered below it is (`Scene.Wires`). A
stack of elements is a box that grows by one block after the other, and so is a row of columns; a
strip of actions grows together with the cards that its buttons show.
-/

namespace Placard.Render

open Tag Data Document

/-! ## Scenes -/

/-- What renderers give for an element: a block, if it shows at all. -/
def GivesBlock (new : List String) (tag : Option Tag) : Prop :=
  ∀ t ∈ tag, IsBlock new t

/-- A scene in which everything that is rendered further below is wired. -/
structure Scene.Wires (s : Scene) : Prop where
  transformers : s.transformers = standardTransformers.get?
  convert : ∀ text, Gives (s.convert text) fun tags => ∀ t ∈ descendantsOf tags, IsInert t
  element : ∀ e, Issues (s.render (.element e)) GivesBlock
  action : ∀ a, Issues (s.render (.action a)) (GivesButton (Node.action a).kind)

theorem givesBlock_none (new : List String) : GivesBlock new none :=
  fun _ ht => by cases ht

theorem givesBlock_some {new : List String} {t : Tag} : GivesBlock new (some t) ↔ IsBlock new t := by
  constructor
  · exact fun h => h t rfl
  · intro h u hu
    obtain rfl := Option.some.inj hu
    exact h

section

variable {s : Scene} {new : List String} {t : Tag}

/-! ## Rows and strips -/

theorem IsBox.weaken (ht : IsBox new t) (more : List String) : IsBox (new ++ more) t :=
  ⟨⟨ht.wired.weaken more, ht.plain⟩, ht.inside⟩

theorem WiredStrip.weaken {strip : Strip} (h : WiredStrip new strip) (more : List String) :
    WiredStrip (new ++ more) strip :=
  ⟨h.wired.weaken more, h.notLabel, h.notCard, h.isStrip, h.inside, h.cards⟩

/-- A box with a block more, behind a separator if there is one. -/
theorem IsBox.appendSeparated {more : List String} {u : Tag} (ht : IsBox new t)
    {separator : Option Tag} (hseparator : ∀ t ∈ separator, IsInert t ∧ t.children = [])
    (hu : IsBlock more u) : IsBox (new ++ more) (appendSeparated separator t u) := by
  unfold Render.appendSeparated
  dsimp only
  split
  · exact ht.append hu
  · have hgap : IsBox (new ++ []) (t.appendAll separator.toList) := by
      refine ht.appendAll ?_ ?_
      · cases separator with
        | none => exact .nil
        | some line =>
          obtain ⟨hline, hchildren⟩ := hseparator line rfl
          exact (hline.emptyBox hchildren).wired
      · intro line hline
        exact (hseparator line (Option.mem_toList.mp hline)).1.toIsPlain
    rw [List.append_nil] at hgap
    exact hgap.append hu

theorem separator_inert (host : Host.Config) (spacing : Spacing) (line : Bool) :
    ∀ t ∈ separator? host spacing line, IsInert t ∧ t.children = [] := by
  intro t ht
  unfold separator? at ht
  dsimp only at ht
  split at ht
  · obtain rfl := Option.some.inj ht
    exact ⟨⟨⟨by simp, by simp, by simp⟩, by simp, by simp⟩, by simp⟩
  · split at ht
    · cases ht
    · obtain rfl := Option.some.inj ht
      exact ⟨⟨⟨by simp, by simp, by simp⟩, by simp, by simp⟩, by simp⟩

theorem columnSeparator_inert (host : Host.Config) (frame : Frame) :
    ∀ t ∈ columnSeparator? host frame, IsInert t ∧ t.children = [] := by
  intro t ht
  unfold columnSeparator? at ht
  dsimp only at ht
  split at ht
  · cases ht
  · obtain rfl := Option.some.inj ht
    exact ⟨⟨⟨by simp, by simp, by simp⟩, by simp, by simp⟩, by simp⟩

theorem issues_addElement (hs : s.Wires) (e : Element) (ht : IsBox new t) :
    Issues (addElement s t e) fun more u => IsBox (new ++ more) u := by
  refine (hs.element e).bind fun more tag htag => ?_
  cases tag with
  | none => exact .pure (ht.weaken _)
  | some u =>
    refine .pure ?_
    rw [List.append_nil]
    exact ht.appendSeparated (separator_inert _ _ _) (givesBlock_some.mp htag)

theorem issues_addElements (hs : s.Wires) (es : List Element) :
    ∀ {new : List String} {t : Tag}, IsBox new t →
      Issues (addElements s t es) fun more u => IsBox (new ++ more) u := by
  induction es with
  | nil => exact fun ht => .pure (ht.weaken _)
  | cons e es ih =>
    intro new t ht
    refine (issues_addElement hs e ht).bind fun more u hu => ?_
    refine (ih hu).mono fun most v hv => ?_
    rwa [← List.append_assoc]

theorem issues_addAction (hs : s.Wires) (a : Action) {strip : Strip} (h : WiredStrip new strip) :
    Issues (addAction s strip a) fun more strip => WiredStrip (new ++ more) strip := by
  unfold addAction
  refine (hs.action a).bind fun more tag hbutton => ?_
  cases tag with
  | none => exact .pure (h.weaken _)
  | some button =>
    obtain ⟨hblock, hcardButton⟩ := hbutton button rfl
    have halone (most : List String) : WiredStrip (new ++ (more ++ most))
        { bar := appendButton s.host.actions strip.bar button, cards := strip.cards ++ [] } :=
      h.add hblock.plain (hblock.wired.weaken most)
        (fun _ _ _ ht => absurd ht List.not_mem_nil) _
    dsimp only
    split
    · next card hcard =>
      -- only an action that shows a card has one, and then its button holds a link
      have hkind : (Node.action a).kind = "Action.ShowCard" := by
        cases a with
        | showCard => rfl
        | _ => cases hcard
      refine (hs.element (.card card)).bind fun most tag htag => .pure ?_
      cases tag with
      | none => exact halone _
      | some t =>
        obtain ⟨hwired, hshown⟩ := wired_shownCard hblock (hcardButton hkind)
          (givesBlock_some.mp htag) s.host.actions
        rw [List.append_nil]
        refine h.add hblock.plain hwired ?_ _
        intro bar hbar u hu
        rw [List.mem_singleton.mp hu]
        exact hshown bar hbar
    · exact .pure (halone _)

theorem issues_addActions (hs : s.Wires) (as : List Action) :
    ∀ {new : List String} {strip : Strip}, WiredStrip new strip →
      Issues (addActions s strip as) fun more strip => WiredStrip (new ++ more) strip := by
  induction as with
  | nil => exact fun h => .pure (h.weaken _)
  | cons a as ih =>
    intro new strip h
    refine (issues_addAction hs a h).bind fun more strip' h' => ?_
    refine (ih h').mono fun most strip'' h'' => ?_
    rwa [← List.append_assoc]

/-- A box with a strip below what is in it, and with the cards of that strip. -/
theorem IsBox.appendStrip {more : List String} (ht : IsBox new t) {strip : Strip}
    (h : WiredStrip more strip) (host : Host.Config) :
    IsBlock (new ++ more) (appendStrip host t strip) := by
  have hseparator := separator_inert host host.actions.spacing false
  unfold Render.appendStrip
  dsimp only
  generalize separator? host host.actions.spacing false = separator at hseparator ⊢
  split
  · next hempty =>
    -- a strip without buttons has no cards either
    have hcards : strip.cards = [] := by
      rw [List.eq_nil_iff_forall_not_mem]
      intro card hcard
      obtain ⟨-, -, -, -, button, hbutton, -⟩ := h.cards card hcard
      rw [List.isEmpty_iff.mp hempty] at hbutton
      exact List.not_mem_nil hbutton
    have hsame := (ht.weaken more).toIsBlock
    rw [hcards]
    exact hsame.congr ⟨ht.plain.1, ht.plain.2, ht.plain.3⟩ (List.append_nil _) rfl rfl
  · have heq : ((t.appendAll separator.toList).append strip.bar).appendAll strip.cards =
        t.appendAll (separator.toList ++ strip.bar :: strip.cards) := by
      simp [Tag.appendAll, Tag.append]
    rw [heq]
    have hline : Wired [] separator.toList ∧ ∀ u ∈ separator.toList, IsPlain u := by
      cases separator with
      | none => exact ⟨.nil, fun _ hu => absurd hu List.not_mem_nil⟩
      | some line =>
        obtain ⟨hinert, hchildren⟩ := hseparator line rfl
        exact ⟨(hinert.emptyBox hchildren).wired, List.forall_mem_singleton.mpr hinert.toIsPlain⟩
    have hrow := wiredRow_strip (List.forall_mem_append.mpr ⟨ht.inside, hline.2⟩) h.notLabel
      h.notCard h.isStrip h.cards
    rw [List.append_assoc] at hrow
    exact ⟨ht.wired.appendAll (hline.1.append h.wired) hrow,
      ⟨ht.plain.1, ht.plain.2, ht.plain.3⟩⟩

theorem issues_addStrip (hs : s.Wires) (as : List Action) (ht : IsBox new t) :
    Issues (addStrip s t as) fun more u => IsBlock (new ++ more) u := by
  unfold addStrip
  split
  · exact (issues_addActions hs _ (wiredStrip_empty s.host.actions)).give fun more strip h =>
      ht.appendStrip h s.host
  · exact .pure (ht.weaken _).toIsBlock

/-! ## Cards, stacks and rows -/

theorem cardFrame_inert (host : Host.Config) (image : Option String) :
    IsInert (cardFrame host image) ∧ (cardFrame host image).children = [] := by
  have hclass : kindClass "AdaptiveCard" = "ac-adaptivecard" := by decide
  unfold cardFrame
  dsimp only
  split <;> split <;>
    exact ⟨⟨⟨by simp, by simp [hclass], by simp [hclass]⟩, by simp, by simp⟩, by simp⟩

theorem issues_renderCard (hs : s.Wires) (c : Card) : Issues (renderCard s c) GivesBlock := by
  obtain ⟨hinert, hchildren⟩ := cardFrame_inert s.host c.backgroundImage
  refine (issues_addElements hs c.body (hinert.emptyBox hchildren)).bind fun new t ht => ?_
  exact (issues_addStrip hs c.actions ht).give fun more u hu => givesBlock_some.mpr hu

theorem issues_renderStack (hs : s.Wires) {kind : String}
    (hkind : kindClass kind ≠ "ac-showCard" ∧ kindClass kind ≠ "ac-actionset")
    (items : List Element) (action : Option Action) :
    Issues (renderStack s kind items action) GivesBlock := by
  have hinert : IsInert ((Tag.named "div").addClass (kindClass kind)) :=
    ⟨⟨by simp, by simpa using fun _ => Ne.symm hkind.1, by simpa using fun _ => Ne.symm hkind.2⟩,
      by simp, by simp⟩
  refine (issues_addElements hs items (hinert.emptyBox (by simp))).bind fun new t ht => ?_
  exact (issues_selectable hs.transformers action ht).give fun more u hu =>
    givesBlock_some.mpr hu.toIsBlock

theorem issues_addColumn (hs : s.Wires) (total : Number.Double) (c : Column) (ht : IsBox new t) :
    Issues (addColumn s total t c) fun more u => IsBox (new ++ more) u := by
  unfold addColumn
  refine (hs.element (.column c)).bind fun more tag htag => ?_
  cases tag with
  | none => exact .pure (ht.weaken _)
  | some u =>
    refine .read fun width => .pure ?_
    have hu := givesBlock_some.mp htag
    have hstyled : IsBlock more (u.setStyle .flex width) :=
      hu.congr ⟨hu.plain.1, hu.plain.2, hu.plain.3⟩ rfl rfl rfl
    rw [List.append_nil]
    exact ht.appendSeparated (columnSeparator_inert _ _) hstyled

theorem issues_addColumns (hs : s.Wires) (total : Number.Double) (cs : List Column) :
    ∀ {new : List String} {t : Tag}, IsBox new t →
      Issues (addColumns s total t cs) fun more u => IsBox (new ++ more) u := by
  induction cs with
  | nil => exact fun ht => .pure (ht.weaken _)
  | cons c cs ih =>
    intro new t ht
    refine (issues_addColumn hs total c ht).bind fun more u hu => ?_
    refine (ih hu).mono fun most v hv => ?_
    rwa [← List.append_assoc]

theorem emptyRow_inert : IsInert emptyRow ∧ emptyRow.children = [] := by
  have hclass : kindClass "ColumnSet" = "ac-columnset" := by decide
  unfold emptyRow
  exact ⟨⟨⟨by simp, by simp [hclass], by simp [hclass]⟩, by simp, by simp⟩, by simp⟩

theorem issues_renderColumnSet (hs : s.Wires) (c : ColumnSet) :
    Issues (renderColumnSet s c) GivesBlock := by
  obtain ⟨hinert, hchildren⟩ := emptyRow_inert
  refine (issues_selectable hs.transformers c.selectAction (hinert.emptyBox hchildren)).bind
    fun new row hrow => ?_
  exact (issues_addColumns hs (totalWeight c.columns) c.columns hrow).give fun more u hu =>
    givesBlock_some.mpr hu.toIsBlock

end

end Placard.Render
