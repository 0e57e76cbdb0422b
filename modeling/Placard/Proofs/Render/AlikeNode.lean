import Placard.Proofs.Render.Alike
import Placard.Proofs.Render.Standard

/-!
# Nodes are rendered alike

A renderer takes ids and puts them into tags, but it never looks at one. So two passes call for the
same nodes in the same order, and what they have put together so far are twins at every step.

Texts and most inputs take no ids at all, so their tags are the same in both passes. Where a control
has a label, the id that joins them is issued once in either pass.
-/

namespace Placard.Render

open Tag Data Document

/-! ## Actions -/

section

variable {s : Scene} {ids : IdPairs} {t u : Tag}

theorem alike_linkAddress (action : Node) (h : Twin ids t u) :
    Alike ids (linkAddress action t) (linkAddress action u) Twin := by
  rw [linkAddress_eq, linkAddress_eq]
  exact .read fun more url => .pure ((h.mono more).setAttr _ _)

theorem alike_linkData (action : Node) (h : Twin ids t u) :
    Alike ids (linkData action t) (linkData action u) Twin := by
  rw [linkData_eq, linkData_eq]
  exact .read fun more text => .pure ((h.mono more).setAttr _ _)

theorem alike_linkCard (action : Node) (h : Twin ids t u) :
    Alike ids (linkCard action t) (linkCard action u) Twin := by
  refine Alike.freshId.bind fun more id id' hid => .pure ?_
  exact (h.mono more).setId (by decide) (.inr hid)

theorem alike_transform (hs : s.transformers = standardTransformers.get?) (action : Node)
    (h : Twin ids t u) : Alike ids (s.transform action t) (s.transform action u) Twin := by
  refine transform_cases (P := fun treat => Alike ids (treat t) (treat u) Twin) hs action
    ?_ ?_ ?_ ?_
  · exact fun _ => alike_linkAddress action h
  · exact fun _ => alike_linkData action h
  · exact fun _ => alike_linkCard action h
  · exact fun _ => .pure h

theorem alike_asAction (hs : s.transformers = standardTransformers.get?) (action : Node)
    (h : Twin ids t u) : Alike ids (asAction s action t) (asAction s action u) Twin :=
  alike_transform hs action (((h.addClass _).setAttr _ _).setAttr _ _)

theorem alike_selectable (hs : s.transformers = standardTransformers.get?) (action : Option Action)
    (h : Twin ids t u) : Alike ids (selectable s action t) (selectable s action u) Twin := by
  unfold selectable
  split
  · split
    · exact alike_asAction hs _ (h.addClass _)
    · exact .pure h
  · exact .pure h

theorem alike_renderAction (hs : s.transformers = standardTransformers.get?) (action : Node) :
    Alike ids (renderAction s action) (renderAction s action) MaybeTwin := by
  unfold renderAction
  split
  · refine (alike_asAction hs action (.refl _)).bind fun more t u h => .pure ?_
    exact .some h
  · exact .pure .none

/-! ## Elements -/

/-- A scene in which everything that is rendered further below is rendered alike. -/
structure Scene.IsSteady (s : Scene) : Prop where
  transformers : s.transformers = standardTransformers.get?
  render : ∀ (ids : IdPairs) (node : Node), Alike ids (s.render node) (s.render node) MaybeTwin

theorem Twin.appendSeparated {t' u' : Tag} (h : Twin ids t u) (h' : Twin ids t' u')
    (separator : Option Tag) :
    Twin ids (appendSeparated separator t t') (appendSeparated separator u u') := by
  unfold Render.appendSeparated
  dsimp only
  rw [h.children_isEmpty]
  split
  · exact h.append h'
  · exact (h.appendAll (Twins.refl _)).append h'

theorem alike_addElement (hs : s.IsSteady) (e : Element) (h : Twin ids t u) :
    Alike ids (addElement s t e) (addElement s u e) Twin := by
  refine (hs.render ids (.element e)).bind fun more tag tag' htag => ?_
  cases htag with
  | none => exact .pure (h.mono more)
  | some htwin => exact .pure ((h.mono more).appendSeparated htwin _)

theorem alike_addElements (hs : s.IsSteady) (es : List Element) (h : Twin ids t u) :
    Alike ids (addElements s t es) (addElements s u es) Twin := by
  induction es generalizing ids t u with
  | nil => exact .pure h
  | cons e es ih => exact (alike_addElement hs e h).bind fun more t' u' h' => ih h'

/-! ## Strips of actions -/

/-- Strips whose bars are twins and whose cards are twins one by one. -/
structure TwinStrip (ids : IdPairs) (a b : Strip) : Prop where
  bar : Twin ids a.bar b.bar
  cards : Twins ids a.cards b.cards

theorem TwinStrip.mono {a b : Strip} (h : TwinStrip ids a b) (more : IdPairs) :
    TwinStrip (ids ++ more) a b :=
  ⟨h.bar.mono more, h.cards.mono more⟩

theorem Twin.appendButton {t' u' : Tag} (h : Twin ids t u) (h' : Twin ids t' u')
    (layout : Host.ActionLayout) :
    Twin ids (appendButton layout t t') (appendButton layout u u') := by
  unfold Render.appendButton
  dsimp only
  rw [h.children_isEmpty]
  split
  · exact (h.append (.refl _)).append h'
  · exact h.append h'

/-- The id of a card is the link of its button, whatever that is. -/
theorem Twin.shownCard {t' u' : Tag} (h : Twin ids t u) (h' : Twin ids t' u')
    (layout : Host.ActionLayout) : Twin ids (shownCard layout t t') (shownCard layout u u') :=
  ((((h'.setId (by decide) (h.attr_getD cardLink)).addClass _).setStyle _ _).setStyle _ _).setStyle
    _ _

theorem alike_addAction (hs : s.IsSteady) (a : Action) {strip strip' : Strip}
    (h : TwinStrip ids strip strip') :
    Alike ids (addAction s strip a) (addAction s strip' a) TwinStrip := by
  unfold addAction
  refine (hs.render ids (.action a)).bind fun more tag tag' hbutton => ?_
  cases hbutton with
  | none => exact .pure (h.mono more)
  | @some button button' hbutton =>
    have hadd {ids : IdPairs} {tag tag' : Option Tag} (h : TwinStrip ids strip strip')
        (hbutton : Twin ids button button') (htag : MaybeTwin ids tag tag') : TwinStrip ids
        { bar := appendButton s.host.actions strip.bar button
          cards := strip.cards ++ (tag.map (shownCard s.host.actions button)).toList }
        { bar := appendButton s.host.actions strip'.bar button'
          cards := strip'.cards ++ (tag'.map (shownCard s.host.actions button')).toList } :=
      ⟨h.bar.appendButton hbutton _,
        h.cards.append (htag.map fun _ _ hcard => hbutton.shownCard hcard _).toList⟩
    dsimp only
    -- the action alone says whether there is a card to render, in both passes
    cases cardOf? a with
    | none => exact .pure (hadd (h.mono more) hbutton .none)
    | some card =>
      refine (hs.render _ (.element (.card card))).bind fun most tag tag' htag => .pure ?_
      exact hadd ((h.mono more).mono most) (hbutton.mono most) htag

theorem alike_addActions (hs : s.IsSteady) (as : List Action) {strip strip' : Strip}
    (h : TwinStrip ids strip strip') :
    Alike ids (addActions s strip as) (addActions s strip' as) TwinStrip := by
  induction as generalizing ids strip strip' with
  | nil => exact .pure h
  | cons a as ih => exact (alike_addAction hs a h).bind fun more strip strip' h' => ih h'

theorem Twin.appendStrip (h : Twin ids t u) {strip strip' : Strip}
    (hstrip : TwinStrip ids strip strip') (host : Host.Config) :
    Twin ids (appendStrip host t strip) (appendStrip host u strip') := by
  unfold Render.appendStrip
  dsimp only
  rw [hstrip.bar.children_isEmpty]
  split
  · exact h.appendAll hstrip.cards
  · exact ((h.appendAll (Twins.refl _)).append hstrip.bar).appendAll hstrip.cards

theorem alike_addStrip (hs : s.IsSteady) (as : List Action) (h : Twin ids t u) :
    Alike ids (addStrip s t as) (addStrip s u as) Twin := by
  unfold addStrip
  split
  · have hstrip : Alike ids (stripOf s as) (stripOf s as) TwinStrip :=
      alike_addActions hs _ ⟨.refl _, .nil⟩
    exact hstrip.bind fun more strip strip' hstrip => .pure ((h.mono more).appendStrip hstrip s.host)
  · exact .pure h

/-! ## Cards, stacks and rows -/

theorem alike_renderCard (hs : s.IsSteady) (c : Card) :
    Alike ids (renderCard s c) (renderCard s c) MaybeTwin := by
  refine (alike_addElements hs c.body (.refl _)).bind fun more t u h => ?_
  refine (alike_addStrip hs c.actions h).bind fun more' t' u' h' => .pure ?_
  exact .some h'

theorem alike_renderStack (hs : s.IsSteady) (kind : String) (items : List Element)
    (action : Option Action) :
    Alike ids (renderStack s kind items action) (renderStack s kind items action) MaybeTwin := by
  refine (alike_addElements hs items (.refl _)).bind fun more t u h => ?_
  refine (alike_selectable hs.transformers action h).bind fun more' t' u' h' => .pure ?_
  exact .some h'

theorem alike_addColumn (hs : s.IsSteady) (total : Number.Double) (c : Column) (h : Twin ids t u) :
    Alike ids (addColumn s total t c) (addColumn s total u c) Twin := by
  refine (hs.render ids (.element (.column c))).bind fun more tag tag' htag => ?_
  cases htag with
  | none => exact .pure (h.mono more)
  | some htwin =>
    refine .read fun most width => .pure ?_
    exact ((h.mono more).mono most).appendSeparated ((htwin.mono most).setStyle _ _) _

theorem alike_addColumns (hs : s.IsSteady) (total : Number.Double) (cs : List Column)
    (h : Twin ids t u) : Alike ids (addColumns s total t cs) (addColumns s total u cs) Twin := by
  induction cs generalizing ids t u with
  | nil => exact .pure h
  | cons c cs ih => exact (alike_addColumn hs total c h).bind fun more t' u' h' => ih h'

theorem alike_renderColumnSet (hs : s.IsSteady) (c : ColumnSet) :
    Alike ids (renderColumnSet s c) (renderColumnSet s c) MaybeTwin := by
  refine (alike_selectable hs.transformers c.selectAction (.refl emptyRow)).bind
    fun more t u h => ?_
  refine (alike_addColumns hs _ c.columns h).bind fun more' t' u' h' => .pure ?_
  exact .some h'

end

section

variable {s : Scene} {ids : IdPairs}

/-! ## Facts and images -/

theorem alike_factRow (hs : s.IsSteady) (f : Fact) :
    Alike ids (factRow s f) (factRow s f) Twin := by
  unfold factRow
  refine (hs.render ids _).bind fun more title title' htitle => ?_
  refine (hs.render _ _).bind fun more' value value' hvalue => .pure ?_
  have htitle' := (htitle.mono more').map fun _ _ h =>
    (h.addClass "ac-facttitle").setStyle .marginRight (pixels s.host.factSet.spacing)
  have hvalue' := hvalue.map fun _ _ h => h.addClass "ac-factvalue"
  exact ((Twin.refl _).append ((Twin.refl _).appendAll htitle'.toList)).append
    ((Twin.refl _).appendAll hvalue'.toList)

theorem alike_renderFactSet (hs : s.IsSteady) (facts : FactSet) :
    Alike ids (renderFactSet s facts) (renderFactSet s facts) MaybeTwin := by
  have hrows : Alike ids (facts.facts.mapM (factRow s)) (facts.facts.mapM (factRow s)) Twins :=
    .mapM (fun _ more _ _ h => h.mono more) _ fun f _ _ => alike_factRow hs f
  refine hrows.bind fun more rows rows' h => .pure ?_
  exact .some ((Twin.refl _).appendAll h)

theorem alike_renderImage (hs : s.IsSteady) (i : Image) :
    Alike ids (renderImage s i) (renderImage s i) MaybeTwin := by
  refine (alike_selectable hs.transformers i.selectAction (.refl _)).bind fun more t u h => .pure ?_
  exact .some h

theorem alike_setMember (hs : s.IsSteady) (size : ImageSize) (i : Image) :
    Alike ids (setMember s size i) (setMember s size i) MaybeTwin := by
  refine (hs.render ids _).bind fun more tag tag' htag => .pure ?_
  exact htag.map fun _ _ h => (h.setStyle _ _).setStyle _ _

theorem Twins.reduceOption {tags tags' : List (Option Tag)}
    (h : List.Forall₂ (MaybeTwin ids) tags tags') :
    Twins ids tags.reduceOption tags'.reduceOption := by
  induction h with
  | nil => exact .nil
  | cons htag _ ih =>
    cases htag with
    | none => exact ih
    | some htwin => exact .cons htwin ih

theorem alike_renderImageSet (hs : s.IsSteady) (images : ImageSet) :
    Alike ids (renderImageSet s images) (renderImageSet s images) MaybeTwin := by
  have htags : Alike ids (images.images.mapM (setMember s images.imageSize))
      (images.images.mapM (setMember s images.imageSize))
      fun ids => List.Forall₂ (MaybeTwin ids) :=
    .mapM (fun _ more _ _ h => h.mono more) _ fun i _ _ => alike_setMember hs _ i
  refine htags.bind fun more tags tags' h => .pure ?_
  exact .some ((Twin.refl _).appendAll (.reduceOption h))

/-! ## Choices and toggles -/

theorem twin_label (s : Scene) {id id' : String} (hid : (id, id') ∈ ids) (text : String) :
    Twin ids (label s id text) (label s id' text) := by
  have hlabel : Twin ids (((Tag.named "label").setText (some text)).setAttr "for" id)
      (((Tag.named "label").setText (some text)).setAttr "for" id') :=
    (Twin.refl _).setId (by decide) (.inr hid)
  exact ((((hlabel.setStyle _ _).setStyle _ _).setStyle _ _).setStyle _ _).setStyle _ _

theorem twin_input {id id' : String} (hid : (id, id') ∈ ids) :
    Twin ids ((Tag.named "input").setAttr "id" id) ((Tag.named "input").setAttr "id" id') :=
  (Twin.refl _).setId (by decide) (.inr hid)

theorem twin_choiceControl (control : Control) (name : String) {id id' : String}
    (hid : (id, id') ∈ ids) (chosen : List String) (c : Choice) :
    Twin ids (choiceControl control name id chosen c) (choiceControl control name id' chosen c) := by
  have hnamed := (((twin_input hid).setAttr "type" control.name).setAttr "name" name).setAttr "value"
    c.value
  have hstyled := ((hnamed.setStyle .margin "0px").setStyle .display "inline-block").setStyle
    .verticalAlign "middle"
  unfold choiceControl
  dsimp only
  split
  · exact hstyled.setAttr _ _
  · exact hstyled

theorem alike_choiceRow (s : Scene) (control : Control) (name : String) (chosen : List String)
    (c : Choice) : Alike ids (choiceRow s control name chosen c) (choiceRow s control name chosen c)
      Twin := by
  refine Alike.freshId.bind fun more id id' hid => .pure ?_
  exact ((Twin.refl _).append (twin_choiceControl control name hid chosen c)).append
    (twin_label s hid c.title)

theorem alike_choiceList (s : Scene) (c : ChoiceSet) (control : Control) :
    Alike ids (choiceList s c control) (choiceList s c control) Twin := by
  have hrows : Alike ids
      (c.choices.mapM (choiceRow s control (submitName c.frame) (chosenValues c.value)))
      (c.choices.mapM (choiceRow s control (submitName c.frame) (chosenValues c.value))) Twins :=
    .mapM (fun _ more _ _ h => h.mono more) _ fun c _ _ => alike_choiceRow s _ _ _ c
  exact hrows.bind fun more rows rows' h => .pure ((Twin.refl _).appendAll h)

theorem alike_renderChoiceSet (s : Scene) (c : ChoiceSet) :
    Alike ids (renderChoiceSet s c) (renderChoiceSet s c) MaybeTwin := by
  have hlist (control : Control) : Alike ids (do return some (← choiceList s c control))
      (do return some (← choiceList s c control)) MaybeTwin :=
    (alike_choiceList s c control).bind fun more t u h => .pure (.some h)
  unfold renderChoiceSet
  split
  · exact hlist _
  · split
    · exact .pure (.refl _)
    · exact hlist _

theorem twin_toggleControl {id id' : String} (hid : (id, id') ∈ ids) (name on off : String)
    (isOn : Bool) :
    Twin ids (toggleControl id name on off isOn) (toggleControl id' name on off isOn) := by
  have hnamed := ((((twin_input hid).setAttr "type" "checkbox").setAttr "name" name).setAttr
    "data-ac-valueOn" on).setAttr "data-ac-valueOff" off
  have hstyled := ((hnamed.setStyle .display "inline-block").setStyle .verticalAlign
    "middle").setStyle .margin "0px"
  unfold toggleControl
  dsimp only
  split
  · exact hstyled.setAttr _ _
  · exact hstyled

theorem alike_renderToggle (s : Scene) (t : Toggle) :
    Alike ids (renderToggle s t) (renderToggle s t) MaybeTwin := by
  refine Alike.freshId.bind fun more id id' hid => .pure ?_
  exact .some (((Twin.refl _).append (twin_toggleControl hid _ _ _ _)).append
    (twin_label s hid t.title))

/-! ## Misplaced nodes -/

variable (get : String → Except Fault Value)

theorem alike_misplacedChoices :
    Alike ids (misplacedChoices get) (misplacedChoices get) Twin := by
  refine Alike.read fun more _ => Alike.read fun more' choices => ?_
  cases choices with
  | nil => exact .pure (.refl _)
  | cons v vs => exact Alike.freshId.bind fun _ _ _ _ => .tag _

theorem alike_misplacedChoiceSet (frame : Frame) :
    Alike ids (misplacedChoiceSet frame get) (misplacedChoiceSet frame get) Twin := by
  unfold misplacedChoiceSet
  refine Alike.read fun more several => ?_
  split
  · exact alike_misplacedChoices get
  · refine Alike.read fun more' style => ?_
    split
    · exact .tag _
    · exact alike_misplacedChoices get

theorem alike_misplacedToggle (frame : Frame) :
    Alike ids (misplacedToggle s frame get) (misplacedToggle s frame get) Twin := by
  unfold misplacedToggle
  refine Alike.freshId.bind fun more id id' hid => ?_
  refine Alike.read fun more₁ on => Alike.read fun more₂ off => ?_
  refine Alike.read fun more₃ value => Alike.read fun more₄ title => .pure ?_
  have hid' := List.mem_append_left more₄ (List.mem_append_left more₃
    (List.mem_append_left more₂ (List.mem_append_left more₁ hid)))
  exact ((Twin.refl _).append (twin_toggleControl hid' _ _ _ _)).append
    ((twin_label s hid' "").setText _)

theorem alike_renderMisplaced (hs : s.IsSteady) (node : Node) (u : Unknown) :
    Alike ids (renderMisplaced s node u) (renderMisplaced s node u) MaybeTwin := by
  unfold renderMisplaced
  dsimp only
  split
  case h_9 => exact (alike_misplacedChoiceSet _ _).maybe
  case h_14 => exact (alike_misplacedToggle _ _).maybe
  case h_15 => exact alike_renderAction hs.transformers node
  -- nodes of all other kinds take no ids
  all_goals exact (Alike.tag _).maybe

end

end Placard.Render
