import Placard.Proofs.Render.Landmark
import Placard.Proofs.Render.WiredContent

/-!
# Groups mirror what they hold

The tag of a group has the landmark of the group, and in it the landmarks of what is rendered for
the parts of the group, if those are the landmarks of what shows of the parts (`Scene.Mirrors`).
Separators, spaces and the bar of a strip are no landmarks, so they stand between the others without
being seen. The cards that actions show stand behind all buttons.
-/

namespace Placard.Render

open Tag Document

/-! ## Actions keep landmarks -/

/-- The class that says what an action does is no class of landmarks. -/
theorem actionClass_not_mem (kind : String) : actionClass kind ∉ landmarkClasses := by
  have hother : ∀ c ∈ landmarkClasses, c.toList.take 10 ≠ "ac-action-".toList := by decide
  intro hmem
  refine hother _ hmem ?_
  rw [actionClass, String.toList_append]
  rfl

section

variable {s : Scene} (hs : s.transformers = standardTransformers.get?)

include hs

theorem keeps_transform (action : Node) (t : Tag) :
    Issues (s.transform action t) fun _ u => Keeps t u := by
  refine transform_cases (P := fun treat => Issues (treat t) fun _ u => Keeps t u) hs action
    ?_ ?_ ?_ ?_
  · intro _
    rw [linkAddress_eq]
    exact .read fun url => .pure ((Keeps.refl t).setAttr (by decide) _)
  · intro _
    rw [linkData_eq]
    exact .read fun text => .pure ((Keeps.refl t).setAttr (by decide) _)
  · exact fun _ => issues_freshId.give fun _ id _ => (Keeps.refl t).setAttr (by decide) _
  · exact fun _ => .pure (Keeps.refl t)

theorem keeps_asAction (action : Node) (t : Tag) :
    Issues (asAction s action t) fun _ u => Keeps t u := by
  have hlabelled (label : String) : Keeps t ((t.addClass (actionClass action.kind)).setAttr
      "role" "button" |>.setAttr "aria-label" label) :=
    (((Keeps.refl t).addClass (actionClass_not_mem _)).setAttr (by decide) _).setAttr (by decide) _
  exact (keeps_transform hs action _).mono fun _ u hu => (hlabelled _).trans hu

theorem keeps_selectable (action : Option Action) (t : Tag) :
    Issues (selectable s action t) fun _ u => Keeps t u := by
  unfold selectable
  split
  · split
    · exact (keeps_asAction hs _ _).mono fun _ u hu =>
        ((Keeps.refl t).addClass (by decide)).trans hu
    · exact .pure (Keeps.refl t)
  · exact .pure (Keeps.refl t)

end

/-! ## Frames and what they hold -/

/-- A tag with these marks of its own, and with the landmarks of these nodes in it. -/
structure Holds (convert : String → Except Fault (List Tag)) (own : List String) (ns : List Node)
    (t : Tag) : Prop where
  mark : marks t = own
  inside : Reflects convert ns t.children

section

variable {convert : String → Except Fault (List Tag)} {own : List String} {ns ms bs cs : List Node}
  {t u : Tag} {ts : List Tag}

theorem Holds.appendAll (h : Holds convert own ns t) (hts : Reflects convert ms ts) :
    Holds convert own (ns ++ ms) (t.appendAll ts) :=
  ⟨h.mark, h.inside.append hts⟩

theorem Holds.append (h : Holds convert own ns t) (hu : Reflects convert ms [u]) :
    Holds convert own (ns ++ ms) (t.append u) :=
  h.appendAll hu

/-- Nodes that do not show are held by any tag. -/
theorem Holds.nothing (h : Holds convert own ns t) (hnone : Reflects convert ms []) :
    Holds convert own (ns ++ ms) t := by
  refine ⟨h.mark, ?_⟩
  have hall := h.inside.append hnone
  rwa [List.append_nil] at hall

theorem Holds.keeps (h : Holds convert own ns t) (hk : Keeps t u) : Holds convert own ns u :=
  ⟨hk.mark.trans h.mark, hk.children ▸ h.inside⟩

/-- A frame with nothing in it. -/
theorem holds_empty (hmark : marks t = own) (hchildren : t.children = []) :
    Holds convert own [] t :=
  ⟨hmark, hchildren ▸ reflects_nil⟩

/-- A separator is no landmark. -/
theorem Holds.appendSeparated (h : Holds convert own ns t) {separator : Option Tag}
    (hseparator : Reflects convert [] separator.toList) (hu : Reflects convert ms [u]) :
    Holds convert own (ns ++ ms) (appendSeparated separator t u) := by
  unfold Render.appendSeparated
  dsimp only
  split
  · exact h.append hu
  · have hgap := h.appendAll hseparator
    rw [List.append_nil] at hgap
    exact hgap.append hu

theorem reflects_separator (host : Host.Config) (spacing : Spacing) (line : Bool) :
    Reflects convert [] (separator? host spacing line).toList := by
  refine reflects_of_unmarked ?_
  unfold separator?
  dsimp only
  split
  · simp [landmarkClasses]
  · split <;> simp [landmarkClasses]

theorem reflects_columnSeparator (host : Host.Config) (frame : Frame) :
    Reflects convert [] (columnSeparator? host frame).toList := by
  refine reflects_of_unmarked ?_
  unfold columnSeparator?
  dsimp only
  split <;> simp [landmarkClasses]

/-- A strip with buttons for these actions and with the landmarks of these cards. -/
structure HoldsStrip (convert : String → Except Fault (List Tag)) (bs cs : List Node)
    (strip : Strip) : Prop where
  bar : Holds convert [] bs strip.bar
  cards : Reflects convert cs strip.cards

theorem holdsStrip_empty (layout : Host.ActionLayout) :
    HoldsStrip convert [] [] { bar := emptyBar layout, cards := [] } := by
  refine ⟨?_, reflects_nil⟩
  unfold emptyBar
  dsimp only
  split <;> exact holds_empty (by simp [landmarkClasses]) (by simp)

theorem Holds.appendButton (h : Holds convert [] bs t) (layout : Host.ActionLayout)
    (hu : Reflects convert ms [u]) : Holds convert [] (bs ++ ms) (appendButton layout t u) := by
  have hgap : Reflects convert [] [gap layout] := by
    refine reflects_of_unmarked ?_
    unfold gap
    dsimp only
    split <;> simp
  unfold Render.appendButton
  dsimp only
  split
  · have hspaced := h.append hgap
    rw [List.append_nil] at hspaced
    exact hspaced.append hu
  · exact h.append hu

theorem keeps_shownCard (layout : Host.ActionLayout) (button t : Tag) :
    Keeps t (shownCard layout button t) :=
  ((((((Keeps.refl t).setAttr (by decide) _).addClass (by decide)).setStyle _ _).setStyle _
    _).setStyle _ _)

theorem Holds.appendStrip (h : Holds convert own ns t) (host : Host.Config) {strip : Strip}
    (hstrip : HoldsStrip convert bs cs strip) :
    Holds convert own (ns ++ (bs ++ cs)) (appendStrip host t strip) := by
  have hbar : Reflects convert bs [strip.bar] :=
    (reflects_plain hstrip.bar.mark).mpr hstrip.bar.inside
  unfold Render.appendStrip
  dsimp only
  rw [← List.append_assoc]
  refine Holds.appendAll ?_ hstrip.cards
  split
  · next hempty =>
    -- without buttons there is no bar, and no node that it would be for
    have hnone := hstrip.bar.inside
    rw [List.isEmpty_iff.mp hempty, Reflects, descendantsOf_nil, List.filter_nil] at hnone
    cases hnone
    rwa [List.append_nil]
  · have hgap := h.appendAll (reflects_separator host host.actions.spacing false)
    rw [List.append_nil] at hgap
    exact hgap.append hbar

end

/-! ## Groups -/

/-- The landmarks of what is rendered for a node are the nodes that show of it. -/
def Scene.Mirrors (s : Scene) (n : Node) : Prop :=
  Issues (s.render n) fun _ tag => Reflects s.convert (visible s.host n) tag.toList

/-- Whether an element only groups others. -/
def isGroup : Element → Bool
  | .card _ => true
  | .container _ => true
  | .column _ => true
  | .columnSet _ => true
  | .factSet _ => true
  | .imageSet _ => true
  | _ => false

theorem shows_group {convert : String → Except Fault (List Tag)} {e : Element} {t : Tag}
    (he : isGroup e = true) (h : marks t = [kindClass e.kind]) : Shows convert (.element e) t := by
  have hinput : isInput e = false := by cases e <;> first | rfl | cases he
  refine ⟨by rw [h, landmarkClass, hinput]; rfl, ?_, ?_, ?_, nofun⟩
  · rintro b hb
    obtain rfl := Node.element.inj hb
    cases he
  · rintro i hi
    obtain rfl := Node.element.inj hi
    cases he
  · rintro e' he' hinput'
    obtain rfl := Node.element.inj he'
    rw [hinput] at hinput'
    cases hinput'

/-- A frame for a group that holds what shows of its parts. -/
theorem Holds.group {convert : String → Except Fault (List Tag)} {e : Element} {ns : List Node}
    {t : Tag} (h : Holds convert [kindClass e.kind] ns t) (he : isGroup e = true) :
    Reflects convert (.element e :: ns) [t] :=
  .landmark (shows_group he h.mark) h.inside

section

variable {s : Scene} {own : List String} {ns bs cs : List Node} {t : Tag}

theorem mirror_addElements {es : List Element} (h : ∀ e ∈ es, s.Mirrors (.element e))
    (ht : Holds s.convert own ns t) : Issues (addElements s t es) fun _ u =>
      Holds s.convert own (ns ++ (es.map Node.element).flatMap (visible s.host)) u := by
  induction es generalizing t ns with
  | nil =>
    refine .pure ?_
    rwa [List.map_nil, List.flatMap_nil, List.append_nil]
  | cons e es ih =>
    rw [List.forall_mem_cons] at h
    have hfirst : Issues (addElement s t e) fun _ u =>
        Holds s.convert own (ns ++ visible s.host (.element e)) u := by
      refine h.1.bind fun _ tag htag => ?_
      cases tag with
      | none => exact .pure (ht.nothing htag)
      | some u => exact .pure (ht.appendSeparated (reflects_separator _ _ _) htag)
    rw [List.map_cons, List.flatMap_cons, ← List.append_assoc]
    exact hfirst.bind fun _ u hu => ih h.2 hu

theorem mirror_addColumns {columns : List Column} (total : Number.Double)
    (h : ∀ c ∈ columns, s.Mirrors (.element (.column c))) (ht : Holds s.convert own ns t) :
    Issues (addColumns s total t columns) fun _ u => Holds s.convert own
      (ns ++ (columns.map fun c => Node.element (.column c)).flatMap (visible s.host)) u := by
  induction columns generalizing t ns with
  | nil =>
    refine .pure ?_
    rwa [List.map_nil, List.flatMap_nil, List.append_nil]
  | cons c columns ih =>
    rw [List.forall_mem_cons] at h
    have hfirst : Issues (addColumn s total t c) fun _ u =>
        Holds s.convert own (ns ++ visible s.host (.element (.column c))) u := by
      refine h.1.bind fun _ tag htag => ?_
      cases tag with
      | none => exact .pure (ht.nothing htag)
      | some u =>
        refine .read fun width => .pure ?_
        exact ht.appendSeparated (reflects_columnSeparator _ _)
          (htag.keeps ((Keeps.refl u).setStyle _ _))
    rw [List.map_cons, List.flatMap_cons, ← List.append_assoc]
    exact hfirst.bind fun _ u hu => ih h.2 hu

/-- A button more, and the card that it shows. -/
theorem mirror_addAction {strip : Strip} {a : Action} (h : s.Mirrors (.action a))
    (hcard : ∀ card, cardOf? a = some card → s.Mirrors (.element (.card card)))
    (hstrip : HoldsStrip s.convert bs cs strip) : Issues (addAction s strip a) fun _ strip' =>
      HoldsStrip s.convert (bs ++ visible s.host (.action a))
        (cs ++ ((cardOf? a).toList.map fun card => Node.element (.card card)).flatMap
          (visible s.host)) strip' := by
  unfold addAction
  refine h.bind fun _ tag htag => ?_
  cases tag with
  | none =>
    -- an action without a button is of unknown kind and shows no card
    have hnone : visible s.host (.action a) = [] := by
      rw [Reflects, Option.toList_none, descendantsOf_nil, List.filter_nil] at htag
      exact List.forall₂_nil_right_iff.mp htag
    have hshown : cardOf? a = none := by
      cases a with
      | showCard frame title card =>
        rw [visible_known rfl] at hnone
        cases hnone
      | _ => rfl
    refine .pure ?_
    rw [hnone, hshown]
    simpa using hstrip
  | some button =>
    dsimp only
    have hbar := hstrip.bar.appendButton s.host.actions htag
    split
    · next card hshown =>
      refine (hcard card hshown).give fun _ tag' htag' => ?_
      rw [hshown]
      refine ⟨hbar, hstrip.cards.append ?_⟩
      simpa using htag'.map (keeps_shownCard s.host.actions button)
    · next hshown =>
      rw [hshown]
      exact .pure ⟨hbar, by simpa using hstrip.cards⟩

theorem mirror_addActions {as : List Action} (h : ∀ a ∈ as, s.Mirrors (.action a))
    (hcards : ∀ card ∈ as.filterMap cardOf?, s.Mirrors (.element (.card card))) {strip : Strip}
    (hstrip : HoldsStrip s.convert bs cs strip) : Issues (addActions s strip as) fun _ strip' =>
      HoldsStrip s.convert (bs ++ (as.map Node.action).flatMap (visible s.host))
        (cs ++ ((as.filterMap cardOf?).map fun card => Node.element (.card card)).flatMap
          (visible s.host)) strip' := by
  induction as generalizing strip bs cs with
  | nil =>
    refine .pure ?_
    simpa using hstrip
  | cons a as ih =>
    rw [List.forall_mem_cons] at h
    have hown : ∀ card, cardOf? a = some card → s.Mirrors (.element (.card card)) :=
      fun card hcard => hcards card (List.mem_filterMap.mpr ⟨a, List.mem_cons_self, hcard⟩)
    have hothers : ∀ card ∈ as.filterMap cardOf?, s.Mirrors (.element (.card card)) := by
      intro card hcard
      obtain ⟨b, hb, hshown⟩ := List.mem_filterMap.mp hcard
      exact hcards card (List.mem_filterMap.mpr ⟨b, List.mem_cons_of_mem _ hb, hshown⟩)
    have hsplit : (a :: as).filterMap cardOf? = (cardOf? a).toList ++ as.filterMap cardOf? := by
      cases hshown : cardOf? a with
      | none => rw [List.filterMap_cons_none hshown]; rfl
      | some card => rw [List.filterMap_cons_some hshown]; rfl
    rw [hsplit, List.map_append, List.flatMap_append, List.map_cons, List.flatMap_cons,
      ← List.append_assoc, ← List.append_assoc]
    exact (mirror_addAction h.1 hown hstrip).bind fun _ strip' hstrip' => ih h.2 hothers hstrip'

/-! ## Cards, stacks and rows -/

theorem mirror_renderCard {c : Card}
    (h : ∀ m ∈ shownParts s.host (.element (.card c)), s.Mirrors m) :
    Issues (renderCard s c) fun _ tag =>
      Reflects s.convert (visible s.host (.element (.card c))) tag.toList := by
  have hframe :
      Holds s.convert [kindClass "AdaptiveCard"] [] (cardFrame s.host c.backgroundImage) := by
    unfold cardFrame
    dsimp only
    split <;> split <;> exact holds_empty (by simp [landmarkClasses]) (by simp)
  have hbody : ∀ e ∈ c.body, s.Mirrors (.element e) := fun e he =>
    h _ (List.mem_append_left _ (List.mem_map_of_mem he))
  rw [visible_known rfl, shownParts, List.flatMap_append]
  refine (mirror_addElements hbody hframe).bind fun _ t ht => ?_
  rw [List.nil_append] at ht
  unfold addStrip
  split
  · next hactive =>
    rw [shownParts, if_pos hactive] at h
    have hparts := (List.forall_mem_append.mp h).2
    rw [List.forall_mem_append, List.forall_mem_map, List.forall_mem_map] at hparts
    rw [List.flatMap_append]
    refine Issues.give (Q := fun _ u => Reflects s.convert _ [u]) ?_ fun _ u hu => hu
    refine (mirror_addActions hparts.1 hparts.2 (holdsStrip_empty _)).give fun _ strip hstrip => ?_
    exact (ht.appendStrip s.host hstrip).group (e := .card c) rfl
  · refine .pure ?_
    rw [List.flatMap_nil, List.append_nil]
    exact ht.group (e := .card c) rfl

theorem mirror_renderStack (hs : s.transformers = standardTransformers.get?) {e : Element}
    (he : isGroup e = true) (hmark : landmarkClasses.contains (kindClass e.kind) = true)
    {items : List Element}
    (h : ∀ e ∈ items, s.Mirrors (.element e)) (action : Option Action) :
    Issues (renderStack s e.kind items action) fun _ tag => Reflects s.convert
      (.element e :: (items.map Node.element).flatMap (visible s.host)) tag.toList := by
  have hframe : Holds s.convert [kindClass e.kind] []
      ((Tag.named "div").addClass (kindClass e.kind)) :=
    holds_empty (marks_addClass_mark (by simp) hmark) (by simp)
  refine (mirror_addElements h hframe).bind fun _ t ht => ?_
  exact (keeps_selectable hs action t).give fun _ u hu =>
    (ht.keeps hu).group (e := e) he

theorem mirror_renderColumnSet (hs : s.transformers = standardTransformers.get?) {c : ColumnSet}
    (h : ∀ m ∈ shownParts s.host (.element (.columnSet c)), s.Mirrors m) :
    Issues (renderColumnSet s c) fun _ tag =>
      Reflects s.convert (visible s.host (.element (.columnSet c))) tag.toList := by
  have hframe : Holds s.convert [kindClass "ColumnSet"] [] emptyRow :=
    holds_empty (by simp [emptyRow, landmarkClasses]) (by simp [emptyRow])
  rw [shownParts, List.forall_mem_map] at h
  rw [visible_known rfl]
  refine (keeps_selectable hs c.selectAction emptyRow).bind fun _ row hrow => ?_
  exact (mirror_addColumns _ h (hframe.keeps hrow)).give fun _ u hu =>
    hu.group (e := .columnSet c) rfl

/-! ## Facts and sets of images -/

theorem mirror_mapM {α β : Type} {f : α → Render β} {g : β → List Tag} {nodes : α → List Node}
    {as : List α}
    (h : ∀ a ∈ as, Issues (f a) fun _ b => Reflects s.convert (nodes a) (g b)) :
    Issues (as.mapM f) fun _ bs => Reflects s.convert (as.flatMap nodes) (bs.flatMap g) := by
  induction as with
  | nil => exact .pure reflects_nil
  | cons a as ih =>
    rw [List.forall_mem_cons] at h
    rw [List.mapM_cons]
    refine h.1.bind fun _ b hb => (ih h.2).bind fun _ bs hbs => .pure ?_
    rw [List.flatMap_cons, List.flatMap_cons]
    exact hb.append hbs

/-- A title and a value, each in a cell of their row. -/
theorem mirror_factRow {f : Fact}
    (htitle : s.Mirrors (.element (.textBlock (factText s.host.factSet.title f.title))))
    (hvalue : s.Mirrors (.element (.textBlock (factText s.host.factSet.value f.value)))) :
    Issues (factRow s f) fun _ row => Reflects s.convert
      (visible s.host (.element (.textBlock (factText s.host.factSet.title f.title))) ++
        visible s.host (.element (.textBlock (factText s.host.factSet.value f.value)))) [row] := by
  unfold factRow
  refine htitle.bind fun _ title ht => hvalue.give fun _ value hv => ?_
  have ht' := ht.map (f := fun t => t.addClass "ac-facttitle" |>.setStyle .marginRight
    (pixels s.host.factSet.spacing)) fun t => ((Keeps.refl t).addClass (by decide)).setStyle _ _
  have hv' := hv.map (f := (·.addClass "ac-factvalue")) fun t =>
    (Keeps.refl t).addClass (by decide)
  refine (reflects_plain (by simp)).mpr ?_
  simp only [children_append, children_setStyle, children_named, List.nil_append,
    List.singleton_append]
  rw [← List.singleton_append]
  refine Reflects.append ?_ ?_
  · exact (reflects_plain (by simp [landmarkClasses])).mpr (by simpa using ht')
  · exact (reflects_plain (by simp [landmarkClasses])).mpr (by simpa using hv')

theorem mirror_renderFactSet {facts : FactSet}
    (h : ∀ m ∈ shownParts s.host (.element (.factSet facts)), s.Mirrors m) :
    Issues (renderFactSet s facts) fun _ tag =>
      Reflects s.convert (visible s.host (.element (.factSet facts))) tag.toList := by
  have hframe : Holds s.convert [kindClass "FactSet"] []
      ((Tag.named "ul").addClass (kindClass "FactSet") |>.setStyle .overflow "hidden") :=
    holds_empty (by simp [landmarkClasses]) (by simp)
  have hrows : ∀ f ∈ facts.facts, _ := fun f hf => mirror_factRow (f := f)
    (h _ (List.mem_flatMap.mpr ⟨f, hf, List.mem_cons_self⟩))
    (h _ (List.mem_flatMap.mpr ⟨f, hf, List.mem_cons_of_mem _ List.mem_cons_self⟩))
  rw [visible_known rfl, shownParts, List.flatMap_assoc]
  refine (mirror_mapM (g := fun row => [row]) hrows).give fun _ rows ht => ?_
  rw [List.flatMap_singleton'] at ht
  have hlist := (hframe.appendAll ht).group (e := .factSet facts) rfl
  simpa using hlist

/-- An image shows as itself in a set, whatever size the set gives it. -/
theorem mirror_renderImageSet {images : ImageSet}
    (h : ∀ i ∈ images.images, Issues (s.render (.element (.image (inSet images.imageSize i))))
      fun _ tag => Reflects s.convert [.element (.image i)] tag.toList) :
    Issues (renderImageSet s images) fun _ tag =>
      Reflects s.convert (visible s.host (.element (.imageSet images))) tag.toList := by
  have hframe : Holds s.convert [kindClass "ImageSet"] []
      ((Tag.named "ul").addClass (kindClass "ImageSet")) :=
    holds_empty (by simp [landmarkClasses]) (by simp)
  have hmember : ∀ i ∈ images.images, Issues (setMember s images.imageSize i) fun _ tag =>
      Reflects s.convert [.element (.image i)] tag.toList := fun i hi =>
    (h i hi).give fun _ tag htag => htag.map fun t =>
      ((Keeps.refl t).setStyle _ _).setStyle _ _
  have hparts : (shownParts s.host (.element (.imageSet images))).flatMap (visible s.host) =
      images.images.flatMap fun i => [.element (.image i)] := by
    rw [shownParts, List.flatMap_map]
    refine List.flatMap_congr fun i _ => ?_
    rw [visible_known rfl]
    rfl
  rw [visible_known rfl, hparts]
  refine (mirror_mapM hmember).give fun _ tags ht => ?_
  have hshown : tags.flatMap Option.toList = tags.reduceOption :=
    (List.filterMap_eq_flatMap_toList id tags).symm
  rw [hshown] at ht
  exact (hframe.appendAll ht).group (e := .imageSet images) rfl

end

end Placard.Render
