import Mathlib.Data.List.ReduceOption
import Placard.Proofs.Render.Arrangement

/-!
# Strips of actions

The strip of a list of actions is made from what shows of the first few of them, as many as the host
allows. Rendering comes first: an action, and right after it the card that it shows, if the action
has a button (`showAction`). The rest is layout (`stripWith`): the buttons in order with a space
between each two of them, and the cards in order, each with the id that its button leads to. Actions
that do not show leave no trace in it, wherever they stand (`strip_of_actions`).
-/

namespace Placard.Render

open Tag Document

/-! ## Rendering -/

/-- What shows of an action: its button, and the tag of the card that it shows. -/
structure ShownAction where
  button : Tag
  card : Option Tag

/-- An action and then the card that it shows, unless the action has no button. -/
def showAction (s : Scene) (a : Action) : Render (Option ShownAction) := do
  match ← s.render (.action a) with
  | none => return none
  | some button =>
    let card ← match cardOf? a with
      | some card => s.render (.element (.card card))
      | none => pure none
    return some { button, card }

/-! ## Layout -/

/-- What stands between two actions, if anything does. -/
def gap? (layout : Host.ActionLayout) : Option Tag :=
  if 0 < layout.buttonSpacing then some (gap layout) else none

/-- The card of an action as it stands below the strip. -/
def ShownAction.body? (layout : Host.ActionLayout) (a : ShownAction) : Option Tag :=
  a.card.map (shownCard layout a.button)

/-- The buttons of actions in a bar, with spaces between them. -/
def buttonPieces (layout : Host.ActionLayout) (continues : Bool) (shown : List ShownAction) :
    List Piece :=
  arrange (fun _ => gap? layout) continues (shown.map fun a => (a, a.button))

/-- The strip of the actions that show. -/
def stripWith (layout : Host.ActionLayout) (shown : List ShownAction) : Strip where
  bar := (emptyBar layout).appendAll ((buttonPieces layout false shown).map Piece.tag)
  cards := shown.filterMap (·.body? layout)

section

variable {α : Type}

theorem tags_arrange_none (continues : Bool) (entries : List (α × Tag)) :
    (arrange (fun _ => none) continues entries).map Piece.tag = entries.map (·.2) := by
  induction entries generalizing continues with
  | nil => rfl
  | cons entry entries ih =>
    rw [arrange_cons, List.map_append, List.map_cons, ih, List.map_cons]
    cases continues <;> rfl

/-- The same separator for all entries stands between each two of them. -/
theorem tags_arrange_some (separator : Tag) (entries : List (α × Tag)) :
    (arrange (fun _ => some separator) false entries).map Piece.tag =
      (entries.map (·.2)).intersperse separator := by
  have hrest (entry : α × Tag) (entries : List (α × Tag)) :
      (arrange (fun _ => some separator) true (entry :: entries)).map Piece.tag =
        separator ::
          (arrange (fun _ => some separator) false (entry :: entries)).map Piece.tag := by
    rw [arrange_cons, arrange_cons]
    rfl
  induction entries with
  | nil => rfl
  | cons entry entries ih =>
    cases entries with
    | nil => rfl
    | cons next entries =>
      rw [List.map_cons] at ih ⊢
      rw [List.map_cons, List.intersperse_cons_cons, ← ih, ← hrest, arrange_cons]
      rfl

end

theorem length_intersperse (separator : Tag) (tags : List Tag) :
    (tags.intersperse separator).length = tags.length + (tags.length - 1) := by
  induction tags with
  | nil => rfl
  | cons t tags ih =>
    cases tags with
    | nil => rfl
    | cons u tags =>
      rw [List.intersperse_cons_cons, List.length_cons, List.length_cons, ih]
      simp only [List.length_cons]
      omega

theorem appendButton_eq_separated (layout : Host.ActionLayout) (bar button : Tag) :
    appendButton layout bar button = appendSeparated (gap? layout) bar button := by
  unfold appendButton appendSeparated gap?
  cases bar.children.isEmpty with
  | true => rfl
  | false =>
    by_cases hspace : 0 < layout.buttonSpacing
    · simp [hspace, Tag.append, Tag.appendAll]
    · simp [hspace, appendAll_nil]

/-! ## The loop -/

/-- A strip with what shows of an action. -/
def Strip.add (layout : Host.ActionLayout) (strip : Strip) : Option ShownAction → Strip
  | none => strip
  | some a =>
    { bar := appendSeparated (gap? layout) strip.bar a.button
      cards := strip.cards ++ (a.body? layout).toList }

theorem addAction_eq (s : Scene) (strip : Strip) (a : Action) :
    addAction s strip a = strip.add s.host.actions <$> showAction s a := by
  unfold addAction showAction
  rw [map_bind]
  refine bind_congr fun button => ?_
  cases button with
  | none => rfl
  | some button =>
    dsimp only
    cases cardOf? a with
    | none =>
      dsimp only
      rw [pure_bind, pure_bind, appendButton_eq_separated]
      rfl
    | some card =>
      dsimp only
      rw [map_bind]
      refine bind_congr fun tag => ?_
      rw [appendButton_eq_separated]
      rfl

/-- By induction on the actions: what shows of the first one is added before the others. -/
theorem addActions_eq (s : Scene) (strip : Strip) (as : List Action) :
    addActions s strip as =
      (fun results =>
        { bar := strip.bar.appendAll ((buttonPieces s.host.actions (!strip.bar.children.isEmpty)
            results.reduceOption).map Piece.tag)
          cards := strip.cards ++ results.reduceOption.filterMap (·.body? s.host.actions) }) <$>
        as.mapM (showAction s) := by
  induction as generalizing strip with
  | nil =>
    rw [List.mapM_nil, map_pure, List.reduceOption_nil, List.filterMap_nil, List.append_nil]
    unfold buttonPieces
    rw [List.map_nil, arrange_nil, List.map_nil, appendAll_nil]
    rfl
  | cons a as ih =>
    rw [addActions, addAction_eq, List.mapM_cons, map_bind, map_eq_pure_bind, bind_assoc]
    refine bind_congr fun result => ?_
    rw [pure_bind, ih, map_bind, map_eq_pure_bind]
    refine bind_congr fun results => ?_
    rw [map_pure]
    cases result with
    | none => rw [List.reduceOption_cons_of_none, Strip.add]
    | some shown =>
      have hsome : (!(strip.add s.host.actions (some shown)).bar.children.isEmpty) = true := by
        simp [Strip.add, appendSeparated_eq]
      rw [hsome, List.reduceOption_cons_of_some]
      refine congrArg pure (congrArg₂ Strip.mk ?_ ?_)
      · unfold buttonPieces
        rw [List.map_cons, appendAll_arrange_cons]
        rfl
      · rw [List.filterMap_cons, Strip.add, List.append_assoc]
        cases shown.body? s.host.actions <;> rfl

/-! ## The strip -/

/-- The tag of a card below the strip: what was rendered for it, with the id that its button leads
to, and hidden. -/
structure IsBody (button card body : Tag) : Prop where
  id : body.attr? "id" = some ((button.attr? cardLink).getD "")
  name : body.name = card.name
  text : body.text = card.text
  children : body.children = card.children
  others : ∀ name, name ≠ "id" → body.attr? name = card.attr? name

/-- What a strip is for the actions that show. -/
structure IsStrip (layout : Host.ActionLayout) (shown : List ShownAction) (strip : Strip) :
    Prop where
  buttons : strip.bar.children =
    if 0 < layout.buttonSpacing then (shown.map (·.button)).intersperse (gap layout)
    else shown.map (·.button)
  spaces : 0 < layout.buttonSpacing →
    strip.bar.children.length = shown.length + (shown.length - 1)
  /-- In a row spaces have a width, in a pile they have a height. -/
  space : (gap layout).styles = match layout.orientation with
    | .horizontal => [(.flex, "0 0 auto"), (.width, pixels layout.buttonSpacing)]
    | .vertical => [(.height, pixels layout.buttonSpacing)]
  cards : strip.cards = shown.filterMap (·.body? layout)
  body : ∀ a ∈ shown, ∀ card ∈ a.card, ∃ body, a.body? layout = some body ∧
    IsBody a.button card body
  empty : strip.bar.children = [] ↔ shown = []
  noCards : strip.bar.children = [] → strip.cards = []

theorem isBody_shownCard (layout : Host.ActionLayout) (button card : Tag) :
    IsBody button card (shownCard layout button card) where
  id := by simp [shownCard]
  name := by simp [shownCard]
  text := by
    unfold shownCard Tag.addClass
    split <;> rfl
  children := by simp [shownCard]
  others name hname := by simp [shownCard, Ne.symm hname]

theorem children_emptyBar (layout : Host.ActionLayout) : (emptyBar layout).children = [] := by
  unfold emptyBar
  dsimp only
  split <;> simp

theorem isStrip_stripWith (layout : Host.ActionLayout) (shown : List ShownAction) :
    IsStrip layout shown (stripWith layout shown) := by
  have hbuttons : (stripWith layout shown).bar.children =
      if 0 < layout.buttonSpacing then (shown.map (·.button)).intersperse (gap layout)
      else shown.map (·.button) := by
    have hnames : (shown.map fun a => (a, a.button)).map (·.2) = shown.map (·.button) := by
      rw [List.map_map]
      rfl
    rw [stripWith, children_appendAll, children_emptyBar, List.nil_append, buttonPieces]
    unfold gap?
    split
    · rw [tags_arrange_some, hnames]
    · rw [tags_arrange_none, hnames]
  have hempty : (stripWith layout shown).bar.children = [] ↔ shown = [] := by
    rw [hbuttons]
    cases shown with
    | nil => simp
    | cons a shown => cases shown <;> split <;> simp
  refine ⟨hbuttons, fun hspace => ?_, ?_, rfl, fun a _ card hcard => ?_, hempty, fun h => ?_⟩
  · rw [hbuttons, if_pos hspace, length_intersperse, List.length_map]
  · unfold gap
    cases layout.orientation <;> rfl
  · refine ⟨_, congrArg (Option.map _) hcard, isBody_shownCard layout a.button card⟩
  · obtain rfl := hempty.mp h
    rfl

/-- The strip is laid out when all its actions have been rendered. -/
theorem stripOf_eq (s : Scene) (actions : List Action) :
    stripOf s actions = (fun results => stripWith s.host.actions results.reduceOption) <$>
      (actions.take (min s.host.actions.maxActions actions.length)).mapM (showAction s) := by
  have htake : actions.take (min s.host.actions.maxActions actions.length) =
      actions.take s.host.actions.maxActions := by
    rw [← List.take_take, List.take_length]
  have hnone : (!(emptyBar s.host.actions).children.isEmpty) = false := by
    rw [children_emptyBar]
    rfl
  rw [htake, stripOf, addActions_eq, hnone]
  rfl

end Placard.Render
