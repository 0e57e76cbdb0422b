import Placard.Proofs.Render.ActionStrip

/-!
# Stacks of elements

Cards, containers and columns are filled in one way: with their elements and, below them, with the
strip of their actions and the cards that those show (`addContent`; only cards have actions). What
such a tag holds is an arrangement of what shows of its elements, each with the separator that the
element itself asks for, and then a space, the strip and the cards, if any action shows
(`contentPieces`). Nothing else is added, and nothing is left of what does not show.

Renderers are arbitrary here. Where none of them fails, filling does not fail either
(`content_of_container`).
-/

namespace Placard.Render

open Tag Document

/-! ## Steps that never fail -/

section

variable {α β : Type}

/-- Whether the step gives a value from every state. -/
def Runs (m : Render α) : Prop :=
  ∀ source p, ∃ a q, m source p = (.ok a, q)

namespace Runs

variable {m : Render α} {f : α → Render β}

theorem pure (a : α) : Runs (pure a) :=
  fun _ p => ⟨a, p, rfl⟩

theorem bind (hm : Runs m) (hf : ∀ a, Runs (f a)) : Runs (m >>= f) := by
  intro source p
  obtain ⟨a, q, hrun⟩ := hm source p
  rw [run_bind_ok hrun]
  exact hf a source q

theorem map (hm : Runs m) (g : α → β) : Runs (g <$> m) := by
  rw [map_eq_pure_bind]
  exact hm.bind fun a => .pure (g a)

theorem mapM (hf : ∀ a, Runs (f a)) (as : List α) : Runs (as.mapM f) := by
  induction as with
  | nil => exact .pure []
  | cons a as ih =>
    rw [List.mapM_cons]
    exact (hf a).bind fun b => ih.bind fun bs => .pure (b :: bs)

end Runs

theorem run_map_ok {m : Render α} (g : α → β) {source : IdSource} {p q : Pass} {a : α}
    (h : m source p = (.ok a, q)) : (g <$> m) source p = (.ok (g a), q) := by
  rw [map_eq_pure_bind, run_bind_ok h, run_pure]

end

/-- Whether no renderer of the scene fails. -/
def Scene.NeverFails (s : Scene) : Prop :=
  ∀ node, Runs (s.render node)

theorem Scene.NeverFails.showAction {s : Scene} (hs : s.NeverFails) (a : Action) :
    Runs (showAction s a) := by
  unfold Render.showAction
  refine (hs (.action a)).bind fun button => ?_
  cases button with
  | none => exact .pure none
  | some button =>
    dsimp only
    cases cardOf? a with
    | none => exact (Runs.pure none).bind fun card => .pure _
    | some card => exact (hs _).bind fun tag => .pure _

/-! ## Filling -/

/-- A container with elements and below them the strip of actions, where it has them. -/
def addContent (s : Scene) (container : Tag) (elements : Option (List Element))
    (actions : Option (List Action)) : Render Tag := do
  let tag ← addElements s container (elements.getD [])
  match actions with
  | some actions => addStrip s tag actions
  | none => return tag

/-- A card is filled with its body and its actions. -/
theorem renderCard_eq (s : Scene) (c : Card) : renderCard s c =
    some <$> addContent s (cardFrame s.host c.backgroundImage) (some c.body) (some c.actions) := by
  unfold renderCard addContent
  rw [map_bind]
  refine bind_congr fun tag => ?_
  rw [map_eq_pure_bind]

/-- A container or a column is filled with its items, and has no actions. -/
theorem renderStack_eq (s : Scene) (kind : String) (items : List Element)
    (action : Option Action) : renderStack s kind items action =
      (do
        let tag ← addContent s ((Tag.named "div").addClass (kindClass kind)) (some items) none
        return some (← selectable s action tag)) := by
  unfold renderStack addContent
  rw [bind_assoc]
  refine bind_congr fun tag => ?_
  rw [pure_bind]

/-! ## What is added -/

/-- What shows of actions: nothing if there are none at all, or if cards have none. -/
def shownActions (s : Scene) : Option (List Action) → Render (List ShownAction)
  | none => pure []
  | some actions =>
    if s.host.supportsInteractivity then
      List.reduceOption <$>
        (actions.take (min s.host.actions.maxActions actions.length)).mapM (showAction s)
    else pure []

/-- What stands below elements: a space, the strip and its cards, if any action shows. -/
def stripPieces (host : Host.Config) (shown : List ShownAction) : List Piece :=
  match shown with
  | [] => []
  | _ :: _ =>
    let strip := stripWith host.actions shown
    (separator? host host.actions.spacing false).toList.map .separator ++
      .rendered strip.bar :: strip.cards.map .rendered

/-- What a container holds: its elements that show, and what stands below them. -/
def contentPieces (host : Host.Config) (entries : List (Element × Tag))
    (shown : List ShownAction) : List Piece :=
  arrange (elementSeparator? host) false entries ++ stripPieces host shown

theorem appendStrip_stripWith (host : Host.Config) (container : Tag) (shown : List ShownAction) :
    appendStrip host container (stripWith host.actions shown) =
      container.appendAll ((stripPieces host shown).map Piece.tag) := by
  have hempty := (isStrip_stripWith host.actions shown).empty
  have hnoCards := (isStrip_stripWith host.actions shown).noCards
  unfold appendStrip
  cases shown with
  | nil =>
    rw [hempty.mpr rfl, hnoCards (hempty.mpr rfl)]
    rfl
  | cons a shown =>
    have hsome : (stripWith host.actions (a :: shown)).bar.children.isEmpty = false := by
      rw [List.isEmpty_eq_false_iff]
      exact fun h => nomatch hempty.mp h
    rw [hsome, stripPieces]
    simp [Tag.append, Tag.appendAll, Piece.tag, Function.comp_def]

/-- The strip that is built for actions is made from what shows of them. -/
theorem stripOf_eq_shownActions (s : Scene) (actions : List Action)
    (h : s.host.supportsInteractivity = true) :
    stripOf s actions = stripWith s.host.actions <$> shownActions s (some actions) := by
  rw [stripOf_eq, shownActions, if_pos h, Functor.map_map]

theorem addStrip_eq (s : Scene) (container : Tag) (actions : List Action) :
    addStrip s container actions =
      (fun shown => container.appendAll ((stripPieces s.host shown).map Piece.tag)) <$>
        shownActions s (some actions) := by
  unfold addStrip
  cases hactive : s.host.supportsInteractivity with
  | true =>
    rw [if_pos rfl, stripOf_eq_shownActions s actions hactive, bind_map_left, map_eq_pure_bind]
    exact bind_congr fun shown => congrArg pure (appendStrip_stripWith s.host container shown)
  | false =>
    rw [shownActions, hactive]
    exact congrArg pure (appendAll_nil container).symm

/-- **Filling.** Elements are rendered first, then actions, and what shows is added at once. -/
theorem addContent_eq (s : Scene) {container : Tag} (hempty : container.children = [])
    (elements : Option (List Element)) (actions : Option (List Action)) :
    addContent s container elements actions = do
      let tags ← (elements.getD []).mapM fun e => s.render (.element e)
      let shown ← shownActions s actions
      return container.appendAll
        ((contentPieces s.host (showing (elements.getD []) tags) shown).map Piece.tag) := by
  have hfirst : (!container.children.isEmpty) = false := by
    rw [hempty]
    rfl
  unfold addContent contentPieces
  rw [addElements_eq, addEach_eq, hfirst, bind_map_left]
  refine bind_congr fun tags => ?_
  cases actions with
  | none =>
    rw [shownActions, pure_bind, stripPieces, List.append_nil]
  | some actions =>
    dsimp only
    rw [addStrip_eq, map_eq_pure_bind]
    refine bind_congr fun shown => ?_
    rw [List.map_append, appendAll_append]

theorem runs_shownActions {s : Scene} (hs : s.NeverFails) (actions : Option (List Action)) :
    Runs (shownActions s actions) := by
  cases actions with
  | none => exact .pure []
  | some actions =>
    rw [shownActions]
    split
    · exact (Runs.mapM hs.showAction _).map _
    · exact .pure []

theorem isSome_elementSeparator? (host : Host.Config) (e : Element) :
    (elementSeparator? host e).isSome = true ↔
      e.frame.separator = true ∨ e.frame.spacing ≠ .none := by
  unfold elementSeparator? separator?
  cases e.frame.separator with
  | true => simp
  | false => by_cases h : e.frame.spacing = .none <;> simp [h]

theorem separatorsLead_contentPieces (host : Host.Config) (entries : List (Element × Tag))
    (shown : List ShownAction) : SeparatorsLead (contentPieces host entries shown) := by
  refine (separatorsLead_arrange _ false entries).append ?_
  cases shown with
  | nil => exact .nil
  | cons a shown => exact (separatorsLead_rendered _).optional _ _

/-! ## The container -/

/-- What a container is when it has been filled with what shows of elements and of actions. -/
structure IsFilled (host : Host.Config) (container : Tag) (entries : List (Element × Tag))
    (shown : List ShownAction) (result : Tag) : Prop where
  children : result.children = (contentPieces host entries shown).map Piece.tag
  /-- Nothing else of the container changes. -/
  others : result = { container with children := result.children }
  elements : (arrange (elementSeparator? host) false entries).filterMap Piece.rendered? =
    entries.map (·.2)
  /-- An element asks for a separator by its own line or its own space. -/
  asks : ∀ e, (elementSeparator? host e).isSome = true ↔
    e.frame.separator = true ∨ e.frame.spacing ≠ .none
  leads : SeparatorsLead (contentPieces host entries shown)
  /-- The space above the strip. -/
  space : (separator? host host.actions.spacing false).isSome = true ↔
    host.actions.spacing ≠ .none
  strip : (stripWith host.actions shown).bar.children = [] ↔ shown = []
  noStrip : shown = [] → result.children =
    (arrange (elementSeparator? host) false entries).map Piece.tag

theorem isFilled_appendAll (host : Host.Config) {container : Tag}
    (hempty : container.children = []) (entries : List (Element × Tag))
    (shown : List ShownAction) : IsFilled host container entries shown
      (container.appendAll ((contentPieces host entries shown).map Piece.tag)) := by
  have hchildren : (container.appendAll
      ((contentPieces host entries shown).map Piece.tag)).children =
        (contentPieces host entries shown).map Piece.tag := by
    rw [children_appendAll, hempty, List.nil_append]
  refine ⟨hchildren, rfl, rendered_arrange _ false entries, isSome_elementSeparator? host,
    separatorsLead_contentPieces host entries shown, ?_,
    (isStrip_stripWith host.actions shown).empty, ?_⟩
  · unfold separator?
    by_cases hnone : host.actions.spacing = .none <;> simp [hnone]
  · rintro rfl
    rw [hchildren, contentPieces, stripPieces, List.append_nil]

/-- **Filling a container.** If no renderer fails and the container has no children yet, it is
filled: all elements are rendered in order and then the actions, and the children are what shows of
the elements, each but the first with the separator it asks for right before it; and then, if
any action shows, a space, the strip that is built for the actions, and the cards in order. -/
theorem content_of_container (s : Scene) (hs : s.NeverFails) (container : Tag)
    (hempty : container.children = []) (elements : Option (List Element))
    (actions : Option (List Action)) (source : IdSource) (p : Pass) :
    ∃ tags q shown r result,
      (elements.getD []).mapM (fun e => s.render (.element e)) source p = (.ok tags, q) ∧
      shownActions s actions source q = (.ok shown, r) ∧
      (s.host.supportsInteractivity = true → ∀ as ∈ actions,
        stripOf s as source q = (.ok (stripWith s.host.actions shown), r)) ∧
      addContent s container elements actions source p = (.ok result, r) ∧
      IsFilled s.host container (showing (elements.getD []) tags) shown result := by
  obtain ⟨tags, q, htags⟩ :=
    Runs.mapM (fun e => hs (.element e)) (elements.getD []) source p
  obtain ⟨shown, r, hshown⟩ := runs_shownActions hs actions source q
  refine ⟨tags, q, shown, r, _, htags, hshown, fun hactive as has => ?_, ?_,
    isFilled_appendAll s.host hempty _ shown⟩
  · obtain rfl := Option.mem_def.mp has
    rw [stripOf_eq_shownActions s as hactive, run_map_ok _ hshown]
  · rw [addContent_eq s hempty, run_bind_ok htags, run_bind_ok hshown, run_pure]

/-- A scene where texts show and nothing else does, and buttons of known actions. -/
def plainScene : Scene where
  host := {}
  convert := fun _ => .ok []
  transformers := fun _ => none
  treat _ tag := pure tag
  render
    | .element (.textBlock _) => pure (some (Tag.named "p"))
    | .action (.submit ..) => pure (some (Tag.named "a"))
    | _ => pure none

/-- An element that does not show stands first, one between two texts, and one last; so do actions.
One separator and one space are drawn. -/
theorem content_of_container_sparse : plainScene.NeverFails ∧
    ∃ result r, addContent plainScene (Tag.named "div")
        (some [.factSet {}, .textBlock {}, .factSet {}, .textBlock {}, .factSet {}])
        (some [.unknown { kind := "Action.Bell" }, .submit {} none .null,
          .unknown { kind := "Action.Bell" }]) (fun _ => "") {} = (.ok result, r) ∧
      result.children.map (·.name) = ["p", "hr", "p", "hr", "div"] := by
  have hplain : plainScene.NeverFails := by
    intro node source p
    unfold plainScene
    dsimp only
    split <;> exact ⟨_, p, rfl⟩
  refine ⟨hplain, ?_⟩
  obtain ⟨tags, q, shown, r, result, htags, hshown, -, hresult, hfilled⟩ :=
    content_of_container plainScene hplain (Tag.named "div") rfl
      (some [.factSet {}, .textBlock {}, .factSet {}, .textBlock {}, .factSet {}])
      (some [.unknown { kind := "Action.Bell" }, .submit {} none .null,
        .unknown { kind := "Action.Bell" }]) (fun _ => "") {}
  cases htags
  cases hshown
  refine ⟨result, _, hresult, ?_⟩
  rw [hfilled.children]
  rfl

end Placard.Render
