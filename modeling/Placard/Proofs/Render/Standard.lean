import Placard.Render.Standard

/-!
# What is registered at first

Looking up the standard renderers and what they do to the tags of actions.
-/

namespace Placard.Render

open Data Document

/-- Each of the three kinds of actions has its own way, and other kinds have none. -/
theorem standardTransformers_get_eq (kind : String) :
    standardTransformers.get? kind =
      if "Action.OpenUrl" = kind then some fun _ => linkAddress
      else if "Action.Submit" = kind then some fun _ => linkData
      else if "Action.ShowCard" = kind then some fun _ => linkCard else none :=
  rfl

theorem scene_transformers {stage : Stage} (h : stage.transformers = standardTransformers)
    (r : Node → Render (Option Tag)) :
    (stage.scene r).transformers = standardTransformers.get? :=
  congrArg Registry.get? h

/-- What holds of each standard way to treat the tag of an action holds of the way that goes with
its kind. -/
theorem transform_cases {s : Scene} (hs : s.transformers = standardTransformers.get?)
    (action : Node) {P : (Tag → Render Tag) → Prop}
    (openUrl : action.kind = "Action.OpenUrl" → P (linkAddress action))
    (submit : action.kind = "Action.Submit" → P (linkData action))
    (showCard : action.kind = "Action.ShowCard" → P (linkCard action))
    (other : action.kind ≠ "Action.ShowCard" → P pure) : P (s.transform action) := by
  unfold Scene.transform
  rw [hs, standardTransformers_get_eq]
  by_cases hopen : "Action.OpenUrl" = action.kind
  · rw [if_pos hopen]
    exact openUrl hopen.symm
  · rw [if_neg hopen]
    by_cases hsubmit : "Action.Submit" = action.kind
    · rw [if_pos hsubmit]
      exact submit hsubmit.symm
    · rw [if_neg hsubmit]
      by_cases hshow : "Action.ShowCard" = action.kind
      · rw [if_pos hshow]
        exact showCard hshow.symm
      · rw [if_neg hshow]
        exact other (Ne.symm hshow)

/-- The address that an action leads to, which is read from its members if it is misplaced. -/
def actionAddress : Node → Except Fault String
  | .action (.openUrl _ _ url) => .ok url.text
  | action => shownText <$> member action "url"

/-- What an action submits, written down. -/
def actionData : Node → Except Fault String
  | .action (.submit _ _ data) => written data
  | action => member action "data" >>= written

theorem linkAddress_eq (action : Node) (t : Tag) : linkAddress action t =
    ofExcept (actionAddress action) >>= fun url => pure (t.setAttr "data-ac-url" url) := by
  unfold linkAddress actionAddress
  cases action with
  | element e =>
    dsimp only
    cases member (.element e) "url" <;> rfl
  | action a =>
    cases a with
    | openUrl => rfl
    | _ =>
      dsimp only
      cases member _ "url" <;> rfl

theorem linkData_eq (action : Node) (t : Tag) : linkData action t =
    ofExcept (actionData action) >>= fun text => pure (t.setAttr "data-ac-submitData" text) := by
  unfold linkData actionData
  cases action with
  | element e =>
    dsimp only
    cases member (.element e) "data" <;> rfl
  | action a =>
    cases a with
    | submit => rfl
    | _ =>
      dsimp only
      cases member _ "data" <;> rfl

/-- What is done to the tags of actions at first depends neither on how nodes are rendered nor on
what is done to other tags. -/
theorem transform_congr {s : Scene} (hs : s.transformers = standardTransformers.get?)
    (r : Node → Render (Option Tag)) (q : Node → Tag → Render Tag) (action : Node) (t : Tag) :
    s.transform action t = ({ s with render := r, treat := q } : Scene).transform action t := by
  unfold Scene.transform
  rw [hs, standardTransformers_get_eq]
  -- each of the three ways leaves aside what it is given beside the action and its tag
  by_cases hopen : "Action.OpenUrl" = action.kind
  · rw [if_pos hopen]
  · rw [if_neg hopen]
    by_cases hsubmit : "Action.Submit" = action.kind
    · rw [if_pos hsubmit]
    · rw [if_neg hsubmit]
      by_cases hshow : "Action.ShowCard" = action.kind
      · rw [if_pos hshow]
      · rw [if_neg hshow]

/-- The classes of the tags for kinds of elements that are not inputs. -/
@[simp] theorem kindClass_names :
    kindClass "AdaptiveCard" = "ac-adaptivecard" ∧ kindClass "Container" = "ac-container" ∧
    kindClass "Column" = "ac-column" ∧ kindClass "ColumnSet" = "ac-columnset" ∧
    kindClass "FactSet" = "ac-factset" ∧ kindClass "Image" = "ac-image" ∧
    kindClass "ImageSet" = "ac-imageset" ∧ kindClass "TextBlock" = "ac-textblock" := by
  decide

/-- All kinds with a renderer have the same one. -/
theorem standardRenderers_get_eq (kind : String) :
    standardRenderers.get? kind = if kind ∈ renderedKinds then some renderNode else none := by
  have hentries : standardRenderers.entries = renderedKinds.map fun kind => (kind, renderNode) :=
    rfl
  unfold Registry.get?
  rw [hentries]
  generalize renderedKinds = kinds
  induction kinds with
  | nil => rfl
  | cons k kinds ih =>
    rw [List.map_cons, valueAt?, ih]
    by_cases hkind : k = kind
    · subst hkind
      rw [if_pos rfl, if_pos List.mem_cons_self]
    · rw [if_neg hkind]
      simp only [List.mem_cons, Ne.symm hkind, false_or]

theorem standardRenderers_get {kind : String} {renderer : Renderer}
    (h : standardRenderers.get? kind = some renderer) : renderer = renderNode := by
  rw [standardRenderers_get_eq] at h
  split at h
  · exact (Option.some.inj h).symm
  · cases h

/-- A node is rendered by what it is, or left out with a warning. -/
theorem renderWithin_succ {stage : Stage} (h : stage.renderers = standardRenderers) (depth : Nat)
    (node : Node) :
    stage.renderWithin (depth + 1) node =
        renderNode (stage.scene (stage.renderWithin depth)) node ∨
      stage.renderWithin (depth + 1) node = (do warn (.unsupported node.kind); return none) := by
  rw [Stage.renderWithin, h]
  split
  · next renderer hget =>
    rw [standardRenderers_get hget]
    exact .inl rfl
  · exact .inr rfl

end Placard.Render
