import Mathlib.Data.List.Perm.Basic
import Placard.Proofs.Render.CardPass
import Placard.Proofs.Tag.Tree

/-!
# Sessions have no memory

A session is changed and renders cards, in any order. What it renders a card to is decided by the
card, by its source of ids, and by what is registered for each kind at that time:

* a pass looks kinds up and does nothing else with a registry, so sessions that agree on all kinds
  render alike (`Session.Agrees.render`), whatever the registered functions do and have done further;
* changes of different targets commute (`agrees_change_change`), and a change is absorbed by a later
  one of its target (`agrees_absorbed`);
* so all that remains of a history is the last change of each target (`lasting`), and those can be
  made to a fresh session in any order (`outcomes_of_history`).
-/

/-! ## Looking up -/

namespace Placard.Registry

variable {α : Type} (r : Registry α) (kind other : String)

theorem get?_set (a : α) :
    (r.set kind a).get? other = if kind = other then some a else r.get? other :=
  Tag.valueAt_writeAt kind other a r.entries

theorem get?_remove :
    (r.remove kind).get? other = if kind = other then none else r.get? other := by
  unfold remove get?
  induction r.entries with
  | nil => simp [valueAt?]
  | cons e entries ih =>
    obtain ⟨k, a⟩ := e
    by_cases hk : k = kind
    · -- the entry is dropped, and no other kind is looked up at it
      subst hk
      rw [List.filter_cons_of_neg (by simp), ih, valueAt?]
      split <;> rfl
    · rw [List.filter_cons_of_pos (by simpa using hk), valueAt?, valueAt?, ih]
      by_cases hother : k = other
      · subst hother
        rw [if_pos rfl, if_neg (Ne.symm hk), if_pos rfl]
      · rw [if_neg hother, if_neg hother]

end Placard.Registry

namespace Placard.Render

open Document

/-! ## Sessions that agree -/

/-- Two stages on which the same is found for every kind. -/
structure Stage.Agrees (a b : Stage) : Prop where
  host : a.host = b.host
  convert : a.convert = b.convert
  renderers : ∀ kind, a.renderers.get? kind = b.renderers.get? kind
  transformers : ∀ kind, a.transformers.get? kind = b.transformers.get? kind
  reserve : a.reserve = b.reserve

namespace Stage.Agrees

variable {a b : Stage} (h : a.Agrees b)

include h

/-- By induction on the depth: at each depth both stages find the same for an action, and give it the
same setting. -/
theorem treatWithin (render : Node → Render (Option Tag)) (depth : Nat) :
    a.treatWithin render depth = b.treatWithin render depth := by
  induction depth with
  | zero => rfl
  | succ depth ih =>
    funext action tag
    rw [Stage.treatWithin, Stage.treatWithin, h.transformers, h.host, h.convert, ih]

theorem scene (render : Node → Render (Option Tag)) : a.scene render = b.scene render := by
  unfold Stage.scene
  rw [h.host, h.convert, h.reserve, h.treatWithin, funext h.transformers]

/-- **A pass looks kinds up and nothing else.** By induction on the depth: at each depth both stages
find the same renderer and give it the same scene. -/
theorem renderWithin (depth : Nat) : a.renderWithin depth = b.renderWithin depth := by
  induction depth with
  | zero => rfl
  | succ depth ih =>
    funext node
    rw [Stage.renderWithin, Stage.renderWithin, h.renderers, h.scene, ih]

theorem render (node : Node) : a.render node = b.render node := by
  unfold Stage.render
  rw [h.reserve, h.renderWithin]

end Stage.Agrees

/-- Two sessions with one host and one set of extensions that find the same for every kind. -/
structure Session.Agrees (s t : Session) : Prop where
  host : s.host = t.host
  extensions : s.extensions = t.extensions
  reserve : s.reserve = t.reserve
  renderers : ∀ kind, s.renderers.get? kind = t.renderers.get? kind
  transformers : ∀ kind, s.transformers.get? kind = t.transformers.get? kind

namespace Session.Agrees

variable {s t u : Session}

theorem refl (s : Session) : s.Agrees s :=
  ⟨rfl, rfl, rfl, fun _ => rfl, fun _ => rfl⟩

theorem trans (h : s.Agrees t) (h' : t.Agrees u) : s.Agrees u where
  host := h.host.trans h'.host
  extensions := h.extensions.trans h'.extensions
  reserve := h.reserve.trans h'.reserve
  renderers kind := (h.renderers kind).trans (h'.renderers kind)
  transformers kind := (h.transformers kind).trans (h'.transformers kind)

theorem stage (h : s.Agrees t) : s.stage.Agrees t.stage where
  host := h.host
  convert := by
    change (standardStage s.host s.extensions).convert = (standardStage t.host t.extensions).convert
    rw [h.host, h.extensions]
  renderers := h.renderers
  transformers := h.transformers
  reserve := h.reserve

/-- Sessions that agree render every card to the same outcome. -/
theorem render (h : s.Agrees t) (ids : IdSource) (card : Option Card) :
    s.render ids card = t.render ids card := by
  have hpass (c : Card) : cardPass s.stage c = cardPass t.stage c := by
    unfold cardPass
    rw [h.stage.render]
  cases card with
  | none => rfl
  | some c =>
    unfold Session.render
    dsimp only
    rw [hpass]

end Session.Agrees

/-! ## Changes -/

/-- What a change is about. -/
inductive Target where
  | renderer (kind : String)
  | transformer (kind : String)
deriving DecidableEq

namespace Change

/-- The registry and the kind that a change is about. -/
def target : Change → Target
  | .setRenderer kind _ => .renderer kind
  | .removeRenderer kind => .renderer kind
  | .setTransformer kind _ => .transformer kind

/-- What is found for a renderer after a change, if the change is about it. -/
def rendererAt (c : Change) (kind : String) : Option (Option Renderer) :=
  match c with
  | .setRenderer k renderer => if k = kind then some (some renderer) else none
  | .removeRenderer k => if k = kind then some none else none
  | .setTransformer _ _ => none

/-- What is found for a transformer after a change, if the change is about it. -/
def transformerAt (c : Change) (kind : String) : Option (Option Transformer) :=
  match c with
  | .setTransformer k transformer => if k = kind then some (some transformer) else none
  | _ => none

variable (c : Change) (kind : String)

theorem rendererAt_eq_none_iff : c.rendererAt kind = none ↔ c.target ≠ .renderer kind := by
  cases c <;> simp [rendererAt, target]

theorem transformerAt_eq_none_iff : c.transformerAt kind = none ↔ c.target ≠ .transformer kind := by
  cases c <;> simp [transformerAt, target]

end Change

section

variable {s t : Session}

/-- A change shows at the kind that it is about, and nowhere else. -/
theorem renderers_change (s : Session) (c : Change) (kind : String) :
    (s.change c).renderers.get? kind = (c.rendererAt kind).getD (s.renderers.get? kind) := by
  cases c with
  | setRenderer k renderer =>
    refine (s.renderers.get?_set k kind renderer).trans ?_
    by_cases hk : k = kind <;> simp [Change.rendererAt, hk]
  | removeRenderer k =>
    refine (s.renderers.get?_remove k kind).trans ?_
    by_cases hk : k = kind <;> simp [Change.rendererAt, hk]
  | setTransformer k transformer => rfl

theorem transformers_change (s : Session) (c : Change) (kind : String) :
    (s.change c).transformers.get? kind = (c.transformerAt kind).getD (s.transformers.get? kind) := by
  cases c with
  | setTransformer k transformer =>
    refine (s.transformers.get?_set k kind transformer).trans ?_
    by_cases hk : k = kind <;> simp [Change.transformerAt, hk]
  | _ => rfl

@[simp] theorem host_change (s : Session) (c : Change) : (s.change c).host = s.host := by
  cases c <;> rfl

@[simp] theorem extensions_change (s : Session) (c : Change) :
    (s.change c).extensions = s.extensions := by
  cases c <;> rfl

@[simp] theorem reserve_change (s : Session) (c : Change) : (s.change c).reserve = s.reserve := by
  cases c <;> rfl

/-- The same change keeps sessions in agreement. -/
theorem Session.Agrees.change (h : s.Agrees t) (c : Change) : (s.change c).Agrees (t.change c) where
  host := by simp [h.host]
  extensions := by simp [h.extensions]
  reserve := by simp [h.reserve]
  renderers kind := by rw [renderers_change, renderers_change, h.renderers]
  transformers kind := by rw [transformers_change, transformers_change, h.transformers]

theorem Session.Agrees.changeAll (h : s.Agrees t) (cs : List Change) :
    (s.changeAll cs).Agrees (t.changeAll cs) := by
  induction cs generalizing s t with
  | nil => exact h
  | cons c cs ih => exact ih (h.change c)

/-- **Changes of different targets commute.** At each kind at most one of the two shows. -/
theorem agrees_change_change (s : Session) {c d : Change} (h : c.target ≠ d.target) :
    ((s.change c).change d).Agrees ((s.change d).change c) where
  host := by simp
  extensions := by simp
  reserve := by simp
  renderers kind := by
    simp only [renderers_change]
    by_cases hc : c.target = .renderer kind
    · rw [(d.rendererAt_eq_none_iff kind).mpr (hc ▸ h.symm)]
      rfl
    · rw [(c.rendererAt_eq_none_iff kind).mpr hc]
      rfl
  transformers kind := by
    simp only [transformers_change]
    by_cases hc : c.target = .transformer kind
    · rw [(d.transformerAt_eq_none_iff kind).mpr (hc ▸ h.symm)]
      rfl
    · rw [(c.transformerAt_eq_none_iff kind).mpr hc]
      rfl

/-- A change right before one of the same target does not show. -/
theorem agrees_change_of_target (s : Session) {c d : Change} (h : c.target = d.target) :
    ((s.change c).change d).Agrees (s.change d) where
  host := by simp
  extensions := by simp
  reserve := by simp
  renderers kind := by
    simp only [renderers_change]
    by_cases hc : c.target = .renderer kind
    · obtain ⟨found, hfound⟩ := Option.ne_none_iff_exists'.mp
        (mt (d.rendererAt_eq_none_iff kind).mp (not_not.mpr (h ▸ hc)))
      rw [hfound]
      rfl
    · rw [(c.rendererAt_eq_none_iff kind).mpr hc]
      rfl
  transformers kind := by
    simp only [transformers_change]
    by_cases hc : c.target = .transformer kind
    · obtain ⟨found, hfound⟩ := Option.ne_none_iff_exists'.mp
        (mt (d.transformerAt_eq_none_iff kind).mp (not_not.mpr (h ▸ hc)))
      rw [hfound]
      rfl
    · rw [(c.transformerAt_eq_none_iff kind).mpr hc]
      rfl

/-- **A change is absorbed by a later one of its target.** It moves past the changes of other
targets until it stands right before that one. -/
theorem agrees_absorbed {c : Change} {cs : List Change} (h : ∃ d ∈ cs, d.target = c.target)
    (s : Session) : ((s.change c).changeAll cs).Agrees (s.changeAll cs) := by
  induction cs generalizing s with
  | nil =>
    obtain ⟨d, hd, -⟩ := h
    exact absurd hd List.not_mem_nil
  | cons d cs ih =>
    by_cases hd : d.target = c.target
    · exact (agrees_change_of_target s hd.symm).changeAll cs
    · obtain ⟨e, he, htarget⟩ := h
      have hlater : e ∈ cs := by
        rcases List.mem_cons.mp he with rfl | hlater
        · exact absurd htarget hd
        · exact hlater
      exact ((agrees_change_change s (Ne.symm hd)).changeAll cs).trans
        (ih ⟨e, hlater, htarget⟩ (s.change d))

/-- Changes of different targets can be made in any order. -/
theorem agrees_of_perm {cs ds : List Change} (h : cs.Perm ds)
    (hdistinct : (cs.map Change.target).Nodup) (s : Session) :
    (s.changeAll cs).Agrees (s.changeAll ds) := by
  induction h generalizing s with
  | nil => exact .refl s
  | cons c _ ih =>
    rw [List.map_cons, List.nodup_cons] at hdistinct
    exact ih hdistinct.2 (s.change c)
  | swap c d cs =>
    rw [List.map_cons, List.map_cons, List.nodup_cons, List.mem_cons, not_or] at hdistinct
    exact (agrees_change_change s hdistinct.1.1).changeAll cs
  | trans hfirst _ ih ih' =>
    exact (ih hdistinct s).trans (ih' ((hfirst.map _).nodup_iff.mp hdistinct) s)

end

/-! ## Histories -/

/-- The changes of a history that still show after it: the last one of each target. -/
def lasting : List Step → List Change
  | [] => []
  | .render _ _ :: steps => lasting steps
  | .change c :: steps =>
    if c.target ∈ (lasting steps).map Change.target then lasting steps else c :: lasting steps

theorem lasting_nodup (steps : List Step) : ((lasting steps).map Change.target).Nodup := by
  induction steps with
  | nil => exact List.nodup_nil
  | cons step steps ih =>
    cases step with
    | render ids card => exact ih
    | change c =>
      rw [lasting]
      split
      · exact ih
      · next hnew => exact List.nodup_cons.mpr ⟨hnew, ih⟩

/-- **What remains of a history** is the last change of each target. -/
theorem agrees_lasting (s : Session) (steps : List Step) :
    (s.after steps).Agrees (s.changeAll (lasting steps)) := by
  induction steps generalizing s with
  | nil => exact .refl s
  | cons step steps ih =>
    cases step with
    | render ids card => exact ih s
    | change c =>
      change ((s.change c).after steps).Agrees _
      rw [lasting]
      split
      · next hlater =>
        obtain ⟨d, hd, htarget⟩ := List.mem_map.mp hlater
        exact (ih (s.change c)).trans (agrees_absorbed ⟨d, hd, htarget⟩ s)
      · exact ih (s.change c)

/-- Sessions that agree have the same outcomes from there on. -/
theorem Session.Agrees.outcomes {s t : Session} (h : s.Agrees t) (steps : List Step) :
    s.outcomes steps = t.outcomes steps := by
  induction steps generalizing s t with
  | nil => rfl
  | cons step steps ih =>
    cases step with
    | change c => exact ih (h.change c)
    | render ids card =>
      rw [Session.outcomes, Session.outcomes, h.render, ih h]

theorem outcomes_append (s : Session) (before steps : List Step) :
    s.outcomes (before ++ steps) = s.outcomes before ++ (s.after before).outcomes steps := by
  induction before generalizing s with
  | nil => rfl
  | cons step before ih =>
    cases step with
    | change c => exact ih (s.change c)
    | render ids card =>
      change s.render ids card :: s.outcomes (before ++ steps) = _
      rw [ih]
      rfl

/-- **Sessions have no memory.** Whatever was registered and rendered before, a session renders a
card as a fresh one does to which the last change of each target was made, in any order, and it goes
on as that one does. Changes of different targets commute, and a card that was rendered, or that
failed, leaves nothing behind but its outcome. -/
theorem outcomes_of_history (host : Host.Config) (extensions : List String) (reserve : Nat)
    (before after : List Step) (ids : IdSource) (card : Option Card) :
    let fresh : Session := { host, extensions, reserve }
    (∀ changes : List Change, changes.Perm (lasting before) →
      fresh.outcomes (before ++ .render ids card :: after) =
        fresh.outcomes before ++ (fresh.changeAll changes).render ids card ::
          (fresh.changeAll changes).outcomes after) ∧
    (∀ c d : Change, c.target ≠ d.target →
      fresh.outcomes (before ++ .change c :: .change d :: after) =
        fresh.outcomes (before ++ .change d :: .change c :: after)) ∧
    (fresh.outcomes (before ++ .render ids card :: after)).eraseIdx (fresh.outcomes before).length =
      fresh.outcomes (before ++ after) := by
  intro fresh
  refine ⟨fun changes hperm => ?_, fun c d htargets => ?_, ?_⟩
  · have hagrees : (fresh.after before).Agrees (fresh.changeAll changes) :=
      (agrees_lasting fresh before).trans
        (agrees_of_perm hperm.symm (lasting_nodup before) fresh)
    rw [outcomes_append, hagrees.outcomes]
    rfl
  · rw [outcomes_append, outcomes_append]
    congr 1
    exact (agrees_change_change (fresh.after before) htargets).outcomes after
  · rw [outcomes_append, outcomes_append, List.eraseIdx_append_of_length_le (Nat.le_refl _), Nat.sub_self]
    rfl

/-- A form that asks for a switch, a text and a date. -/
def formCard : Card :=
  cardOf [.toggle {}, .textInput {}, .dateInput {}] []

/-- A form is rendered while nothing can render its text; then that is mended, and dates are no
longer rendered. -/
def formHistory : List Step :=
  [.change (.setRenderer "Input.Text" fun _ _ => fail (.foreign "KeyError" "boom")),
    .render (listedIds ["a"]) (some formCard), .change (.removeRenderer "Input.Date"),
    .change (.setRenderer "Input.Text" fun _ node =>
      pure (some ((Tag.named "mark").setAttr "kind" node.kind)))]

/-- The pass that failed had issued the only id there is, and the next one issues it again. -/
theorem outcomes_of_history_form :
    let fresh : Session := {}
    (lasting formHistory).reverse.Perm (lasting formHistory) ∧
    (∃ cause, fresh.outcomes formHistory = [.error (.failed cause none)]) ∧
    ∃ rendered, fresh.outcomes (formHistory ++ [.render (listedIds ["a"]) (some formCard)]) =
        fresh.outcomes formHistory ++ [.ok rendered] ∧
      rendered.warnings = [.unsupported "Input.Date"] ∧
      (rendered.tag.findAll (some "mark") none).length = 1 := by
  have hperm : (lasting formHistory).reverse.Perm (lasting formHistory) := List.reverse_perm _
  obtain ⟨hfresh, -, -⟩ :=
    outcomes_of_history {} Markdown.defaultExtensions 1000 formHistory [] (listedIds ["a"])
      (some formCard)
  exact ⟨hperm, ⟨_, rfl⟩, _, hfresh _ hperm, rfl, rfl⟩

end Placard.Render
