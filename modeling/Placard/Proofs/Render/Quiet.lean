import Mathlib.Data.List.Basic
import Placard.Proofs.Render.Standard

/-!
# What steps warn of

A step is `Quiet` if it warns of nothing and does the same whatever the warnings before it were.
`Warns ws m` says of a step that it warns of `ws` whenever it succeeds. The rules follow the ways in
which steps are made, and the warnings of two steps come one after the other.

All renderers are quiet but those that have further nodes rendered: only a node without a renderer
is warned of.
-/

namespace Placard.Render

open Document

variable {α β : Type}

/-! ## Quiet steps -/

/-- The step neither adds a warning nor looks at those before it. -/
def Quiet (m : Render α) : Prop :=
  ∀ source p ws, m source { p with warnings := ws } =
    ((m source p).1, { (m source p).2 with warnings := ws })

namespace Quiet

variable {m : Render α} {f : α → Render β}

/-- A quiet step leaves the warnings as they are. -/
theorem warnings (h : Quiet m) {source : IdSource} {p q : Pass} {x : Except Fault α}
    (hrun : m source p = (x, q)) : q.warnings = p.warnings := by
  have hsame := h source p p.warnings
  rw [hrun] at hsame
  exact congrArg (·.2.warnings) hsame

theorem pure (a : α) : Quiet (pure a) :=
  fun _ _ _ => rfl

theorem fail (e : Fault) : Quiet (fail e : Render α) :=
  fun _ _ _ => rfl

theorem ofExcept (x : Except Fault α) : Quiet (ofExcept x) :=
  fun _ _ _ => rfl

theorem freshId : Quiet freshId := by
  intro source p ws
  unfold Render.freshId
  dsimp only
  split <;> rfl

theorem bind (hm : Quiet m) (hf : ∀ a, Quiet (f a)) : Quiet (m >>= f) := by
  intro source p ws
  match hstep : m source p with
  | (.ok a, q) =>
    have hstep' := hm source p ws
    rw [hstep] at hstep'
    rw [run_bind_ok hstep, run_bind_ok hstep', hf a source q ws]
  | (.error e, q) =>
    have hstep' := hm source p ws
    rw [hstep] at hstep'
    rw [run_bind_error hstep, run_bind_error hstep']

theorem map (hm : Quiet m) (g : α → β) : Quiet (g <$> m) := by
  rw [map_eq_pure_bind]
  exact hm.bind fun a => .pure (g a)

/-- What follows an outcome. -/
theorem read {x : Except Fault α} (hf : ∀ a, Quiet (f a)) : Quiet (Render.ofExcept x >>= f) :=
  (ofExcept x).bind hf

theorem mapM {as : List α} (h : ∀ a ∈ as, Quiet (f a)) : Quiet (as.mapM f) := by
  induction as with
  | nil => exact .pure []
  | cons a as ih =>
    rw [List.forall_mem_cons] at h
    rw [List.mapM_cons]
    exact h.1.bind fun b => (ih h.2).map (b :: ·)

end Quiet

/-! ## Warnings -/

/-- The warnings for nodes of these kinds. -/
def unsupported (kinds : List String) : List Warning :=
  kinds.map .unsupported

theorem unsupported_append (kinds kinds' : List String) :
    unsupported (kinds ++ kinds') = unsupported kinds ++ unsupported kinds' :=
  List.map_append

/-- Whenever the step succeeds, it has warned of these. -/
def Warns (ws : List Warning) (m : Render α) : Prop :=
  ∀ source p a q, m source p = (.ok a, q) → q.warnings = p.warnings ++ ws

theorem Quiet.warns {m : Render α} (h : Quiet m) : Warns [] m := by
  intro source p a q hrun
  rw [h.warnings hrun, List.append_nil]

namespace Warns

variable {ws vs : List Warning} {m : Render α} {f : α → Render β}

theorem warn (w : Warning) : Warns [w] (warn w) := by
  intro source p a q hrun
  obtain ⟨-, rfl⟩ := Prod.mk.inj hrun
  rfl

/-- What follows can rely on what is known of the value of the first step. -/
theorem bind_of {P : α → Prop} (hm : Warns ws m)
    (hP : ∀ source p a q, m source p = (.ok a, q) → P a) (hf : ∀ a, P a → Warns vs (f a)) :
    Warns (ws ++ vs) (m >>= f) := by
  intro source p b r hrun
  match hstep : m source p with
  | (.ok a, q) =>
    rw [run_bind_ok hstep] at hrun
    rw [hf a (hP source p a q hstep) source q b r hrun, hm source p a q hstep, List.append_assoc]
  | (.error e, q) =>
    rw [run_bind_error hstep] at hrun
    cases (Prod.mk.inj hrun).1

theorem bind (hm : Warns ws m) (hf : ∀ a, Warns vs (f a)) : Warns (ws ++ vs) (m >>= f) :=
  hm.bind_of (P := fun _ => True) (fun _ _ _ _ _ => trivial) fun a _ => hf a

/-- What follows is quiet. -/
theorem before (hm : Warns ws m) (hf : ∀ a, Quiet (f a)) : Warns ws (m >>= f) := by
  rw [← List.append_nil ws]
  exact hm.bind fun a => (hf a).warns

end Warns

/-- What comes before is quiet. -/
theorem Quiet.then_warns {ws : List Warning} {m : Render α} {f : α → Render β} (hm : Quiet m)
    (hf : ∀ a, Warns ws (f a)) : Warns ws (m >>= f) :=
  hm.warns.bind hf

/-! ## Quiet renderers -/

section

variable {s : Scene}

theorem quiet_asAction (hs : s.transformers = standardTransformers.get?) (action : Node) (t : Tag) :
    Quiet (asAction s action t) := by
  have htransform (t : Tag) : Quiet (s.transform action t) := by
    refine transform_cases (P := fun treat => Quiet (treat t)) hs action ?_ ?_ ?_ ?_
    · intro _
      rw [linkAddress_eq]
      exact .read fun url => .pure _
    · intro _
      rw [linkData_eq]
      exact .read fun text => .pure _
    · exact fun _ => Quiet.freshId.bind fun id => .pure _
    · exact fun _ => .pure t
  exact htransform _

theorem quiet_selectable (hs : s.transformers = standardTransformers.get?) (action : Option Action)
    (t : Tag) : Quiet (selectable s action t) := by
  unfold selectable
  split
  · split
    · exact quiet_asAction hs _ _
    · exact .pure t
  · exact .pure t

theorem quiet_renderAction (hs : s.transformers = standardTransformers.get?) (action : Node) :
    Quiet (renderAction s action) := by
  unfold renderAction
  split
  · exact (quiet_asAction hs _ _).bind fun t => .pure _
  · exact .pure none

theorem quiet_renderImage (hs : s.transformers = standardTransformers.get?) (i : Image) :
    Quiet (renderImage s i) :=
  (quiet_selectable hs _ _).bind fun _ => .pure _

theorem quiet_renderChoiceSet (c : ChoiceSet) : Quiet (renderChoiceSet s c) := by
  have hlist (control : Control) : Quiet (choiceList s c control) :=
    (Quiet.mapM fun choice _ => Quiet.freshId.bind fun id => .pure _).bind fun rows => .pure _
  unfold renderChoiceSet
  split
  · exact (hlist _).bind fun t => .pure _
  · split
    · exact .pure _
    · exact (hlist _).bind fun t => .pure _

theorem quiet_renderToggle (t : Toggle) : Quiet (renderToggle s t) :=
  Quiet.freshId.bind fun _ => .pure _

theorem quiet_renderMisplaced (hs : s.transformers = standardTransformers.get?) (node : Node)
    (u : Unknown) : Quiet (renderMisplaced s node u) := by
  have hchoices : Quiet (misplacedChoices (member node)) := by
    refine .read fun _ => .read fun choices => ?_
    cases choices with
    | nil => exact .pure _
    | cons v vs => exact Quiet.freshId.bind fun id => .ofExcept _
  unfold renderMisplaced
  dsimp only
  split
  case h_9 =>
    refine Quiet.map ?_ _
    unfold misplacedChoiceSet
    refine .read fun several => ?_
    split
    · exact hchoices
    · refine .read fun style => ?_
      split
      · exact .ofExcept _
      · exact hchoices
  case h_14 =>
    refine Quiet.map (Quiet.freshId.bind fun id => ?_) _
    exact .read fun on => .read fun off => .read fun value => .read fun title => .pure _
  case h_15 => exact quiet_renderAction hs node
  -- nodes of all other kinds give an outcome
  all_goals exact (Quiet.ofExcept _).map _

end

end Placard.Render
