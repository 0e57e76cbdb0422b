import Placard.Proofs.Render.History
import Placard.Proofs.Render.Quiet

/-!
# Steps that do not look at warnings

A step is `Heedless` if it warns of nodes without renderers at most, of the same ones and with the
same outcome whatever was warned of before it. The rules follow the ways in which steps are made; the
standard renderers follow them too, if the nodes in their nodes are rendered heedlessly. So is every
node then (`Session.IsThinned.heedless_render`), by induction on how deep it may go, and also
when renderers were removed.
-/

namespace Placard.Render

open Document

variable {α β : Type}

/-- The step warns of nodes without renderers at most, and never looks at the warnings before it. -/
def Heedless (m : Render α) : Prop :=
  ∀ source p, ∃ kinds, ∀ ws, m source { p with warnings := ws } =
    ((m source p).1, { (m source p).2 with warnings := ws ++ unsupported kinds })

theorem Quiet.heedless {m : Render α} (h : Quiet m) : Heedless m := by
  intro source p
  refine ⟨[], fun ws => ?_⟩
  rw [h source p ws]
  exact congrArg (fun ws => (_, { (m source p).2 with warnings := ws })) (List.append_nil ws).symm

namespace Heedless

variable {m : Render α} {f : α → Render β}

theorem pure (a : α) : Heedless (pure a) :=
  (Quiet.pure a).heedless

theorem fail (e : Fault) : Heedless (fail e : Render α) :=
  (Quiet.fail e).heedless

theorem warn (kind : String) : Heedless (warn (.unsupported kind)) := by
  intro source p
  exact ⟨[kind], fun ws => rfl⟩

theorem bind (hm : Heedless m) (hf : ∀ a, Heedless (f a)) : Heedless (m >>= f) := by
  intro source p
  obtain ⟨kinds, hsame⟩ := hm source p
  match hstep : m source p with
  | (.error e, q) =>
    refine ⟨kinds, fun ws => ?_⟩
    have hsame := hsame ws
    rw [hstep] at hsame
    rw [run_bind_error hstep, run_bind_error hsame]
  | (.ok a, q) =>
    obtain ⟨kinds', hsame'⟩ := hf a source q
    refine ⟨kinds ++ kinds', fun ws => ?_⟩
    have hsame := hsame ws
    rw [hstep] at hsame
    rw [run_bind_ok hstep, run_bind_ok hsame, hsame', unsupported_append, List.append_assoc]

theorem map (hm : Heedless m) (g : α → β) : Heedless (g <$> m) := by
  rw [map_eq_pure_bind]
  exact hm.bind fun a => .pure (g a)

theorem mapM {as : List α} (h : ∀ a, Heedless (f a)) : Heedless (as.mapM f) := by
  induction as with
  | nil => exact .pure []
  | cons a as ih =>
    rw [List.mapM_cons]
    exact (h a).bind fun b => ih.map (b :: ·)

end Heedless

/-! ## Heedless renderers -/

section

variable {s : Scene} (h : ∀ n, Heedless (s.render n))

include h

theorem heedless_addElements (t : Tag) (es : List Element) : Heedless (addElements s t es) := by
  induction es generalizing t with
  | nil => exact .pure t
  | cons e es ih =>
    refine Heedless.bind ((h _).bind fun tag => ?_) ih
    cases tag with
    | none => exact .pure t
    | some u => exact .pure _

theorem heedless_addColumns (total : Number.Double) (row : Tag) (cs : List Column) :
    Heedless (addColumns s total row cs) := by
  induction cs generalizing row with
  | nil => exact .pure row
  | cons c cs ih =>
    refine Heedless.bind ((h _).bind fun tag => ?_) ih
    cases tag with
    | none => exact .pure row
    | some u => exact (Quiet.read fun width => .pure _).heedless

theorem heedless_addAction (strip : Strip) (a : Action) : Heedless (addAction s strip a) := by
  refine (h _).bind fun button => ?_
  cases button with
  | none => exact .pure strip
  | some button =>
    -- an action without a card shows nothing
    cases cardOf? a with
    | none => exact .pure _
    | some card => exact (h _).bind fun tag => .pure _

theorem heedless_addActions (strip : Strip) (as : List Action) :
    Heedless (addActions s strip as) := by
  induction as generalizing strip with
  | nil => exact .pure strip
  | cons a as ih => exact (heedless_addAction h strip a).bind ih

theorem heedless_addStrip (t : Tag) (as : List Action) : Heedless (addStrip s t as) := by
  unfold addStrip
  split
  · exact (heedless_addActions h _ _).bind fun strip => .pure _
  · exact .pure t

variable (hs : s.transformers = standardTransformers.get?)

include hs

theorem heedless_renderStack (kind : String) (items : List Element) (action : Option Action) :
    Heedless (renderStack s kind items action) :=
  (heedless_addElements h _ items).bind fun t =>
    (quiet_selectable hs action t).heedless.bind fun _ => .pure _

/-- **One node.** A renderer is heedless if the nodes in its node are rendered heedlessly. -/
theorem heedless_renderNode (n : Node) : Heedless (renderNode s n) := by
  cases n with
  | element e =>
    cases e with
    | card c =>
      exact (heedless_addElements h _ c.body).bind fun t =>
        (heedless_addStrip h t c.actions).bind fun _ => .pure _
    | container c => exact heedless_renderStack h hs _ c.items c.selectAction
    | column c => exact heedless_renderStack h hs _ c.items c.selectAction
    | columnSet c =>
      exact (quiet_selectable hs c.selectAction _).heedless.bind fun row =>
        (heedless_addColumns h _ row c.columns).bind fun _ => .pure _
    | factSet f =>
      have hrow (fact : Fact) : Heedless (factRow s fact) :=
        (h _).bind fun title => (h _).bind fun value => .pure _
      exact (Heedless.mapM hrow).bind fun rows => .pure _
    | imageSet images =>
      have hmember (i : Image) : Heedless (setMember s images.imageSize i) :=
        (h _).bind fun tag => .pure _
      exact (Heedless.mapM hmember).bind fun tags => .pure _
    | image i => exact (quiet_renderImage hs i).heedless
    | textBlock t => exact ((Quiet.ofExcept _).map _).heedless
    | choiceSet c => exact (quiet_renderChoiceSet c).heedless
    | toggle t => exact (quiet_renderToggle t).heedless
    | unknown u => exact (quiet_renderMisplaced hs _ u).heedless
    | _ => exact .pure _
  | action a =>
    cases a with
    | unknown u => exact (quiet_renderMisplaced hs _ u).heedless
    | _ => exact (quiet_renderAction hs _).heedless

end

/-! ## Sessions without some of the renderers -/

namespace Session

/-- The session without renderers for these kinds. -/
def without (s : Session) (kinds : List String) : Session :=
  kinds.foldl removeRenderer s

/-- All registered renderers are the standard one, and actions are treated in the standard ways. -/
structure IsThinned (s : Session) : Prop where
  renderers : ∀ kind renderer, s.renderers.get? kind = some renderer → renderer = renderNode
  transformers : s.transformers = standardTransformers

theorem IsThinned.without {s : Session} (h : s.IsThinned) (kinds : List String) :
    (s.without kinds).IsThinned := by
  induction kinds generalizing s with
  | nil => exact h
  | cons kind kinds ih =>
    refine ih ⟨fun other renderer hget => ?_, h.transformers⟩
    rw [removeRenderer, Registry.get?_remove] at hget
    split at hget
    · cases hget
    · exact h.renderers other renderer hget

/-- A fresh session stays so, whatever renderers are removed from it. -/
theorem isThinned_without (host : Host.Config) (extensions kinds : List String) :
    (({ host := host, extensions := extensions } : Session).without kinds).IsThinned :=
  IsThinned.without ⟨fun _ _ => standardRenderers_get, rfl⟩ kinds

theorem IsThinned.heedless_render {s : Session} (h : s.IsThinned) (n : Node) :
    Heedless (s.stage.render n) := by
  have hwithin (depth : Nat) (n : Node) : Heedless (s.stage.renderWithin depth n) := by
    induction depth generalizing n with
    | zero => exact .fail _
    | succ depth ih =>
      unfold Stage.renderWithin
      split
      · next renderer hget =>
        rw [h.renderers _ renderer hget]
        exact heedless_renderNode ih (scene_transformers h.transformers _) n
      · exact (Heedless.warn _).bind fun _ => .pure none
  exact hwithin _ n

end Session

end Placard.Render
