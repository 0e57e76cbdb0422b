import Mathlib.Logic.Function.Basic
import Placard.Proofs.Document.Loaded
import Placard.Proofs.Render.Height
import Placard.Proofs.Render.Share

/-!
# Steps that succeed

`Succeeds m` says of a step that it gives a value whenever the source of ids never gives the same id
twice. The ids issued were then all taken from earlier places of the source, so the next one is new.
The rules follow the ways in which steps are made. All standard renderers succeed, but for those of
three kinds of nodes, for which more is asked:

* the limit of a text has to be a number that is not too large;
* the widths of the columns of a row must not be negative;
* a node of unknown kind may not be of a kind of the other family.
-/

namespace Placard.Render

open Data Document Number

variable {α β : Type}

/-- An outcome is a value if what it depends on is one. -/
theorem ok_bind {x : Except Fault α} {f : α → Except Fault β} (hx : ∃ a, x = .ok a)
    (hf : ∀ a, ∃ b, f a = .ok b) : ∃ b, (x >>= f) = .ok b := by
  obtain ⟨a, rfl⟩ := hx
  exact hf a

/-! ## Steps -/

/-- Whether all ids that were issued were taken from the source. -/
def Pass.IsDrawnFrom (source : IdSource) (p : Pass) : Prop :=
  ∀ id ∈ p.issued, ∃ place < p.taken, source place = id

/-- Whether the step gives a value if the source gives no id twice. -/
def Succeeds (m : Render α) : Prop :=
  ∀ source, Function.Injective source → ∀ p : Pass, p.IsDrawnFrom source →
    ∃ a q, m source p = (.ok a, q) ∧ q.IsDrawnFrom source

namespace Succeeds

variable {m : Render α} {f : α → Render β}

theorem pure (a : α) : Succeeds (pure a) :=
  fun _ _ p hp => ⟨a, p, rfl, hp⟩

theorem bind (hm : Succeeds m) (hf : ∀ a, Succeeds (f a)) : Succeeds (m >>= f) := by
  intro source hsource p hp
  obtain ⟨a, q, hrun, hq⟩ := hm source hsource p hp
  obtain ⟨b, r, hrun', hr⟩ := hf a source hsource q hq
  exact ⟨b, r, by rw [run_bind_ok hrun, hrun'], hr⟩

theorem map (hm : Succeeds m) (f : α → β) : Succeeds (f <$> m) := by
  rw [map_eq_pure_bind]
  exact hm.bind fun a => .pure (f a)

theorem ofExcept {x : Except Fault α} (h : ∃ a, x = .ok a) : Succeeds (ofExcept x) := by
  obtain ⟨a, rfl⟩ := h
  exact fun _ _ p hp => ⟨a, p, rfl, hp⟩

theorem warn (w : Warning) : Succeeds (warn w) :=
  fun _ _ p hp => ⟨(), _, run_warn w _ p, hp⟩

/-- The next id of the source is new. -/
theorem freshId : Succeeds freshId := by
  intro source hsource p hp
  have hnew : source p.taken ∉ p.issued := by
    intro hmem
    obtain ⟨place, hplace, heq⟩ := hp _ hmem
    exact absurd (hsource heq) (Nat.ne_of_lt hplace)
  have hnext : nextUnused? source p.issued maxAttempts p.taken =
      some (source p.taken, p.taken + 1) := by
    rw [maxAttempts, nextUnused?, if_neg (by simpa using hnew)]
  refine ⟨source p.taken, { p with issued := p.issued ++ [source p.taken], taken := p.taken + 1 },
    ?_, List.forall_mem_append.mpr ⟨fun id hid => ?_, ?_⟩⟩
  · unfold Render.freshId
    rw [hnext]
  · obtain ⟨place, hplace, heq⟩ := hp id hid
    exact ⟨place, Nat.lt_succ_of_lt hplace, heq⟩
  · exact List.forall_mem_singleton.mpr ⟨p.taken, Nat.lt_succ_self _, rfl⟩

theorem mapM {as : List α} (h : ∀ a ∈ as, Succeeds (f a)) : Succeeds (as.mapM f) := by
  induction as with
  | nil => exact .pure []
  | cons a as ih =>
    rw [List.forall_mem_cons] at h
    rw [List.mapM_cons]
    exact h.1.bind fun b => (ih h.2).map (b :: ·)

end Succeeds

/-! ## What a scene provides -/

/-- What a scene has to provide for the renderers to succeed. -/
structure Scene.IsReliable (s : Scene) : Prop where
  sizes : ∀ size, (Double.ofInt (s.host.fontSizes.size size)).isFinite
  convert : ∀ text, ∃ tags, s.convert text = .ok tags
  transformers : s.transformers = standardTransformers.get?

section

variable {s : Scene} (hs : s.IsReliable)

include hs

/-! ## Actions -/

omit hs in
/-- An action of a known kind that was loaded is an action of that kind. -/
theorem kind_of_isLoaded {u : Unknown} (hu : (Node.action (.unknown u)).IsLoaded) {kind : String}
    (hkind : kind ∈ actionKinds) : (Node.action (.unknown u)).kind ≠ kind := by
  rintro rfl
  exact hu hkind

theorem succeeds_transform {a : Action} (ha : (Node.action a).IsLoaded) (t : Tag) :
    Succeeds (s.transform (.action a) t) := by
  revert t
  refine transform_cases hs.transformers (.action a) (P := fun f => ∀ t, Succeeds (f t))
    (fun hkind t => ?_) (fun hkind t => ?_) (fun _ t => ?_) fun _ t => .pure t
  · cases a with
    | openUrl frame title url => exact Succeeds.bind (.pure _) fun _ => .pure _
    | unknown u => exact absurd hkind (kind_of_isLoaded ha (by decide))
    | _ => simp [Node.kind, Action.kind] at hkind
  · cases a with
    | submit frame title data =>
      obtain ⟨cs, hcs⟩ := ha
      have hwritten : written data = .ok (String.ofList cs) := by
        unfold written
        rw [hcs]
      change Succeeds (ofExcept (written data) >>= fun text => _)
      exact (Succeeds.ofExcept ⟨_, hwritten⟩).bind fun _ => .pure _
    | unknown u => exact absurd hkind (kind_of_isLoaded ha (by decide))
    | _ => simp [Node.kind, Action.kind] at hkind
  · exact Succeeds.freshId.bind fun _ => .pure _

theorem succeeds_asAction {a : Action} (ha : (Node.action a).IsLoaded) (t : Tag) :
    Succeeds (asAction s (.action a) t) :=
  succeeds_transform hs ha _

theorem succeeds_selectable {action : Option Action}
    (ha : ∀ a ∈ action, (Node.action a).IsLoaded) (t : Tag) : Succeeds (selectable s action t) := by
  cases action with
  | none => exact .pure t
  | some a =>
    unfold selectable
    dsimp only
    split
    · exact succeeds_asAction hs (ha a rfl) _
    · exact .pure t

theorem succeeds_renderAction {a : Action} (ha : (Node.action a).IsLoaded) :
    Succeeds (renderAction s (.action a)) := by
  unfold renderAction
  split
  · exact (succeeds_asAction hs ha _).bind fun tag => .pure _
  · exact .pure none

/-! ## Texts -/

theorem succeeds_textTag {t : TextBlock} (h : (Double.ofInt t.maxLines).isFinite) :
    Succeeds (ofExcept (textTag s t)) := by
  have hframe : ∃ frame, textFrame s t = .ok frame := by
    unfold textFrame
    refine ok_bind ⟨_, if_pos (hs.sizes t.size)⟩ fun size => ?_
    dsimp only
    split
    · exact ⟨_, rfl⟩
    · exact ok_bind ⟨_, if_pos h⟩ fun lines => ⟨_, rfl⟩
  refine .ofExcept (ok_bind hframe fun frame => ?_)
  exact ok_bind (hs.convert (Time.expand t.text)) fun content => ⟨_, rfl⟩

end

/-! ## Groups -/

section

variable {s : Scene}

theorem succeeds_addElements {es : List Element} (h : ∀ e ∈ es, Succeeds (s.render (.element e)))
    (t : Tag) : Succeeds (addElements s t es) := by
  induction es generalizing t with
  | nil => exact .pure t
  | cons e es ih =>
    rw [List.forall_mem_cons] at h
    rw [addElements]
    refine Succeeds.bind ?_ fun u => ih h.2 u
    refine h.1.bind fun tag => ?_
    cases tag <;> exact .pure _

theorem succeeds_addActions {as : List Action}
    (h : ∀ a ∈ as, Succeeds (s.render (.action a)) ∧
      ∀ card, cardOf? a = some card → Succeeds (s.render (.element (.card card))))
    (strip : Strip) : Succeeds (addActions s strip as) := by
  induction as generalizing strip with
  | nil => exact .pure strip
  | cons a as ih =>
    rw [List.forall_mem_cons] at h
    rw [addActions]
    refine Succeeds.bind ?_ fun strip => ih h.2 strip
    refine h.1.1.bind fun button => ?_
    cases button with
    | none => exact .pure strip
    | some button =>
      dsimp only
      split
      · next card hcard => exact (h.1.2 card hcard).bind fun _ => .pure _
      · exact Succeeds.bind (.pure none) fun _ => .pure _

theorem succeeds_addColumns {total : Double} {cs : List Column}
    (h : ∀ c ∈ cs, Succeeds (s.render (.element (.column c))) ∧ ∃ width, flex total c = .ok width)
    (t : Tag) : Succeeds (addColumns s total t cs) := by
  induction cs generalizing t with
  | nil => exact .pure t
  | cons c cs ih =>
    rw [List.forall_mem_cons] at h
    rw [addColumns]
    refine Succeeds.bind ?_ fun u => ih h.2 u
    refine h.1.1.bind fun tag => ?_
    cases tag with
    | none => exact .pure t
    | some tag => exact (Succeeds.ofExcept h.1.2).bind fun width => .pure _

theorem succeeds_factRow
    (h : ∀ layout text, Succeeds (s.render (.element (.textBlock (factText layout text)))))
    (f : Fact) : Succeeds (factRow s f) :=
  (h _ _).bind fun _ => (h _ _).bind fun _ => .pure _

theorem succeeds_renderChoiceSet (c : ChoiceSet) : Succeeds (renderChoiceSet s c) := by
  have hlist (control : Control) : Succeeds (choiceList s c control) :=
    Succeeds.bind (.mapM fun _ _ => Succeeds.freshId.bind fun _ => .pure _) fun _ => .pure _
  unfold renderChoiceSet
  split
  · exact (hlist _).bind fun _ => .pure _
  · split
    · exact .pure _
    · exact (hlist _).bind fun _ => .pure _

end

end Placard.Render
