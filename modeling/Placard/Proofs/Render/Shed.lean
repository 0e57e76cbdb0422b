import Placard.Proofs.Render.Quiet

/-!
# Steps that warn of less

`Sheds gone m n` says of two steps, from passes that have issued the same ids: if the first
succeeds, then the second gives the same value and issues the same ids, and it warns of the same in
the same order, but for the warnings `gone`, which only the first one gives. The rules follow the
ways in which steps are made. A step is `Steady` if what it does never depends on earlier warnings.
-/

namespace Placard.Render

variable {α β : Type}

/-! ## Interleaved lists -/

/-- The third list has the entries of the first and the second, each in their order. -/
inductive Interleaved : List α → List α → List α → Prop
  | nil : Interleaved [] [] []
  | left {a : α} {as bs cs : List α} : Interleaved as bs cs → Interleaved (a :: as) bs (a :: cs)
  | right {b : α} {as bs cs : List α} : Interleaved as bs cs → Interleaved as (b :: bs) (b :: cs)

namespace Interleaved

variable {as bs cs as' bs' cs' : List α}

theorem append (h : Interleaved as bs cs) (h' : Interleaved as' bs' cs') :
    Interleaved (as ++ as') (bs ++ bs') (cs ++ cs') := by
  induction h with
  | nil => exact h'
  | left _ ih => exact .left ih
  | right _ ih => exact .right ih

/-- Nothing has to be added to a list. -/
theorem refl (bs : List α) : Interleaved [] bs bs := by
  induction bs with
  | nil => exact .nil
  | cons b bs ih => exact .right ih

end Interleaved

/-! ## Steps -/

/-- Passes that have issued the same ids. -/
structure SameIds (p q : Pass) : Prop where
  issued : q.issued = p.issued
  taken : q.taken = p.taken

/-- The second step does what the first one does, but for some warnings. -/
def Sheds (gone : List Warning) (m n : Render α) : Prop :=
  ∀ source p a p', m source p = (.ok a, p') → ∀ q, SameIds p q →
    ∃ q' ws vs, n source q = (.ok a, q') ∧ SameIds p' q' ∧ p'.warnings = p.warnings ++ ws ∧
      q'.warnings = q.warnings ++ vs ∧ Interleaved gone vs ws

/-- What the step does never depends on earlier warnings. -/
def Steady (m : Render α) : Prop :=
  Sheds [] m m

namespace Sheds

variable {gone gone' : List Warning} {m n : Render α} {f g : α → Render β}

/-- What follows can rely on what is known of the value of the first step. -/
theorem bind_of {P : α → Prop} (hm : Sheds gone m n)
    (hP : ∀ source p a p', m source p = (.ok a, p') → P a)
    (hf : ∀ a, P a → Sheds gone' (f a) (g a)) : Sheds (gone ++ gone') (m >>= f) (n >>= g) := by
  intro source p b p'' hrun q hids
  match hstep : m source p with
  | (.error e, p') =>
    rw [run_bind_error hstep] at hrun
    cases (Prod.mk.inj hrun).1
  | (.ok a, p') =>
    rw [run_bind_ok hstep] at hrun
    obtain ⟨q', ws, vs, hstep', hids', hws, hvs, hgone⟩ := hm source p a p' hstep q hids
    obtain ⟨q'', ws', vs', hrun', hids'', hws', hvs', hgone'⟩ :=
      hf a (hP source p a p' hstep) source p' b p'' hrun q' hids'
    refine ⟨q'', ws ++ ws', vs ++ vs', ?_, hids'', ?_, ?_, hgone.append hgone'⟩
    · rw [run_bind_ok hstep', hrun']
    · rw [hws', hws, List.append_assoc]
    · rw [hvs', hvs, List.append_assoc]

theorem bind (hm : Sheds gone m n) (hf : ∀ a, Sheds gone' (f a) (g a)) :
    Sheds (gone ++ gone') (m >>= f) (n >>= g) :=
  hm.bind_of (P := fun _ => True) (fun _ _ _ _ _ => trivial) fun a _ => hf a

/-- What follows sheds no warnings. -/
theorem before (hm : Sheds gone m n) (hf : ∀ a, Sheds [] (f a) (g a)) :
    Sheds gone (m >>= f) (n >>= g) := by
  rw [← List.append_nil gone]
  exact hm.bind hf

/-- What follows a warning, and is left out with it. -/
theorem warned {m n : Render α} (w : Warning) (h : Sheds gone m n) :
    Sheds (w :: gone) (warn w >>= fun _ => m) n := by
  intro source p a p' hrun q hids
  rw [run_bind_ok (run_warn w source p)] at hrun
  obtain ⟨q', ws, vs, hrun', hids', hws, hvs, hgone⟩ :=
    h source _ a p' hrun q ⟨hids.issued, hids.taken⟩
  refine ⟨q', w :: ws, vs, hrun', hids', ?_, hvs, .left hgone⟩
  rw [hws, List.append_assoc, List.singleton_append]

end Sheds

/-- What looks at no warnings depends on none. -/
theorem Quiet.steady {m : Render α} (h : Quiet m) : Steady m := by
  intro source p a p' hrun q hids
  have hsame := h source p q.warnings
  rw [hrun] at hsame
  have hq : { p with warnings := q.warnings } = q := by
    obtain ⟨warnings, issued, taken⟩ := q
    obtain ⟨rfl, rfl⟩ := hids
    rfl
  rw [hq] at hsame
  exact ⟨_, [], [], hsame, ⟨rfl, rfl⟩, by rw [h.warnings hrun, List.append_nil],
    (List.append_nil _).symm, .nil⟩

namespace Steady

variable {gone : List Warning} {m : Render α} {f g : α → Render β}

theorem pure (a : α) : Steady (pure a) :=
  (Quiet.pure a).steady

theorem warn (w : Warning) : Steady (warn w) := by
  intro source p a p' hrun q hids
  obtain ⟨ha, rfl⟩ := Prod.mk.inj hrun
  obtain rfl := Except.ok.inj ha
  exact ⟨_, [w], [w], rfl, ⟨hids.issued, hids.taken⟩, rfl, rfl, .refl _⟩

/-- A steady step before two others. -/
theorem sheds (hm : Steady m) (hf : ∀ a, Sheds gone (f a) (g a)) :
    Sheds gone (m >>= f) (m >>= g) :=
  Sheds.bind hm hf

theorem bind (hm : Steady m) (hf : ∀ a, Steady (f a)) : Steady (m >>= f) :=
  hm.sheds hf

theorem map (hm : Steady m) (f : α → β) : Steady (f <$> m) := by
  rw [map_eq_pure_bind]
  exact hm.bind fun a => .pure (f a)

/-- What follows an outcome. -/
theorem read {x : Except Fault α} (hf : ∀ a, Steady (f a)) : Steady (ofExcept x >>= f) :=
  (Quiet.ofExcept x).steady.bind hf

theorem mapM {as : List α} (h : ∀ a ∈ as, Steady (f a)) : Steady (as.mapM f) := by
  induction as with
  | nil => exact .pure []
  | cons a as ih =>
    rw [List.forall_mem_cons] at h
    rw [List.mapM_cons]
    exact h.1.bind fun b => (ih h.2).map (b :: ·)

end Steady

end Placard.Render
