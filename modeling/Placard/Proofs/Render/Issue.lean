import Mathlib.Data.List.Nodup
import Placard.Render.Pass

/-!
# What steps issue

`Gives x P` says of an outcome that `P` holds of its value, if it is one. `Issues m Q` says of a
step that the ids it issues are new, and that `Q` holds of them and of the value it gives. Ids are
only ever appended, so what a step issues is a segment of the ids of the pass, and the segments of
two steps are disjoint. The rules follow the ways in which steps are made; nothing is said of a step
that fails.
-/

namespace Placard.Render

variable {α β : Type}

/-! ## Outcomes -/

/-- If the outcome is a value, `P` holds of it. -/
def Gives (x : Except Fault α) (P : α → Prop) : Prop :=
  ∀ a, x = .ok a → P a

namespace Gives

variable {x : Except Fault α} {f : α → Except Fault β} {P : α → Prop} {P' : β → Prop}

theorem pure {a : α} (h : P a) : Gives (pure a) P := by
  intro b hb
  obtain rfl := Except.ok.inj hb
  exact h

theorem error (e : Fault) : Gives (.error e) P :=
  fun _ h => by cases h

theorem bind (hx : Gives x P) (hf : ∀ a, P a → Gives (f a) P') : Gives (x >>= f) P' := by
  intro b hb
  cases x with
  | error e => cases hb
  | ok a => exact hf a (hx a rfl) b hb

/-- Nothing is asked of what comes before. -/
theorem seq (hf : ∀ a, Gives (f a) P') : Gives (x >>= f) P' :=
  bind (P := fun _ => True) (fun _ _ => trivial) fun a _ => hf a

end Gives

/-! ## Steps -/

/-- Whenever the step succeeds, `Q` holds of the ids that it issues and of its value. All ids of a
pass stay distinct. -/
def Issues (m : Render α) (Q : List String → α → Prop) : Prop :=
  ∀ source p a q, m source p = (.ok a, q) →
    ∃ new, q.issued = p.issued ++ new ∧ (p.issued.Nodup → q.issued.Nodup) ∧ Q new a

namespace Issues

variable {m : Render α} {f : α → Render β} {Q Q' : List String → α → Prop}
  {R : List String → β → Prop}

theorem mono (h : Issues m Q) (hle : ∀ new a, Q new a → Q' new a) : Issues m Q' := by
  intro source p a q hm
  obtain ⟨new, hissued, hnodup, hQ⟩ := h source p a q hm
  exact ⟨new, hissued, hnodup, hle new a hQ⟩

theorem pure {a : α} (h : Q [] a) : Issues (pure a) Q := by
  intro source p b q hm
  rw [run_pure] at hm
  obtain ⟨hb, rfl⟩ := Prod.mk.inj hm
  obtain rfl := Except.ok.inj hb
  exact ⟨[], (List.append_nil _).symm, id, h⟩

/-- What follows a step is judged by the ids of both. -/
theorem bind (hm : Issues m Q)
    (hf : ∀ new a, Q new a → Issues (f a) fun more b => R (new ++ more) b) :
    Issues (m >>= f) R := by
  intro source p b r hrun
  match hstep : m source p with
  | (.ok a, q) =>
    rw [run_bind_ok hstep] at hrun
    obtain ⟨new, hissued, hnodup, hQ⟩ := hm source p a q hstep
    obtain ⟨more, hissued', hnodup', hR⟩ := hf new a hQ source q b r hrun
    -- the second step starts with the ids that the first one has left behind
    refine ⟨new ++ more, ?_, fun h => hnodup' (hnodup h), hR⟩
    rw [hissued', hissued, List.append_assoc]
  | (.error e, q) =>
    rw [run_bind_error hstep] at hrun
    cases (Prod.mk.inj hrun).1

theorem ofExcept {x : Except Fault α} (h : Gives x (Q [])) : Issues (ofExcept x) Q := by
  intro source p a q hm
  obtain ⟨hx, rfl⟩ := Prod.mk.inj hm
  exact ⟨[], (List.append_nil _).symm, id, h a hx⟩

/-- What follows an outcome issues all ids of the two. -/
theorem read {x : Except Fault α} (hf : ∀ a, Issues (f a) R) :
    Issues (Render.ofExcept x >>= f) R := by
  refine bind (ofExcept (Q := fun new _ => new = []) fun _ _ => rfl) fun new a hnew => ?_
  subst hnew
  exact hf a

/-- A step whose value is only changed issues its own ids. -/
theorem give {g : α → β} (hm : Issues m Q) (hg : ∀ new a, Q new a → R new (g a)) :
    Issues (m >>= fun a => Pure.pure (g a)) R := by
  refine hm.bind fun new a hQ => .pure ?_
  rw [List.append_nil]
  exact hg new a hQ

theorem map {g : α → β} (hm : Issues m Q) (hg : ∀ new a, Q new a → R new (g a)) :
    Issues (g <$> m) R := by
  rw [map_eq_pure_bind]
  exact hm.give hg

theorem fail (e : Fault) : Issues (fail e) Q := by
  intro source p a q hm
  cases (Prod.mk.inj hm).1

theorem warn (w : Warning) : Issues (warn w) fun new _ => new = [] := by
  intro source p a q hm
  obtain ⟨-, rfl⟩ := Prod.mk.inj hm
  exact ⟨[], (List.append_nil _).symm, id, rfl⟩

/-- What a step issues is one thing, however much is said of it. -/
theorem and (h : Issues m Q) (h' : Issues m Q') : Issues m fun new a => Q new a ∧ Q' new a := by
  intro source p a q hm
  obtain ⟨new, hissued, hnodup, hQ⟩ := h source p a q hm
  obtain ⟨new', hissued', -, hQ'⟩ := h' source p a q hm
  rw [hissued] at hissued'
  obtain rfl := List.append_cancel_left hissued'
  exact ⟨new, hissued, hnodup, hQ, hQ'⟩

end Issues

/-- The values of a list of steps, judged together. -/
theorem Issues.mapM {f : α → Render β} {Q : List String → β → Prop}
    {R : List String → List β → Prop} (hnil : R [] [])
    (hcons : ∀ new more b bs, Q new b → R more bs → R (new ++ more) (b :: bs)) (as : List α)
    (h : ∀ a ∈ as, Issues (f a) Q) : Issues (as.mapM f) R := by
  induction as with
  | nil =>
    rw [List.mapM_nil]
    exact .pure hnil
  | cons a as ih =>
    rw [List.forall_mem_cons] at h
    rw [List.mapM_cons]
    refine h.1.bind fun new b hb => ?_
    refine (ih h.2).bind fun more bs hbs => .pure ?_
    rw [List.append_nil]
    exact hcons new more b bs hb hbs

/-! ## Fresh ids -/

/-- The search ends at the first value that is not issued, or has come to issued ones only. -/
theorem nextUnused_cases (source : IdSource) (issued : List String) (attempts place : Nat) :
    (∃ i < attempts, (∀ j < i, source (place + j) ∈ issued) ∧ source (place + i) ∉ issued ∧
      nextUnused? source issued attempts place = some (source (place + i), place + i + 1)) ∨
    ((∀ i < attempts, source (place + i) ∈ issued) ∧
      nextUnused? source issued attempts place = none) := by
  induction attempts generalizing place with
  | zero => exact .inr ⟨fun i hi => absurd hi (Nat.not_lt_zero i), rfl⟩
  | succ attempts ih =>
    rw [nextUnused?]
    by_cases hfirst : source place ∈ issued
    · rw [if_pos (by simpa using hfirst)]
      have hshift (i : Nat) : place + 1 + i = place + (i + 1) := by omega
      -- what is said of the places behind the first one is said of all of them
      have hall {k : Nat} (h : ∀ i < k, source (place + 1 + i) ∈ issued) :
          ∀ i < k + 1, source (place + i) ∈ issued := by
        rintro (_ | i) hi
        · exact hfirst
        · rw [← hshift]
          exact h i (by omega)
      rcases ih (place + 1) with ⟨i, hi, hused, hnew, hfound⟩ | ⟨hused, hnone⟩
      · rw [hshift] at hnew hfound
        exact .inl ⟨i + 1, by omega, hall hused, hnew, hfound⟩
      · exact .inr ⟨hall hused, hnone⟩
    · rw [if_neg (by simpa using hfirst)]
      exact .inl ⟨0, by omega, fun j hj => absurd hj (Nat.not_lt_zero j), hfirst, rfl⟩

/-- **One call for an id.** It issues the first value that is new, if that is among the next
hundred, and takes no more of them; else it takes all hundred and issues none. -/
theorem freshId_cases (source : IdSource) (p : Pass) :
    (∃ i < 100, (∀ j < i, source (p.taken + j) ∈ p.issued) ∧ source (p.taken + i) ∉ p.issued ∧
      freshId source p = (.ok (source (p.taken + i)),
        { p with issued := p.issued ++ [source (p.taken + i)], taken := p.taken + i + 1 })) ∨
    ((∀ i < 100, source (p.taken + i) ∈ p.issued) ∧
      freshId source p = (.error .exhaustedIds, { p with taken := p.taken + 100 })) := by
  unfold freshId maxAttempts
  rcases nextUnused_cases source p.issued 100 p.taken with ⟨i, hi, hused, hnew, h⟩ | ⟨hused, h⟩
  · rw [h]
    exact .inl ⟨i, hi, hused, hnew, rfl⟩
  · rw [h]
    exact .inr ⟨hused, rfl⟩

/-- A fresh id is the only one that its step issues. -/
theorem issues_freshId : Issues freshId fun new id => new = [id] := by
  intro source p id q hm
  rcases freshId_cases source p with ⟨i, -, -, hnew, hcall⟩ | ⟨-, hcall⟩
  · rw [hcall] at hm
    obtain ⟨hid, rfl⟩ := Prod.mk.inj hm
    obtain rfl := Except.ok.inj hid
    refine ⟨[source (p.taken + i)], rfl, fun h => ?_, rfl⟩
    rw [← List.concat_eq_append]
    exact h.concat hnew
  · rw [hcall] at hm
    cases (Prod.mk.inj hm).1

/-! ## Steps with ids from one source -/

/-- The step with its ids from a source, whatever the source of the pass is. -/
def pinned (source : IdSource) (m : Render α) : Render α := fun _ pass =>
  m source pass

/-- Whenever the step succeeds with ids from this source, `Q` holds of the ids that it issues and of
its value. -/
def IssuesFrom (source : IdSource) (m : Render α) (Q : List String → α → Prop) : Prop :=
  Issues (pinned source m) Q

theorem Issues.from_source {m : Render α} {Q : List String → α → Prop} (h : Issues m Q)
    (source : IdSource) : IssuesFrom source m Q :=
  fun _ => h source

theorem Issues.of_source {m : Render α} {Q : List String → α → Prop}
    (h : ∀ source, IssuesFrom source m Q) : Issues m Q :=
  fun source => h source source

namespace IssuesFrom

variable {source : IdSource} {m : Render α} {f : α → Render β} {Q Q' : List String → α → Prop}
  {R : List String → β → Prop}

theorem mono (h : IssuesFrom source m Q) (hle : ∀ new a, Q new a → Q' new a) :
    IssuesFrom source m Q' :=
  Issues.mono h hle

theorem pure {a : α} (h : Q [] a) : IssuesFrom source (pure a) Q :=
  (Issues.pure h).from_source source

theorem bind (hm : IssuesFrom source m Q)
    (hf : ∀ new a, Q new a → IssuesFrom source (f a) fun more b => R (new ++ more) b) :
    IssuesFrom source (m >>= f) R :=
  Issues.bind (f := fun a => pinned source (f a)) hm hf

theorem give {g : α → β} (hm : IssuesFrom source m Q) (hg : ∀ new a, Q new a → R new (g a)) :
    IssuesFrom source (m >>= fun a => Pure.pure (g a)) R :=
  Issues.give hm hg

theorem read {x : Except Fault α} (hf : ∀ a, IssuesFrom source (f a) R) :
    IssuesFrom source (ofExcept x >>= f) R :=
  Issues.read (f := fun a => pinned source (f a)) hf

/-- The value of a step is one that the step gives. -/
theorem self (h : IssuesFrom source m Q) :
    IssuesFrom source m fun new a => Q new a ∧ ∃ p q, m source p = (.ok a, q) := by
  intro source' p a q hm
  obtain ⟨new, hissued, hnodup, hQ⟩ := h source' p a q hm
  exact ⟨new, hissued, hnodup, hQ, p, q, hm⟩

end IssuesFrom

end Placard.Render
