import Placard.Proofs.Render.Issue
import Placard.Proofs.Render.Template

/-!
# Steps that ids do not steer

Two passes with ids from different sources are *level* if they have warned of the same and have
issued as many ids as each other. `Alike ids m n R` says of two steps that from level passes both
fail with one fault, or both give values that `R` relates and leave the passes level, unless one of
them finds no new id. The rules follow the ways in which steps are made, as those of `Issues` do;
`R` may speak of the ids of both steps, and only ever more of them are issued.
-/

namespace Placard.Render

variable {α β : Type}

/-- Passes that have warned of the same, and issued ids in pairs. -/
structure Level (ids : IdPairs) (p q : Pass) : Prop where
  first : p.issued = ids.map Prod.fst
  second : q.issued = ids.map Prod.snd
  warnings : p.warnings = q.warnings

/-- How two steps end that are alike. -/
inductive Ends (ids : IdPairs) (R : IdPairs → α → β → Prop) :
    Except Fault α × Pass → Except Fault β × Pass → Prop
  | firstExhausted {p : Pass} {y : Except Fault β × Pass} : Ends ids R (.error .exhaustedIds, p) y
  | secondExhausted {x : Except Fault α × Pass} {q : Pass} : Ends ids R x (.error .exhaustedIds, q)
  | fault (e : Fault) {p q : Pass} : Ends ids R (.error e, p) (.error e, q)
  | value {a : α} {b : β} {p q : Pass} (more : IdPairs) (level : Level (ids ++ more) p q)
      (related : R (ids ++ more) a b) : Ends ids R (.ok a, p) (.ok b, q)

/-- Steps that give related values and issue no ids. -/
theorem Ends.here {ids : IdPairs} {R : IdPairs → α → β → Prop} {a : α} {b : β} {p q : Pass}
    (hlevel : Level ids p q) (h : R ids a b) : Ends ids R (.ok a, p) (.ok b, q) := by
  refine .value [] ?_ ?_
  · rwa [List.append_nil]
  · rwa [List.append_nil]

/-- From level passes the steps end alike, whatever sources their ids come from. -/
def Alike (ids : IdPairs) (m : Render α) (n : Render β) (R : IdPairs → α → β → Prop) : Prop :=
  ∀ source source' p q, Level ids p q → Ends ids R (m source p) (n source' q)

namespace Alike

variable {α' β' : Type} {ids : IdPairs} {m : Render α} {n : Render β} {f : α → Render α'}
  {g : β → Render β'} {R : IdPairs → α → β → Prop} {S : IdPairs → α' → β' → Prop}

theorem pure {a : α} {b : β} (h : R ids a b) : Alike ids (pure a) (pure b) R := by
  intro source source' p q hlevel
  exact .here hlevel h

/-- What follows alike steps is judged by the ids that were issued by then. -/
theorem bind (hm : Alike ids m n R)
    (hf : ∀ more a b, R (ids ++ more) a b → Alike (ids ++ more) (f a) (g b) S) :
    Alike ids (m >>= f) (n >>= g) S := by
  intro source source' p q hlevel
  generalize hx : m source p = x
  generalize hy : n source' q = y
  have hends := hm source source' p q hlevel
  rw [hx, hy] at hends
  cases hends with
  | firstExhausted =>
    rw [run_bind_error hx]
    exact .firstExhausted
  | secondExhausted =>
    rw [run_bind_error hy]
    exact .secondExhausted
  | fault e =>
    rw [run_bind_error hx, run_bind_error hy]
    exact .fault e
  | @value a b p' q' more hlevel' hR =>
    rw [run_bind_ok hx, run_bind_ok hy]
    have hrest := hf more a b hR source source' p' q' hlevel'
    generalize f a source p' = x' at hrest
    generalize g b source' q' = y' at hrest
    cases hrest with
    | firstExhausted => exact .firstExhausted
    | secondExhausted => exact .secondExhausted
    | fault e => exact .fault e
    | value more' hlevel'' hS =>
      -- either pass issues the ids of the first step and then those of the second
      rw [List.append_assoc] at hlevel'' hS
      exact .value (more ++ more') hlevel'' hS

theorem map {f : α → α'} {g : β → β'} (hm : Alike ids m n R)
    (hf : ∀ more a b, R (ids ++ more) a b → S (ids ++ more) (f a) (g b)) :
    Alike ids (f <$> m) (g <$> n) S := by
  rw [map_eq_pure_bind, map_eq_pure_bind]
  exact hm.bind fun more a b hR => .pure (hf more a b hR)

/-- An outcome that does not come from a pass is the same for both. -/
theorem ofExcept {x : Except Fault α} {R : IdPairs → α → α → Prop} (h : ∀ a, R ids a a) :
    Alike ids (ofExcept x) (ofExcept x) R := by
  intro source source' p q hlevel
  cases x with
  | error e => exact .fault e
  | ok a => exact .here hlevel (h a)

/-- What follows an outcome is judged for one value in both passes. -/
theorem read {x : Except Fault α} {f : α → Render α'} {g : α → Render β'}
    (hf : ∀ more a, Alike (ids ++ more) (f a) (g a) S) :
    Alike ids (Render.ofExcept x >>= f) (Render.ofExcept x >>= g) S := by
  refine Alike.bind (.ofExcept (R := fun _ => Eq) fun _ => rfl) fun more a a' heq => ?_
  subst heq
  exact hf more a

/-- A tag that does not come from a pass. -/
theorem tag (x : Except Fault Tag) : Alike ids (Render.ofExcept x) (Render.ofExcept x) Twin :=
  .ofExcept .refl

/-- A tag that shows. -/
theorem maybe {m n : Render Tag} (h : Alike ids m n Twin) :
    Alike ids (Option.some <$> m) (Option.some <$> n) MaybeTwin :=
  h.map fun _ _ _ => .some

theorem fail (e : Fault) : Alike ids (fail e) (fail e) R := by
  intro source source' p q hlevel
  exact .fault e

/-- Both passes warn of the same. -/
theorem warn (w : Warning) : Alike ids (warn w) (warn w) fun ids' _ _ => ids' = ids := by
  intro source source' p q hlevel
  exact .here ⟨hlevel.first, hlevel.second, congrArg (· ++ [w]) hlevel.warnings⟩ rfl

/-- The fresh ids of both passes are issued together. -/
theorem freshId : Alike ids freshId freshId fun ids' id id' => (id, id') ∈ ids' := by
  intro source source' p q hlevel
  unfold Render.freshId
  split
  · next id _ _ =>
    split
    · next id' _ _ =>
      refine .value [(id, id')] ⟨?_, ?_, hlevel.warnings⟩ ?_
      · rw [List.map_append, ← hlevel.first]
        rfl
      · rw [List.map_append, ← hlevel.second]
        rfl
      · exact List.mem_append_right _ List.mem_cons_self
    · exact .secondExhausted
  · exact .firstExhausted

/-- Steps for the entries of one list, whose values stay related when more ids are issued. -/
theorem mapM {γ : Type} {f : γ → Render α} {g : γ → Render β}
    (hmono : ∀ ids more a b, R ids a b → R (ids ++ more) a b) (cs : List γ)
    (h : ∀ c ∈ cs, ∀ ids, Alike ids (f c) (g c) R) :
    Alike ids (cs.mapM f) (cs.mapM g) fun ids => List.Forall₂ (R ids) := by
  induction cs generalizing ids with
  | nil =>
    rw [List.mapM_nil, List.mapM_nil]
    exact .pure .nil
  | cons c cs ih =>
    rw [List.forall_mem_cons] at h
    rw [List.mapM_cons, List.mapM_cons]
    refine (h.1 ids).bind fun more a b hab => ?_
    refine (ih h.2).bind fun more' as bs hrest => .pure ?_
    exact .cons (hmono _ more' a b hab) hrest

end Alike

end Placard.Render
