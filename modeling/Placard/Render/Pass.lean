import Placard.Render.Fault

/-!
# Passes

Rendering one card is a pass. Its state is the warnings so far and the ids issued so far; its ids
come from a source that may give the same one more than once.

* `Render α`: a step of a pass that gives an `α` or a fault. What it has warned of and issued before
  a fault stays in the state.
* `freshId`: an id that this pass has not issued before.
-/

namespace Placard.Render

/-- Where ids come from: the first one, the second one, and so on. -/
abbrev IdSource :=
  Nat → String

/-- The state of a pass. -/
structure Pass where
  warnings : List Warning := []
  /-- the ids issued, in order -/
  issued : List String := []
  /-- how many ids were taken from the source -/
  taken : Nat := 0
deriving DecidableEq

end Placard.Render

namespace Placard

/-- A step of a pass. -/
def Render (α : Type) : Type :=
  Render.IdSource → Render.Pass → Except Render.Fault α × Render.Pass

namespace Render

variable {α β : Type}

/-- The step that changes nothing. -/
protected def pure (a : α) : Render α := fun _ pass =>
  (.ok a, pass)

/-- A step and what follows it, unless it fails. -/
protected def bind (m : Render α) (f : α → Render β) : Render β := fun source pass =>
  match m source pass with
  | (.ok a, pass) => f a source pass
  | (.error e, pass) => (.error e, pass)

instance : Monad Render where
  pure := Render.pure
  bind := Render.bind

/-- A step that fails. -/
def fail (e : Fault) : Render α := fun _ pass =>
  (.error e, pass)

/-- A step that gives what an outcome gives. -/
def ofExcept (x : Except Fault α) : Render α := fun _ pass =>
  (x, pass)

/-- A step that warns. -/
def warn (w : Warning) : Render Unit := fun _ pass =>
  (.ok (), { pass with warnings := pass.warnings ++ [w] })

/-- The first id from a place of the source on that is not issued, among as many as given, and the
place after it. -/
def nextUnused? (source : IdSource) (issued : List String) : Nat → Nat → Option (String × Nat)
  | 0, _ => none
  | attempts + 1, place =>
    if issued.contains (source place) then nextUnused? source issued attempts (place + 1)
    else some (source place, place + 1)

/-- How many ids are taken from the source in search of one that is not issued. -/
def maxAttempts : Nat := 100

/-- A step that issues an id for the first time. -/
def freshId : Render String := fun source pass =>
  match nextUnused? source pass.issued maxAttempts pass.taken with
  | some (id, taken) => (.ok id, { pass with issued := pass.issued ++ [id], taken })
  | none => (.error .exhaustedIds, { pass with taken := pass.taken + maxAttempts })

/-! ## Equations -/

theorem run_pure (a : α) (source : IdSource) (pass : Pass) :
    (pure a : Render α) source pass = (.ok a, pass) := rfl

theorem run_warn (w : Warning) (source : IdSource) (pass : Pass) :
    warn w source pass = (.ok (), { pass with warnings := pass.warnings ++ [w] }) := rfl

/-- After a step that gives a value the rest runs from the state it leaves. -/
theorem run_bind_ok {m : Render α} {f : α → Render β} {source : IdSource} {p q : Pass} {a : α}
    (h : m source p = (.ok a, q)) : (m >>= f) source p = f a source q := by
  simp only [bind, Render.bind, h]

/-- After a step that fails nothing runs. -/
theorem run_bind_error {m : Render α} {f : α → Render β} {source : IdSource} {p q : Pass}
    {e : Fault} (h : m source p = (.error e, q)) : (m >>= f) source p = (.error e, q) := by
  simp only [bind, Render.bind, h]

instance : LawfulMonad Render := LawfulMonad.mk' Render
  (fun x => by
    funext source pass
    simp only [Functor.map, Render.bind]
    match x source pass with
    | (.ok a, q) => rfl
    | (.error e, q) => rfl)
  (fun a f => rfl)
  (fun x f g => by
    funext source pass
    simp only [bind, Render.bind]
    match x source pass with
    | (.ok a, q) => rfl
    | (.error e, q) => rfl)

end Render

end Placard
