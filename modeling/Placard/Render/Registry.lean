import Placard.Tag.Basic

/-!
# Registries

A registry gives the kinds of nodes what is registered for them, each kind once. A kind that is
registered again keeps its place and gets the new value; a kind that was removed comes back at the
end. A registry that was handed out never changes.
-/

namespace Placard

/-- What is registered for kinds of nodes, in the order of registration. -/
structure Registry (α : Type) where
  entries : List (String × α) := []

namespace Registry

variable {α : Type}

instance : Inhabited (Registry α) := ⟨{}⟩

/-- What is registered for a kind. -/
def get? (r : Registry α) (kind : String) : Option α :=
  valueAt? kind r.entries

/-- Whether anything is registered for a kind. -/
def contains (r : Registry α) (kind : String) : Bool :=
  (r.get? kind).isSome

/-- The number of kinds. -/
def size (r : Registry α) : Nat :=
  r.entries.length

/-- The kinds in order. -/
def kinds (r : Registry α) : List String :=
  r.entries.map (·.1)

/-- The registry with a value registered for a kind, replacing any before. -/
def set (r : Registry α) (kind : String) (a : α) : Registry α :=
  ⟨writeAt kind a r.entries⟩

/-- The registry without a kind. -/
def remove (r : Registry α) (kind : String) : Registry α :=
  ⟨r.entries.filter fun e => e.1 != kind⟩

/-- The registry with these kinds and values. -/
def ofList (entries : List (String × α)) : Registry α :=
  entries.foldl (fun r e => r.set e.1 e.2) {}

end Registry

end Placard
