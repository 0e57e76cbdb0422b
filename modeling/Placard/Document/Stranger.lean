import Placard.Document.Basic

/-!
# Nodes of unknown kind in a document

`strangers` looks through the plain data of a document for objects whose type is not known,
wherever nodes can stand: below the members for nodes, and in lists. Each is reported with its
path; what other members hold is not looked at.
-/

namespace Placard.Document

open Placard.Text Placard.Data

/-- A step of a path into a document. -/
inductive Step where
  | member (name : String)
  | position (i : Nat)
deriving DecidableEq

/-- The text of a step. -/
def Step.text : Step → String
  | .member name => "." ++ name
  | .position i => "[" ++ String.ofList (natText i) ++ "]"

/-- An object of a kind that is not known, and the path to it. -/
structure Stranger where
  path : List Step
  kind : String
deriving DecidableEq

/-- The text of a path below a start. -/
def pathText (start : String) (path : List Step) : String :=
  path.foldl (fun text step => text ++ step.text) start

/-- The wording of the report, with the path below a start. -/
def Stranger.message (start : String) (s : Stranger) : String :=
  pathText start s.path ++ ": Unknown element type '" ++ s.kind ++ "' will be omitted"

/-- The members that hold nodes, in the order in which they are looked through. -/
def nodeMembers : List String :=
  ["body", "items", "columns", "images", "actions", "card", "selectAction"]

/-- Whether a kind of element or action is known. -/
def isKnownKind (kind : String) : Bool :=
  elementKinds.contains kind || actionKinds.contains kind

/-- The stranger that an object with these entries is, if it is one. -/
def ownStranger (path : List Step) (entries : List (Value × Value)) : List Stranger :=
  match Value.find? "type" entries with
  | some (.text kind) => if isKnownKind kind then [] else [{ path, kind }]
  | _ => []

mutual

/-- The strangers in a value at a path: an object before what is in its members. -/
def strangersAt (path : List Step) : Value → List Stranger
  | .map entries =>
    ownStranger path entries ++
      nodeMembers.flatMap fun name => strangersUnder (path ++ [.member name]) name entries
  | .list items => strangersFrom path 0 items
  | _ => []

/-- The strangers in the member of a name. -/
def strangersUnder (path : List Step) (name : String) : List (Value × Value) → List Stranger
  | [] => []
  | (key, v) :: rest =>
    let here := match key with
      | .text s => s == name
      | _ => false
    if here then strangersAt path v else strangersUnder path name rest

/-- The strangers in the items of a list from a position on. -/
def strangersFrom (path : List Step) (i : Nat) : List Value → List Stranger
  | [] => []
  | v :: vs => strangersAt (path ++ [.position i]) v ++ strangersFrom path (i + 1) vs

end

/-- The strangers in a document. -/
def strangers (v : Value) : List Stranger :=
  strangersAt [] v

end Placard.Document
