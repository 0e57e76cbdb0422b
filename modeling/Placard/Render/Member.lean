import Placard.Document.Basic
import Placard.Render.Fault

/-!
# Members of nodes of unknown kind

A node of unknown kind keeps its members as plain data. When such a node is rendered after all,
since its kind is known in another family, its members are looked up by their names as the
document gives them.
-/

namespace Placard.Render

open Placard.Data Placard.Document

/-- What messages call the nodes of unknown kind of a family. -/
def unknownName : Node → String
  | .element _ => "UnknownElement"
  | .action _ => "UnknownAction"

/-- The members that a node has as data. -/
def membersOf : Node → List (String × Value)
  | .element (.unknown u) => u.members
  | .action (.unknown u) => ("title", .ofText? u.title) :: u.members
  | .element _ => []
  | .action a => [("title", .ofText? a.title)]

/-- The member of a node, if there is one. -/
def member? (n : Node) (name : String) : Option Value :=
  valueAt? name (membersOf n)

/-- The member of a node, which has to be there. -/
def member (n : Node) (name : String) : Except Fault Value :=
  match member? n name with
  | some v => .ok v
  | none => .error (.noMember (unknownName n) name)

/-- The title of a node, if it has one. -/
def titleOf (n : Node) : Value :=
  (member? n "title").getD .null

/-- A value as the text of a tag. Null is no text. -/
def shown? : Value → Option String
  | .null => none
  | v => some (shownText v)

end Placard.Render
