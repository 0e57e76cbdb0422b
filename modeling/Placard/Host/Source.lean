import Placard.File.Content
import Placard.Host.Reading
import Placard.Json.Reader
import Placard.Yaml.Reading

/-!
# Host configurations in files

A file whose suffix is `.yaml` or `.yml` holds a configuration in YAML, any other file one in JSON.
In YAML a document without content gives the default configuration.

Most faults are reported as faults of the configuration. The others come from the content itself:
octets that are no text, and scalars that stand for nothing.
-/

namespace Placard.Host

open Placard.Text Placard.File Placard.Record

/-- Why no configuration can be read from a file. -/
inductive Fault where
  /-- There is no such file. -/
  | unreadable (path : Path)
  | octets (f : OctetFault)
  | json (path : Path) (f : Json.Fault)
  | yaml (path : Path)
  | scalar (f : Yaml.Fault)
  | invalid (path : Path) (first : Issue) (more : List Issue)

/-- The wording. The issues of an invalid configuration are worded on their own. -/
def Fault.message : Fault → String
  | .unreadable path =>
    "Cannot read host config " ++ path.text ++ ": [Errno 2] No such file or directory: " ++
      quoted path.text
  | .octets f => f.message
  | .json path f => "Invalid host config syntax in " ++ path.text ++ ": " ++ f.message
  | .yaml path => "Invalid host config syntax in " ++ path.text
  | .scalar f => f.message
  | .invalid path _ _ => "Invalid host config " ++ path.text

/-- Whether a file holds YAML. -/
def isYaml (path : Path) : Bool :=
  path.kind == ".yaml" || path.kind == ".yml"

/-- The data in the text of a file. -/
def dataOf (path : Path) (content : List Char) : Except Fault Data.Value :=
  if isYaml path then
    match Yaml.read (String.ofList content) with
    | .ok v => .ok (if v.truthy then v else .map [])
    | .error .malformed => .error (.yaml path)
    | .error f => .error (.scalar f)
  else
    match Json.read (String.ofList content) with
    | .ok v => .ok v
    | .error f => .error (.json path f)

/-- The configuration that data of a file describes. -/
def ofData (path : Path) (v : Data.Value) : Except Fault Config :=
  match readConfig v with
  | .good c => .ok c
  | .bad first more => .error (.invalid path first more)
  | .halted _ => .ok {}

/-- The configuration in a file. -/
def load (files : Files) (path : Path) : Except Fault Config := do
  match files path with
  | none => throw (.unreadable path)
  | some octets =>
    match readText octets with
    | .error f => throw (.octets f)
    | .ok content => ofData path (← dataOf path content)

end Placard.Host
