import Placard.Number.Double
import Placard.Text.Blank
import Placard.Time.Calendar

/-!
# Plain data

Documents, host configurations and settings arrive as plain data before they are validated. Besides
what JSON has, YAML contributes dates, moments, bytes, sets, pairs, and mappings whose keys are not
texts. A mapping keeps its entries in the order of first occurrence.
-/

namespace Placard.Data

open Placard.Number Placard.Time

/-- A piece of plain data. -/
inductive Value where
  | null
  | bool (b : Bool)
  | int (i : Int)
  | float (x : Double)
  | text (s : String)
  | list (items : List Value)
  | map (entries : List (Value × Value))
  | date (d : Date)
  | moment (t : Moment)
  | bytes (octets : List Nat)
  | set (items : List Value)
  | tuple (items : List Value)
deriving Inhabited

namespace Value

/-- The name of the kind of a value, as messages give it. -/
def kindName : Value → String
  | null => "NoneType"
  | bool _ => "bool"
  | int _ => "int"
  | float _ => "float"
  | text _ => "str"
  | list _ => "list"
  | map _ => "dict"
  | date _ => "date"
  | moment _ => "datetime"
  | bytes _ => "bytes"
  | set _ => "set"
  | tuple _ => "tuple"

/-- Whether the value counts as present: zero, empty and absent values do not. -/
def truthy : Value → Bool
  | null => false
  | bool b => b
  | int i => i != 0
  | float x => !x.isZero
  | text s => !s.isEmpty
  | list xs => !xs.isEmpty
  | map es => !es.isEmpty
  | date _ => true
  | moment _ => true
  | bytes bs => !bs.isEmpty
  | set xs => !xs.isEmpty
  | tuple xs => !xs.isEmpty

/-- Whether the value can be a key: lists, mappings and sets cannot. -/
def isKey : Value → Bool
  | list _ => false
  | map _ => false
  | set _ => false
  | _ => true

/-- The number that a value counts as when keys are compared: `true` is one and `1.0` is one. -/
def asNumber? : Value → Option Double
  | bool b => some (.ofInt (if b then 1 else 0))
  | int i => some (.ofInt i)
  | float x => some x
  | _ => none

/-- The integer that a value is, if it is whole. -/
def asInt? : Value → Option Int
  | bool b => some (if b then 1 else 0)
  | int i => some i
  | float x => x.toInt?
  | _ => none

/-- Whether two values are the same key. Numbers of different kinds are the same key if they are
numerically equal. -/
def sameKey : Value → Value → Bool
  | null, null => true
  | text s, text t => s == t
  | date d, date e => d == e
  | moment t, moment u => t == u
  | bytes a, bytes b => a == b
  | a, b =>
    match a.asInt?, b.asInt? with
    | some i, some j => i == j
    | _, _ =>
      match a, b with
      | float x, float y => x.same y
      | _, _ => false

/-- The entries with one entry written: in place if the key is there, else at the end. -/
def writeEntry (key value : Value) : List (Value × Value) → List (Value × Value)
  | [] => [(key, value)]
  | (k, v) :: rest =>
    if sameKey k key then (k, value) :: rest else (k, v) :: writeEntry key value rest

/-- The value of a text key in a list of entries. -/
def find? (name : String) (entries : List (Value × Value)) : Option Value :=
  (entries.find? fun e => match e.1 with
    | text s => s == name
    | _ => false).map (·.2)

/-- The member of a mapping with a text key. -/
def member? (v : Value) (name : String) : Option Value :=
  match v with
  | map entries => find? name entries
  | _ => none

/-- A mapping with text keys. -/
def ofMembers (members : List (String × Value)) : Value :=
  map (members.map fun m => (text m.1, m.2))

/-- An optional text. -/
def ofText? (s : Option String) : Value :=
  s.elim null text

end Value

end Placard.Data
