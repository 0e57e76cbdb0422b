import Placard.Text.Quoted

/-!
# Checking records

A document is checked field by field and every complaint is kept, in the order of the fields, with
the path to the place it is about. `Checked` combines such checks:

* `good`: the checked value;
* `bad`: the issues found so far, at least one;
* `halted`: the check could not go on, because the type of a node cannot be looked up. Nothing found
  before or after it counts.
-/

namespace Placard.Record

open Placard.Text

/-- What is wrong at one place of a document. -/
inductive Complaint where
  | missing
  | notText
  | notUnicode
  | notSwitch
  | unclearSwitch
  | notWhole
  | unclearWhole
  | fraction
  | outOfSize
  | notFinite
  | belowZero
  | notNumber
  | unclearNumber
  | notList
  /-- Neither a mapping nor a record of this name. -/
  | notRecord (name : String)
  /-- Not this very text. -/
  | notExactly (text : String)
  /-- None of these texts. -/
  | notAmong (texts : List String)
  | keyNotText
  | notAddress
  /-- No address, for this reason. -/
  | badAddress (reason : String)
  | notPath
  | unknownField
  /-- Against a rule of the field. -/
  | refused (reason : String)
deriving DecidableEq

/-- The texts between quotes, with commas and the last two joined by a word. -/
def alternatives : List String → String
  | [] => ""
  | [a] => quoted a
  | [a, b] => quoted a ++ " or " ++ quoted b
  | a :: rest => quoted a ++ ", " ++ alternatives rest

/-- The wording of a complaint. -/
def Complaint.message : Complaint → String
  | .missing => "Field required"
  | .notText => "Input should be a valid string"
  | .notUnicode => "Input should be a valid string, unable to parse raw data as a unicode string"
  | .notSwitch => "Input should be a valid boolean"
  | .unclearSwitch => "Input should be a valid boolean, unable to interpret input"
  | .notWhole => "Input should be a valid integer"
  | .unclearWhole => "Input should be a valid integer, unable to parse string as an integer"
  | .fraction => "Input should be a valid integer, got a number with a fractional part"
  | .outOfSize => "Unable to parse input string as an integer, exceeded maximum size"
  | .notFinite => "Input should be a finite number"
  | .belowZero => "Input should be greater than or equal to 0"
  | .notNumber => "Input should be a valid number"
  | .unclearNumber => "Input should be a valid number, unable to parse string as a number"
  | .notList => "Input should be a valid list"
  | .notRecord name => "Input should be a valid dictionary or instance of " ++ name
  | .notExactly text => "Input should be " ++ quoted text
  | .notAmong texts => "Input should be " ++ alternatives texts
  | .keyNotText => "Keys should be strings"
  | .notAddress => "URL input should be a string or URL"
  | .badAddress reason => "Input should be a valid URL, " ++ reason
  | .notPath => "Input is not a valid path for <class 'pathlib.Path'>"
  | .unknownField => "Extra inputs are not permitted"
  | .refused reason => "Value error, " ++ reason

/-- A complaint and the path to its place. -/
structure Issue where
  path : List String
  complaint : Complaint
deriving DecidableEq

/-- The steps of a path with points between them. -/
def pathText : List String → String
  | [] => ""
  | [step] => step
  | step :: rest => step ++ "." ++ pathText rest

/-- The issue as seen from one step further out. -/
def Issue.under (step : String) (i : Issue) : Issue :=
  { i with path := step :: i.path }

/-- The wording of an issue: its path, if that shows anything, and the complaint. -/
def Issue.message (i : Issue) : String :=
  let path := pathText i.path
  if path.isEmpty then i.complaint.message else path ++ ": " ++ i.complaint.message

/-- The outcome of a check. -/
inductive Checked (α : Type) where
  | good (a : α)
  | bad (first : Issue) (more : List Issue)
  /-- The type of a node is a value of this kind, which cannot be looked up. -/
  | halted (kind : String)

namespace Checked

variable {α β : Type}

/-- The outcome with a good value mapped. -/
def map (f : α → β) : Checked α → Checked β
  | good a => good (f a)
  | bad first more => bad first more
  | halted kind => halted kind

/-- Two checks in a row. The issues of both are kept. -/
def both (f : Checked (α → β)) (x : Checked α) : Checked β :=
  match f, x with
  | halted kind, _ => halted kind
  | _, halted kind => halted kind
  | bad first more, bad next rest => bad first (more ++ next :: rest)
  | bad first more, good _ => bad first more
  | good _, bad first more => bad first more
  | good f, good a => good (f a)

instance : Functor Checked := ⟨map, fun a x => map (fun _ => a) x⟩

instance : Seq Checked := ⟨fun f x => both f (x ())⟩

/-- A check that fails with one complaint. -/
def complain (c : Complaint) : Checked α :=
  bad ⟨[], c⟩ []

/-- A further check of a good value. -/
def thenCheck (x : Checked α) (f : α → Checked β) : Checked β :=
  match x with
  | good a => f a
  | bad first more => bad first more
  | halted kind => halted kind

/-- The outcome for a part of the document that is one step away. -/
def under (step : String) : Checked α → Checked α
  | bad first more => bad (first.under step) (more.map (Issue.under step))
  | x => x

/-- The good value, if there is one. -/
def toOption : Checked α → Option α
  | good a => some a
  | _ => none

end Checked

end Placard.Record
