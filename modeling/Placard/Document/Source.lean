import Placard.Document.Reading
import Placard.Document.Stranger
import Placard.Json.Reader
import Placard.Yaml.Reading

/-!
# Cards as texts

A card is written in JSON or in YAML. Its format is given by name or found out from the text: a text
that begins with a brace or is valid JSON is JSON, anything else YAML.

Loading ends in one of three ways:

* the card, with a warning for every node of unknown kind;
* a list of problems, which is never empty;
* an interruption, when the text holds something that no check provides for.
-/

namespace Placard.Document

open Placard.Text Placard.Data Placard.Record

/-- A format of documents. -/
inductive Format where
  | json
  | yaml
deriving DecidableEq

namespace Format

/-- The name of a format. -/
def name : Format → String
  | json => "json"
  | yaml => "yaml"

/-- The format of a name. -/
def ofName? (s : String) : Option Format :=
  [json, yaml].find? (·.name == s)

/-- Whether JSON reads a text. -/
def isJson (cs : List Char) : Bool :=
  match Json.readText cs with
  | .ok _ => true
  | .error _ => false

/-- The format of a text. Blanks around it do not count. -/
def detect (content : String) : Format :=
  let cs := trim content.toList
  if cs.head? = some '\x7b' || isJson cs then json else yaml

end Format

/-- What is wrong with a text that should be a card. -/
inductive Problem where
  | empty
  | unknownFormat (name : String)
  | json (f : Json.Fault)
  | yaml (f : Yaml.Fault)
  | noDocument
  /-- The document is a value of this kind and not an object. -/
  | notObject (kind : String)
  /-- The document has another type than a card. -/
  | otherRoot (type : Value)
  | invalid (i : Issue)

/-- The wording. -/
def Problem.message : Problem → String
  | .empty => "Empty card content provided"
  | .unknownFormat name => "Unsupported parser type: " ++ name
  | .json f =>
    "Invalid JSON syntax at line " ++ String.ofList (natText f.line) ++ ", column " ++
      String.ofList (natText f.column) ++ ": " ++ f.cause.message
  | .yaml f => f.message
  | .noDocument => "Empty YAML document"
  | .notObject kind => "Card content must be an object, got " ++ kind
  | .otherRoot type => "Root type must be 'AdaptiveCard', got '" ++ shownText type ++ "'"
  | .invalid i => i.message

/-- What no check provides for. -/
inductive Interruption where
  /-- A scalar stands for nothing. -/
  | scalar (f : Yaml.Fault)
  /-- The type of a node is a value of this kind, which cannot be looked up. -/
  | unhashable (kind : String)
deriving DecidableEq

/-- The wording. -/
def Interruption.message : Interruption → String
  | .scalar f => f.message
  | .unhashable kind => "unhashable type: '" ++ kind ++ "'"

/-- How loading ends, unless it is interrupted. -/
inductive Outcome where
  | loaded (card : Card) (warnings : List Stranger)
  | failed (first : Problem) (more : List Problem)

namespace Outcome

/-- The card that was loaded. -/
def card? : Outcome → Option Card
  | loaded card _ => some card
  | failed .. => none

/-- The problems, of which a loaded card has none. -/
def errors : Outcome → List String
  | loaded .. => []
  | failed first more => (first :: more).map Problem.message

/-- The warnings of a loaded card, with paths below the card. -/
def warnings : Outcome → List String
  | loaded _ warnings => warnings.map (Stranger.message "card")
  | failed .. => []

end Outcome

/-- The data of a text in a format. -/
def loadData (format : Format) (content : String) : Except Interruption (Except Problem Value) :=
  match format with
  | .json =>
    match Json.read content with
    | .ok v => .ok (.ok v)
    | .error f => .ok (.error (.json f))
  | .yaml =>
    match Yaml.read content with
    | .ok .null => .ok (.error .noDocument)
    | .ok v => .ok (.ok v)
    | .error f =>
      if f = .malformed || f.isAboutValue then .ok (.error (.yaml f)) else .error (.scalar f)

/-- The outcome for the data of a card. -/
def ofData (v : Value) : Except Interruption Outcome :=
  match v with
  | .map entries =>
    let root := match Value.find? "type" entries with
      | some (.text "AdaptiveCard") => none
      | some type => some (Problem.otherRoot type)
      | none => none
    match root with
    | some problem => .ok (.failed problem [])
    | none =>
      match readCard v with
      | .good card => .ok (.loaded card (strangers v))
      | .bad first more => .ok (.failed (.invalid first) (more.map .invalid))
      | .halted kind => .error (.unhashable kind)
  | _ => .ok (.failed (.notObject v.kindName) [])

/-- The outcome for a text in a format. -/
def parseAs (format : Format) (content : String) : Except Interruption Outcome :=
  match loadData format content with
  | .error i => .error i
  | .ok (.error problem) => .ok (.failed problem [])
  | .ok (.ok v) => ofData v

/-- The outcome for a text, in the format of a name if one is given. -/
def parse (formatName : Option String) (content : String) : Except Interruption Outcome :=
  if allBlank content.toList then .ok (.failed .empty [])
  else
    match formatName.filter (!·.isEmpty) with
    | none => parseAs (Format.detect content) content
    | some name =>
      match Format.ofName? name with
      | some format => parseAs format content
      | none => .ok (.failed (.unknownFormat name) [])

/-- Why there is no card for a text. -/
inductive Refusal where
  /-- What is wrong with the text. -/
  | rejected (reason : String)
  | interrupted (i : Interruption)
deriving DecidableEq

/-- The problems in one text. -/
def Outcome.reason (o : Outcome) : String :=
  let reason := "; ".intercalate o.errors
  if reason.isEmpty then "Card could not be parsed" else reason

/-- The card for a text, in the format of a name if one is given. -/
def load (formatName : Option String) (content : String) : Except Refusal Card :=
  match parse formatName content with
  | .error i => .error (.interrupted i)
  | .ok outcome =>
    match outcome.card? with
    | some card => .ok card
    | none => .error (.rejected outcome.reason)

/-- Whether a text has the form of a format. -/
def isWellFormed (format : Format) (content : String) : Except Yaml.Fault Bool :=
  match format with
  | .json => .ok (Format.isJson content.toList)
  | .yaml =>
    match Yaml.read content with
    | .ok _ => .ok true
    | .error .malformed => .ok false
    | .error f => .error f

end Placard.Document
