import Placard.Data.Shown
import Placard.Json.Writer
import Placard.Markdown.Fragment
import Placard.Record.Checked

/-!
# Why rendering fails

A pass that fails gives no tree at all, only its fault. Most faults lie in a card: a number too
large for what is computed from it, or a node that has the kind of another family and not the
members that its kind needs. Others come from renderers that the host has registered.
-/

namespace Placard.Render

open Placard.Data

/-- Why a pass fails. -/
inductive Fault where
  /-- The source of ids gives none that is new. -/
  | exhaustedIds
  /-- Nothing was rendered for the card, which is of this kind. -/
  | noOutput (kind : String)
  /-- Tags have no style of this name. -/
  | unsupportedStyle (name : String)
  /-- An integer is beyond the range of doubles. -/
  | hugeInteger
  /-- A share of an infinite row. -/
  | infiniteShare
  /-- A share that is no number. -/
  | undefinedShare
  /-- A share of nothing. -/
  | noTotal
  | markdown (f : Markdown.TextFault)
  | unwritable (u : Json.Unwritable)
  /-- A value of this kind has no member of this name. -/
  | noMember (kind name : String)
  | notIterable (kind : String)
  | noLength (kind : String)
  | notSliced (kind : String)
  | notKey (kind : String)
  | absentKey (key : Value)
  | notPositive (kind : String)
  | notReal (kind : String)
  | notOctets
  | invalid (first : Record.Issue) (more : List Record.Issue)
  /-- What the host has registered calls for more and more nodes or actions. -/
  | tooDeep
  /-- A fault of what the host has registered, with its class. -/
  | foreign (className message : String)

/-- The wording. -/
def Fault.message : Fault → String
  | .exhaustedIds => "Id factory produced no unused id in 100 attempts"
  | .noOutput kind => "No renderer produced output for '" ++ kind ++ "'"
  | .unsupportedStyle name => "Unsupported style property: " ++ name
  | .hugeInteger => "int too large to convert to float"
  | .infiniteShare => "cannot convert float infinity to integer"
  | .undefinedShare => "cannot convert float NaN to integer"
  | .noTotal => "float division by zero"
  | .markdown f => f.message
  | .unwritable u => u.message
  | .noMember kind name => "'" ++ kind ++ "' object has no attribute '" ++ name ++ "'"
  | .notIterable kind => "'" ++ kind ++ "' object is not iterable"
  | .noLength kind => "object of type '" ++ kind ++ "' has no len()"
  | .notSliced kind => "'" ++ kind ++ "' object is not subscriptable"
  | .notKey kind => "unhashable type: '" ++ kind ++ "'"
  | .absentKey key => shownText key
  | .notPositive kind => "'>' not supported between instances of '" ++ kind ++ "' and 'int'"
  | .notReal kind => "must be real number, not " ++ kind
  | .notOctets => "a bytes-like object is required, not 'str'"
  | .invalid first _ => first.message
  | .tooDeep => "maximum recursion depth exceeded"
  | .foreign _ message => message

/-- What is wrong with a card, though it can be rendered. -/
inductive Warning where
  /-- There is no renderer for a kind of node, which is left out. -/
  | unsupported (kind : String)
  | noVersion
  | unreadableVersion (version : String)
  | newerVersion (version : String)
  /-- What a renderer of the host remarks. -/
  | remark (text : String)
deriving DecidableEq

/-- The version of the schema up to which cards are rendered in full. -/
def supportedVersion : String :=
  "1.0"

/-- The wording. -/
def Warning.message : Warning → String
  | .unsupported kind => "Unsupported element type '" ++ kind ++ "'"
  | .noVersion => "Card has no schema version; rendering as " ++ supportedVersion
  | .unreadableVersion version => "Unparseable schema version '" ++ version ++ "'"
  | .newerVersion version =>
    "Schema version " ++ version ++ " is newer than supported " ++ supportedVersion ++
      "; unsupported elements will be omitted"
  | .remark text => text

end Placard.Render
