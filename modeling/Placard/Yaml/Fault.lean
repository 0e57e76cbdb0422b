import Placard.Data.Shown

/-!
# Why a text is not read as YAML

Most faults are in the form of the text and are not told apart. The others concern scalars whose
form says what they stand for, but which stand for nothing.
-/

namespace Placard.Yaml

open Placard.Text Placard.Time Placard.Data

/-- What is wrong with a text. -/
inductive Fault where
  /-- The text does not have the form of a document, or a node not that of its kind. -/
  | malformed
  /-- A text that is no whole number of the base. -/
  | notWhole (base : Nat) (text : List Char)
  | emptyNumber
  | notNumber (text : List Char)
  | range (f : RangeFault)
  /-- The offset of a moment is a day or more. -/
  | offset (negative : Bool) (seconds : Nat)
  | notMoment
  | notSwitch (word : List Char)
  /-- An escape has the number of no character. -/
  | codePoint
  /-- An escape has a number of more than 31 bits. -/
  | hugeCodePoint
deriving DecidableEq

/-- The wording. -/
def Fault.message : Fault → String
  | .malformed => "Invalid YAML syntax"
  | .notWhole base text =>
    "invalid literal for int() with base " ++ String.ofList (natText base) ++ ": " ++
      String.ofList ((quote text).take 200)
  | .emptyNumber => "string index out of range"
  | .notNumber text => "could not convert string to float: " ++ String.ofList (quote text)
  | .range f => f.message
  | .offset negative seconds =>
    "offset must be a timedelta strictly between -timedelta(hours=24) and " ++
      "timedelta(hours=24), not " ++
      String.ofList (spelledSpan negative seconds) ++ "."
  | .notMoment => "'NoneType' object has no attribute 'groupdict'"
  | .notSwitch word => String.ofList word
  | .codePoint => "chr() arg not in range(0x110000)"
  | .hugeCodePoint => "Python int too large to convert to C int"

/-- Whether a fault is about a value that is out of its range or does not have its form. -/
def Fault.isAboutValue : Fault → Bool
  | .notWhole .. => true
  | .notNumber _ => true
  | .range _ => true
  | .offset .. => true
  | .codePoint => true
  | _ => false

end Placard.Yaml
