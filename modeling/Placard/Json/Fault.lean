import Placard.Text.Blank
import Placard.Text.Digit

/-!
# Why a text is not JSON

A fault names its cause and its place: the number of characters before it, and the same place as
line and column, both counted from one.
-/

namespace Placard.Json

open Placard.Text

/-- What is wrong at the place of a fault. -/
inductive Cause where
  | byteOrderMark
  | noValue
  | noName
  | noColon
  | noComma
  | openString
  | controlCharacter
  | escape
  | unicodeEscape
  | extraData
deriving DecidableEq

/-- The wording of a cause. -/
def Cause.message : Cause → String
  | .byteOrderMark => "Unexpected UTF-8 BOM (decode using utf-8-sig)"
  | .noValue => "Expecting value"
  | .noName => "Expecting property name enclosed in double quotes"
  | .noColon => "Expecting ':' delimiter"
  | .noComma => "Expecting ',' delimiter"
  | .openString => "Unterminated string starting at"
  | .controlCharacter => "Invalid control character at"
  | .escape => "Invalid \\escape"
  | .unicodeEscape => "Invalid \\uXXXX escape"
  | .extraData => "Extra data"

/-- A cause and its place. -/
structure Fault where
  cause : Cause
  position : Nat
  line : Nat
  column : Nat
deriving DecidableEq

/-- The fault with this many characters of a text before it. -/
def Fault.at (cs : List Char) (cause : Cause) (position : Nat) : Fault :=
  let before := cs.take position
  { cause, position
    line := before.count '\n' + 1
    column := (before.reverse.takeWhile (· != '\n')).length + 1 }

/-- The wording of a fault with its place. -/
def Fault.message (f : Fault) : String :=
  f.cause.message ++ ": line " ++ String.ofList (natText f.line) ++ " column " ++
    String.ofList (natText f.column) ++ " (char " ++ String.ofList (natText f.position) ++ ")"

end Placard.Json
