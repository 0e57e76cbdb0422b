import Placard.Data.Value
import Placard.Number.Reading
import Placard.Record.Checked
import Placard.Text.Utf8

/-!
# Fields of records

A field is read from the entries of a mapping under one of two spellings: its name in mixed case,
such as `maxLines`, or with low lines, such as `max_lines`. The first wins if both are there, and
paths give the spelling that was used.

The readers of single values admit what plainly stands for the kind of value they read: numbers
written as text, words and numbers for switches, octets for the text that they write.
-/

namespace Placard.Record

open Placard.Text Placard.Number Placard.Data

/-- The entries of a mapping. -/
abbrev Entries :=
  List (Value × Value)

/-! ## Single values -/

/-- A text as it is, and octets as the text that they write. -/
def textLike? : Value → Option (Option String)
  | .text s => some (some s)
  | .bytes bs => some (decoded? bs)
  | _ => none

/-- A text. -/
def text (v : Value) : Checked String :=
  match textLike? v with
  | some (some s) => .good s
  | some none => .complain .notUnicode
  | none => .complain .notText

/-- The words for a switch that is on. -/
def onWords : List String :=
  ["1", "on", "t", "true", "y", "yes"]

/-- The words for a switch that is off. -/
def offWords : List String :=
  ["0", "off", "f", "false", "n", "no"]

/-- A switch as a whole number. -/
def switchOfInt (i : Int) : Checked Bool :=
  if i = 0 then .good false else if i = 1 then .good true else .complain .unclearSwitch

/-- Whether an integer takes 64 bits. -/
def isLong (i : Int) : Bool :=
  -0x8000000000000000 ≤ i && i < 0x8000000000000000

/-- Whether a whole double can stand for an integer. -/
def isShortOfLong (i : Int) : Bool :=
  -0x8000000000000000 < i && i < 0x8000000000000000

/-- A switch: true or false, one or zero, or a word for them. -/
def switch (v : Value) : Checked Bool :=
  match v with
  | .bool b => .good b
  | .int i => if isLong i then switchOfInt i else .complain .notSwitch
  | .float x =>
    match x.toInt? with
    | some i => if isShortOfLong i then switchOfInt i else .complain .notSwitch
    | none => .complain .notSwitch
  | _ =>
    match textLike? v with
    | some (some s) =>
      let word := asciiLowered s
      if onWords.contains word then .good true
      else if offWords.contains word then .good false
      else .complain .unclearSwitch
    | some none => .complain .unclearSwitch
    | none => .complain .notSwitch

/-- A whole number. -/
def whole (v : Value) : Checked Int :=
  match v with
  | .int i => .good i
  | .bool b => .good (if b then 1 else 0)
  | .float x =>
    if !x.isFinite then .complain .notFinite
    else
      match x.toInt? with
      | none => .complain .fraction
      | some i => if isShortOfLong i then .good i else .complain .outOfSize
  | _ =>
    match textLike? v with
    | some (some s) =>
      match strictInt? s.toList with
      | some i => .good i
      | none => .complain .unclearWhole
    | some none => .complain .unclearWhole
    | none => .complain .notWhole

/-- A whole number that is not negative. -/
def count (v : Value) : Checked Nat :=
  (whole v).thenCheck fun i => if i < 0 then .complain .belowZero else .good i.toNat

/-- A number. Integers beyond the range of doubles are none. -/
def number (v : Value) : Checked Double :=
  match v with
  | .float x => .good x
  | .bool b => .good (.ofInt (if b then 1 else 0))
  | .int i => if (Double.ofInt i).isFinite then .good (.ofInt i) else .complain .notNumber
  | _ =>
    match textLike? v with
    | some (some s) =>
      match strictDouble? s.toList with
      | some x => .good x
      | none => .complain .unclearNumber
    | some none => .complain .unclearNumber
    | none => .complain .notNumber

/-- Any value. -/
def anything (v : Value) : Checked Value :=
  .good v

/-- An optional value: null stands for none. -/
def optional {α : Type} (read : Value → Checked α) : Value → Checked (Option α)
  | .null => .good none
  | v => (read v).map some

/-- This very text. -/
def exactly (text : String) (v : Value) : Checked Unit :=
  match textLike? v with
  | some (some s) => if s = text then .good () else .complain (.notExactly text)
  | _ => .complain (.notExactly text)

/-! ## Lists and mappings -/

/-- The items of a list, a tuple or a set. -/
def items? : Value → Option (List Value)
  | .list xs => some xs
  | .tuple xs => some xs
  | .set xs => some xs
  | _ => none

/-- The text of a position. -/
def positionText (i : Nat) : String :=
  String.ofList (natText i)

/-- Each value of a list, at its position. -/
def each {α : Type} (read : Value → Checked α) (position : Nat) : List Value → Checked (List α)
  | [] => .good []
  | v :: vs =>
    List.cons <$> (read v).under (positionText position) <*> each read (position + 1) vs

/-- A list of values of one kind. -/
def listOf {α : Type} (read : Value → Checked α) (v : Value) : Checked (List α) :=
  match items? v with
  | some vs => each read 0 vs
  | none => .complain .notList

/-- A record of a name, read from its entries. -/
def record {α : Type} (name : String) (read : Entries → Checked α) : Value → Checked α
  | .map entries => read entries
  | _ => .complain (.notRecord name)

/-! ## Fields -/

/-- The spelling of a field name with low lines. -/
def lowLined (name : String) : String :=
  String.ofList (name.toList.flatMap fun c =>
    if c.isUpper then ['_', asciiLower c] else [c])

/-- The spelling under which a field is there, and its value. -/
def find? (name : String) (entries : Entries) : Option (String × Value) :=
  match Value.find? name entries with
  | some v => some (name, v)
  | none =>
    let other := lowLined name
    (Value.find? other entries).map (other, ·)

/-- A field that has to be there. -/
def required {α : Type} (entries : Entries) (name : String) (read : Value → Checked α) :
    Checked α :=
  match find? name entries with
  | some (spelling, v) => (read v).under spelling
  | none => (Checked.complain .missing).under name

/-- A field with a default. -/
def field {α : Type} (entries : Entries) (name : String) (read : Value → Checked α)
    (default : α) : Checked α :=
  match find? name entries with
  | some (spelling, v) => (read v).under spelling
  | none => .good default

/-- An optional text, none by default. -/
def text? (entries : Entries) (name : String) : Checked (Option String) :=
  field entries name (optional text) none

end Placard.Record
