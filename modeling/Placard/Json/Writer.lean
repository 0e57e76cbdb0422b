import Placard.Data.Value
import Placard.Number.Shortest
import Placard.Text.Blank
import Placard.Text.Digit

/-!
# Writing JSON

Payloads are written compactly and in ASCII: no white space, members in their order, and every
character outside the printable ASCII range as an escape of four digits, two of them for characters
beyond U+FFFF.
-/

namespace Placard.Json

open Placard.Text Placard.Number Placard.Data

/-- The escape with the number of a character, or of half a character. -/
def numericEscape (n : Nat) : List Char :=
  '\\' :: 'u' :: hexText 4 n

/-- A character inside a string. -/
def escapeChar (c : Char) : List Char :=
  if c = '"' then ['\\', '"']
  else if c = '\\' then ['\\', '\\']
  else if c = '\n' then ['\\', 'n']
  else if c = '\r' then ['\\', 'r']
  else if c = '\t' then ['\\', 't']
  else if c = '\x0c' then ['\\', 'f']
  else if c = '\x08' then ['\\', 'b']
  else
    let n := c.toNat
    if 32 ≤ n && n < 127 then [c]
    else if n < 0x10000 then numericEscape n
    else
      let m := n - 0x10000
      numericEscape (0xd800 + m / 0x400) ++ numericEscape (0xdc00 + m % 0x400)

/-- A string with its quotes. -/
def writeString (s : String) : List Char :=
  '"' :: s.toList.flatMap escapeChar ++ ['"']

/-- A double; the infinities and no number have words of their own. -/
def writeDouble : Double → List Char
  | .nan => "NaN".toList
  | .infinite false => "Infinity".toList
  | .infinite true => "-Infinity".toList
  | x => numberText x

/-- The text of a key, or none when a value cannot be one. -/
def keyText? : Value → Option String
  | .text s => some s
  | .null => some "null"
  | .bool b => some (if b then "true" else "false")
  | .int i => some (String.ofList (intText i))
  | .float x => some (String.ofList (writeDouble x))
  | _ => none

/-- Why data cannot be written. -/
inductive Unwritable where
  | value (kind : String)
  | key (kind : String)
deriving DecidableEq

/-- The wording. -/
def Unwritable.message : Unwritable → String
  | .value kind => "Object of type " ++ kind ++ " is not JSON serializable"
  | .key kind => "keys must be str, int, float, bool or None, not " ++ kind

mutual

/-- A value, or the first part of it that has no written form. -/
def write : Value → Except Unwritable (List Char)
  | .null => .ok "null".toList
  | .bool b => .ok (if b then "true".toList else "false".toList)
  | .int i => .ok (intText i)
  | .float x => .ok (writeDouble x)
  | .text s => .ok (writeString s)
  | .list xs => (writeItems xs).map fun parts => '[' :: joinWith [','] parts ++ [']']
  | .tuple xs => (writeItems xs).map fun parts => '[' :: joinWith [','] parts ++ [']']
  | .map es => (writeMembers es).map fun parts => '\x7b' :: joinWith [','] parts ++ ['\x7d']
  | v => .error (.value v.kindName)

/-- The items of a list. -/
def writeItems : List Value → Except Unwritable (List (List Char))
  | [] => .ok []
  | x :: xs =>
    match write x with
    | .error e => .error e
    | .ok part => (writeItems xs).map (part :: ·)

/-- The members of a mapping. -/
def writeMembers : List (Value × Value) → Except Unwritable (List (List Char))
  | [] => .ok []
  | (k, v) :: rest =>
    match keyText? k with
    | none => .error (.key k.kindName)
    | some name =>
      match write v with
      | .error e => .error e
      | .ok part => (writeMembers rest).map ((writeString name ++ ':' :: part) :: ·)

end

end Placard.Json
