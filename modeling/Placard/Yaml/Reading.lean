import Placard.Number.Reading
import Placard.Yaml.Node

/-!
# Reading YAML

`read` gives the data of a text with a single document, or nothing for a text without one. The label
of a node says how it is read; a scalar has to have the form of what it stands for.

A mapping can take over entries from others, under the key for merging. Its own entries win over
those, and of several mappings the first wins.
-/

namespace Placard.Yaml

open Placard.Text Placard.Number Placard.Time Placard.Data

/-! ## Scalars -/

/-- A whole number of a base: white space around, a sign, and the mark of the base in front are
admitted. -/
def wholeOf (base : Nat) (text : List Char) : Except Fault Int :=
  let (negative, cs) := spanSign (asciiDigits (trimBy isWhiteSpace text))
  let marked (small capital : Char) : List Char := match cs with
    | '0' :: m :: ds => if (m == small || m == capital) && !ds.isEmpty then ds else cs
    | _ => cs
  let ds := if base = 2 then marked 'b' 'B' else if base = 8 then marked 'o' 'O'
    else if base = 16 then marked 'x' 'X' else cs
  let digits := ds.mapM fun c => (hexValue? c).filter (· < base)
  match digits with
  | some (d :: more) => .ok (Double.signed negative (ofDigits base (d :: more)))
  | _ => .error (.notWhole base text)

/-- A number in decimal notation, or the name of an infinity or of no number. -/
def numberOf (text : List Char) : Except Fault Double :=
  match looseDouble? text with
  | some x => .ok x
  | none => .error (.notNumber text)

/-- The text without low lines. -/
def withoutLowLines (text : List Char) : List Char :=
  text.filter (· != '_')

/-- The text behind a sign, and whether that is a minus. -/
def behindSign (text : List Char) : Bool × List Char :=
  match text with
  | '-' :: rest => (true, rest)
  | '+' :: rest => (false, rest)
  | _ => (false, text)

/-- A whole number: in base 2, 8, 10 or 16, or in base 60 with colons. -/
def readWhole (text : List Char) : Except Fault Int := do
  let text := withoutLowLines text
  let (negative, cs) := behindSign text
  let value ← match cs with
    | [] => .error .emptyNumber
    | ['0'] => pure 0
    | '0' :: 'b' :: ds => wholeOf 2 ds
    | '0' :: 'x' :: ds => wholeOf 16 ds
    | '0' :: _ => wholeOf 8 cs
    | _ =>
      if cs.contains ':' then
        ((cutAt ':' cs).mapM (wholeOf 10)).map fun ds => ds.foldl (fun n d => n * 60 + d) 0
      else wholeOf 10 cs
  return if negative then -value else value

/-- The sum of numbers, each weighted sixty times as much as the one behind it. -/
def sixtieths (xs : List Double) : Double :=
  (xs.reverse.foldl (fun (acc : Double × Nat) x =>
    (acc.1.add (x.mul (.ofInt acc.2)), acc.2 * 60)) (.zero false, 1)).1

/-- A number: decimal, in base 60 with colons, or the name of an infinity or of no number. -/
def readNumber (text : List Char) : Except Fault Double := do
  let text := lower (withoutLowLines text)
  let (negative, cs) := behindSign text
  if text.isEmpty then .error .emptyNumber
  let value ←
    if cs = ".inf".toList then pure (Double.infinite false)
    else if cs = ".nan".toList then pure .nan
    else if cs.contains ':' then ((cutAt ':' cs).mapM numberOf).map sixtieths
    else numberOf cs
  return if negative then (Double.ofInt (-1)).mul value else value

/-- A switch. -/
def readSwitch (text : List Char) : Except Fault Bool :=
  let word := lower text
  match switchWords.find? (·.1.toList == word) with
  | some w => .ok w.2
  | none => .error (.notSwitch word)

/-- The offset of a stamp, or the fault that it is a day or more. -/
def readOffset : Bool × Nat × Nat → Except Fault Offset
  | (negative, hours, minutes) =>
    let seconds := hours * 3600 + minutes * 60
    if 86400 ≤ seconds then .error (.offset negative seconds)
    else .ok { negative := negative && seconds != 0, seconds, micro := 0 }

/-- The number of millionths that digits of a fraction write. -/
def millionths (ds : List Nat) : Nat :=
  let kept := ds.take 6
  ofDigits 10 (kept ++ List.replicate (6 - kept.length) 0)

/-- A date, or a moment if there is a time of day. -/
def readStamp (text : List Char) : Except Fault Value :=
  match stamp? text with
  | none => .error .notMoment
  | some s =>
    let date := (Date.of? s.year s.month s.day).mapError Fault.range
    match s.time with
    | none => date.map .date
    | some (hour, minute, second, fraction) => do
      let offset ← match s.offset with
        | none => pure none
        | some o => (readOffset o).map some
      let date ← date
      let clock ← (Clock.of? hour minute second (millionths fraction)).mapError Fault.range
      return .moment { date, clock, offset }

/-- The value of a digit of base 64. -/
def base64Value? (c : Char) : Option Nat :=
  let n := c.toNat
  if 65 ≤ n && n ≤ 90 then some (n - 65)
  else if 97 ≤ n && n ≤ 122 then some (n - 71)
  else if 48 ≤ n && n ≤ 57 then some (n + 4)
  else if c = '+' then some 62
  else if c = '/' then some 63
  else none

/-- The octets that digits of base 64 write. `count` digits of the current group are read, `left` is
the last of them, and `pads` signs of filling follow them; other characters are passed over. -/
def base64Octets? (count left pads : Nat) : List Char → Option (List Nat)
  | [] => if count = 0 then some [] else none
  | c :: cs =>
    if c = '=' then
      if 2 ≤ count then
        if 4 ≤ count + (pads + 1) then some [] else base64Octets? count left (pads + 1) cs
      else base64Octets? count left pads cs
    else
      match base64Value? c with
      | none => base64Octets? count left pads cs
      | some d =>
        match count with
        | 0 => base64Octets? 1 d 0 cs
        | 1 => (base64Octets? 2 d 0 cs).map ((left * 4 + d / 16) % 256 :: ·)
        | 2 => (base64Octets? 3 d 0 cs).map ((left * 16 + d / 4) % 256 :: ·)
        | _ => (base64Octets? 0 0 0 cs).map ((left * 64 + d) % 256 :: ·)

/-- Octets written in base 64. -/
def readOctets (text : List Char) : Except Fault (List Nat) :=
  if text.any (128 ≤ ·.toNat) then .error .malformed
  else
    match base64Octets? 0 0 0 text with
    | some octets => .ok octets
    | none => .error .malformed

/-- What a scalar with a label stands for. -/
def readScalar (label : Label) (text : List Char) : Except Fault Value :=
  match label with
  | .null => .ok .null
  | .bool => (readSwitch text).map .bool
  | .int => (readWhole text).map .int
  | .float => (readNumber text).map .float
  | .binary => (readOctets text).map .bytes
  | .timestamp => readStamp text
  | .text => .ok (.text (String.ofList text))
  | _ => .error .malformed

/-- Whether nodes with a label are read from their text. -/
def Label.isScalar : Label → Bool
  | .null | .bool | .int | .float | .binary | .timestamp | .text => true
  | _ => false

/-! ## Nodes -/

mutual

/-- The text of a scalar; a mapping has that of the value under the key for it. -/
def scalarText? : Node → Option (List Char)
  | .scalar _ text => some text
  | .mapping _ entries => scalarTextIn? entries
  | .sequence _ _ => none

/-- The text of the first value under the key for it. -/
def scalarTextIn? : List (Node × Node) → Option (List Char)
  | [] => none
  | (.scalar .value _, v) :: _ => scalarText? v
  | (_, _) :: rest => scalarTextIn? rest

end

/-- A mapping of entries, of which later ones win. Every key has to be one that can be looked up. -/
def mapOf (entries : List (Value × Value)) : Except Fault (List (Value × Value)) :=
  if entries.all (·.1.isKey) then
    .ok (entries.foldl (fun es e => Value.writeEntry e.1 e.2 es) [])
  else .error .malformed

mutual

/-- What a node stands for. -/
def readNode : Node → Except Fault Value
  | .scalar label text => readScalar label text
  | .sequence label items =>
    match label with
    | .list => (readNodes items).map .list
    | .orderedMap => (readPairs items).map .list
    | .pairs => (readPairs items).map .list
    | _ => .error .malformed
  | .mapping label entries =>
    match label with
    | .map => (readEntries entries).bind fun p => (mapOf (p.1 ++ p.2)).map .map
    | .set =>
      (readEntries entries).bind fun p => (mapOf (p.1 ++ p.2)).map fun es => .set (es.map (·.1))
    | _ =>
      if label.isScalar then
        match scalarTextIn? entries with
        | some text => readScalar label text
        | none => .error .malformed
      else .error .malformed

/-- What nodes stand for. -/
def readNodes : List Node → Except Fault (List Value)
  | [] => .ok []
  | n :: ns =>
    match readNode n with
    | .error e => .error e
    | .ok v => (readNodes ns).map (v :: ·)

/-- The pairs that a sequence of mappings with one entry each stands for. -/
def readPairs : List Node → Except Fault (List Value)
  | [] => .ok []
  | .mapping _ [(k, v)] :: ns =>
    match readNode k, readNode v with
    | .error e, _ => .error e
    | _, .error e => .error e
    | .ok k, .ok v => (readPairs ns).map (.tuple [k, v] :: ·)
  | _ :: _ => .error .malformed

/-- The entries that a mapping takes over from others, and its own ones. -/
def readEntries : List (Node × Node) →
    Except Fault (List (Value × Value) × List (Value × Value))
  | [] => .ok ([], [])
  | (.scalar .merge _, v) :: rest =>
    match takenOver v with
    | .error e => .error e
    | .ok entries => (readEntries rest).map fun p => (entries ++ p.1, p.2)
  | (.scalar .value text, v) :: rest =>
    match readNode v with
    | .error e => .error e
    | .ok v =>
      (readEntries rest).map fun p => (p.1, (.text (String.ofList text), v) :: p.2)
  | (k, v) :: rest =>
    match readNode k with
    | .error e => .error e
    | .ok k =>
      match readNode v with
      | .error e => .error e
      | .ok v => (readEntries rest).map fun p => (p.1, (k, v) :: p.2)

/-- The entries of a mapping, or of several of which earlier ones win. -/
def takenOver : Node → Except Fault (List (Value × Value))
  | .mapping _ entries => (readEntries entries).map fun p => p.1 ++ p.2
  | .sequence _ items => takenOverFrom items
  | .scalar _ _ => .error .malformed

/-- The entries of mappings of which earlier ones win. -/
def takenOverFrom : List Node → Except Fault (List (Value × Value))
  | [] => .ok []
  | .mapping _ entries :: ns =>
    match readEntries entries with
    | .error e => .error e
    | .ok p => (takenOverFrom ns).map fun later => later ++ p.1 ++ p.2
  | _ :: _ => .error .malformed

end

/-- The data of a text, or nothing for a text without a document. -/
def read (text : String) : Except Fault Value :=
  match tokensOf text.toList with
  | .error e => .error e
  | .ok ts =>
    match documentOf ts with
    | .error e => .error e
    | .ok none => .ok .null
    | .ok (some node) => readNode node

end Placard.Yaml
