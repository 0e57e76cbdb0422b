import Placard.Data.Value
import Placard.Json.Fault
import Placard.Number.Reading

/-!
# Reading JSON

The grammar is that of the standard with three more numbers: `NaN`, `Infinity` and `-Infinity`. Of
members with one name the last value counts, at the place of the first. Each reader takes the rest
of a text and gives back what it read and what is left; a refusal says how much was left.
-/

namespace Placard.Json

open Placard.Text Placard.Number Placard.Data

/-- What a reader gives: a result and the rest, or a cause and the rest it arose at. -/
abbrev Reading (α : Type) := Except (Cause × Nat) (α × List Char)

/-- Refuses with a number of characters left. -/
def refuse {α : Type} (cause : Cause) (left : Nat) : Reading α :=
  .error (cause, left)

/-- Whether a character is white space in JSON. -/
def isSpace (c : Char) : Bool :=
  c == ' ' || c == '\t' || c == '\n' || c == '\r'

/-- The rest of a text behind white space. -/
def skipSpace (cs : List Char) : List Char :=
  cs.dropWhile isSpace

/-! ## Strings -/

/-- The character that a letter stands for behind a backslash. -/
def escaped? : Char → Option Char
  | '"' => some '"'
  | '\\' => some '\\'
  | '/' => some '/'
  | 'b' => some '\x08'
  | 'f' => some '\x0c'
  | 'n' => some '\n'
  | 'r' => some '\r'
  | 't' => some '\t'
  | _ => none

/-- The number that four digits of base 16 write. -/
def fourHex? : List Char → Option (Nat × List Char)
  | a :: b :: c :: d :: rest =>
    match hexValue? a, hexValue? b, hexValue? c, hexValue? d with
    | some a, some b, some c, some d => some (ofDigits 16 [a, b, c, d], rest)
    | _, _, _, _ => none
  | _ => none

/-- Whether a number is the first half of a pair that writes one character. -/
def isHighHalf (n : Nat) : Bool :=
  0xd800 ≤ n && n ≤ 0xdbff

/-- Whether a number is the second half of a pair that writes one character. -/
def isLowHalf (n : Nat) : Bool :=
  0xdc00 ≤ n && n ≤ 0xdfff

/-- The character that two halves write. -/
def joinHalves (high low : Nat) : Char :=
  Char.ofNat (0x10000 + (high - 0xd800) * 0x400 + (low - 0xdc00))

/-- The character that a number writes; a half without its partner writes a replacement mark. -/
def charOf (n : Nat) : Char :=
  if isHighHalf n || isLowHalf n then '\ufffd' else Char.ofNat n

/-- What four digits behind `\u` write, together with a second half behind them. -/
def unicodeEscape (cs : List Char) : Reading Char :=
  match cs with
  | _ :: _ :: _ :: _ :: _ :: _ =>
    match fourHex? cs with
    | none => refuse .unicodeEscape (cs.length + 1)
    | some (high, rest) =>
      match rest with
      | '\\' :: 'u' :: more =>
        if isHighHalf high && 5 ≤ more.length then
          match fourHex? more with
          | none => refuse .unicodeEscape (more.length + 1)
          | some (low, after) =>
            if isLowHalf low then .ok (joinHalves high low, after) else .ok (charOf high, rest)
        else .ok (charOf high, rest)
      | _ => .ok (charOf high, rest)
  | _ => refuse .unicodeEscape (cs.length + 1)

/-- The rest of a string behind its opening quote; `start` characters were left at that quote. The
characters read so far come last first. -/
def stringRest (start : Nat) : Nat → List Char → List Char → Reading (List Char)
  | 0, _, _ => refuse .openString start
  | fuel + 1, seen, cs =>
    match cs with
    | [] => refuse .openString start
    | '"' :: rest => .ok (seen.reverse, rest)
    | '\\' :: 'u' :: rest =>
      match unicodeEscape rest with
      | .ok (c, rest) => stringRest start fuel (c :: seen) rest
      | .error e => .error e
    | ['\\'] => refuse .openString start
    | '\\' :: c :: rest =>
      match escaped? c with
      | some d => stringRest start fuel (d :: seen) rest
      | none => refuse .escape cs.length
    | c :: rest =>
      if c.toNat ≤ 0x1f then refuse .controlCharacter cs.length
      else stringRest start fuel (c :: seen) rest

/-- The string that begins behind an opening quote. -/
def string (cs : List Char) : Reading String :=
  (stringRest (cs.length + 1) (cs.length + 1) [] cs).map fun p => (String.ofList p.1, p.2)

/-! ## Numbers -/

/-- The digits of a whole number without superfluous zeros, and the rest. -/
def wholeDigits? : List Char → Option (List Nat × List Char)
  | '0' :: rest => some ([0], rest)
  | cs =>
    match spanDigits cs with
    | ([], _) => none
    | p => some p

/-- The digits of a fraction, if one follows. -/
def fractionDigits : List Char → List Nat × List Char
  | '.' :: rest =>
    match spanDigits rest with
    | ([], _) => ([], '.' :: rest)
    | p => p
  | cs => ([], cs)

/-- The exponent, if one follows. -/
def exponentPart (cs : List Char) : Option Int × List Char :=
  match cs with
  | c :: rest =>
    if c = 'e' || c = 'E' then
      let (negative, digits) := spanSign rest
      match spanDigits digits with
      | ([], _) => (none, cs)
      | (ds, after) => (some (Double.signed negative (ofDigits 10 ds)), after)
    else (none, cs)
  | [] => (none, cs)

/-- The number that begins a text. -/
def number? (cs : List Char) : Option (Value × List Char) :=
  let (negative, rest) : Bool × List Char :=
    match cs with
    | '-' :: rest => (true, rest)
    | _ => (false, cs)
  match wholeDigits? rest with
  | none => none
  | some (whole, rest) =>
    let (fraction, rest) := fractionDigits rest
    let (exponent, rest) := exponentPart rest
    if fraction.isEmpty && exponent.isNone then
      some (.int (Double.signed negative (ofDigits 10 whole)), rest)
    else
      let written : Scientific :=
        { negative, digits := ofDigits 10 (whole ++ fraction)
          exponent := exponent.getD 0 - fraction.length }
      some (.float written.toDouble, rest)

/-- The words that are values. -/
def words : List (String × Value) :=
  [("null", .null), ("true", .bool true), ("false", .bool false), ("NaN", .float .nan),
    ("Infinity", .float (.infinite false)), ("-Infinity", .float (.infinite true))]

/-- The word or number that begins a text. -/
def scalar (cs : List Char) : Reading Value :=
  match words.findSome? fun w => (afterStart? w.1.toList cs).map fun rest => (w.2, rest) with
  | some p => .ok p
  | none =>
    match number? cs with
    | some p => .ok p
    | none => refuse .noValue cs.length

/-! ## Values -/

mutual

/-- The value that begins a text. -/
def value : Nat → List Char → Reading Value
  | 0, cs => refuse .noValue cs.length
  | fuel + 1, cs =>
    match cs with
    | '"' :: rest => (string rest).map fun p => (.text p.1, p.2)
    | '[' :: rest =>
      match skipSpace rest with
      | ']' :: after => .ok (.list [], after)
      | rest => (items fuel [] rest).map fun p => (.list p.1, p.2)
    | '\x7b' :: rest =>
      match skipSpace rest with
      | '\x7d' :: after => .ok (.map [], after)
      | rest => (members fuel [] rest).map fun p => (.map p.1, p.2)
    | _ => scalar cs

/-- The items of a list from the next one on, behind those already read. -/
def items : Nat → List Value → List Char → Reading (List Value)
  | 0, _, cs => refuse .noValue cs.length
  | fuel + 1, seen, cs =>
    match value fuel cs with
    | .error e => .error e
    | .ok (v, rest) =>
      match skipSpace rest with
      | ']' :: after => .ok (seen ++ [v], after)
      | ',' :: after => items fuel (seen ++ [v]) (skipSpace after)
      | rest => refuse .noComma rest.length

/-- The members of a mapping from the next one on, behind those already read. -/
def members : Nat → List (Value × Value) → List Char → Reading (List (Value × Value))
  | 0, _, cs => refuse .noName cs.length
  | fuel + 1, seen, cs =>
    match cs with
    | '"' :: rest =>
      match string rest with
      | .error e => .error e
      | .ok (name, rest) =>
        match skipSpace rest with
        | ':' :: rest =>
          match value fuel (skipSpace rest) with
          | .error e => .error e
          | .ok (v, rest) =>
            let seen := Value.writeEntry (.text name) v seen
            match skipSpace rest with
            | '\x7d' :: after => .ok (seen, after)
            | ',' :: after => members fuel seen (skipSpace after)
            | rest => refuse .noComma rest.length
        | rest => refuse .noColon rest.length
    | _ => refuse .noName cs.length

end

/-- The value that a text writes, with white space around it. -/
def readText (cs : List Char) : Except Fault Value :=
  match cs with
  | '\ufeff' :: _ => .error (Fault.at cs .byteOrderMark 0)
  | _ =>
    match value (2 * cs.length + 2) (skipSpace cs) with
    | .error (cause, left) => .error (Fault.at cs cause (cs.length - left))
    | .ok (v, rest) =>
      match skipSpace rest with
      | [] => .ok v
      | rest => .error (Fault.at cs .extraData (cs.length - rest.length))

/-- The value that a string writes. -/
def read (s : String) : Except Fault Value :=
  readText s.toList

end Placard.Json
