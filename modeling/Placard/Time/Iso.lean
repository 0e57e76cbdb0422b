import Placard.Text.Blank
import Placard.Time.Calendar

/-!
# Reading timestamps

A timestamp is a date, any one character, and a clock time with an optional offset. Dates come as
year, month and day or as year, week and day, each with or without hyphens; clock times with or
without colons. The readers take the text apart from the left and leave the range of the fields to
`Date.of?` and `Clock.of?`.
-/

namespace Placard.Time

open Placard.Text

/-- The number that the first `n` characters write, all of which have to be ASCII digits. -/
def digits? : Nat → List Char → Option (Nat × List Char)
  | 0, cs => some (0, cs)
  | n + 1, cs =>
    match cs with
    | [] => none
    | c :: rest =>
      match asciiDigit? c, digits? n rest with
      | some d, some (v, more) => some (d * Nat.pow 10 n + v, more)
      | _, _ => none

/-- How many characters the date of a timestamp has. After a week there may be a day, and only the
digits that follow tell whether there is one. -/
def dateLength (cs : List Char) : Nat :=
  if cs.length = 7 then 7
  else if cs[4]? = some '-' then
    if cs[5]? = some 'W' then
      if cs[8]? = some '-' then
        if cs.length = 9 then 9
        else if (cs[10]?).any isAsciiDigit then 8
        else 10
      else 8
    else 10
  else if cs[4]? = some 'W' then
    let stop := 7 + ((cs.drop 7).takeWhile isAsciiDigit).length
    if stop < 9 then stop else if stop % 2 = 0 then 7 else 8
  else 8

/-- The date at the start of a timestamp whose date has `length` characters. -/
def readDate? (length : Nat) (cs : List Char) : Option Date := do
  let (year, rest) ← digits? 4 cs
  let separated := rest.head? = some '-'
  let rest := if separated then rest.drop 1 else rest
  match rest with
  | 'W' :: rest =>
    let (week, rest) ← digits? 2 rest
    if cs.length - rest.length < length then
      let rest ← if separated then afterStart? ['-'] rest else some rest
      let (day, _) ← digits? 1 rest
      Date.ofWeek? year week day
    else Date.ofWeek? year week 1
  | _ =>
    let (month, rest) ← digits? 2 rest
    let rest ← if separated then afterStart? ['-'] rest else some rest
    let (day, _) ← digits? 2 rest
    (Date.of? year month day).toOption

/-- Clock fields as written, and whether nothing was left over. -/
structure ClockFields where
  hour : Nat
  minute : Nat
  second : Nat
  micro : Nat
  complete : Bool

/-- A fraction of a second: up to six places count, further ones are passed over. -/
def readFraction? (fields : List Nat) (cs after : List Char) : Option ClockFields := do
  let places := min 6 cs.length
  let (v, rest) ← digits? places cs
  let rest := (rest ++ after).dropWhile isAsciiDigit
  return {
    hour := fields[0]?.getD 0, minute := fields[1]?.getD 0, second := fields[2]?.getD 0
    micro := v * Nat.pow 10 (6 - places), complete := rest.isEmpty }

/-- The hours, minutes and seconds at the start of `cs`, with a colon between each two or between
none, and a fraction; `after` is the text behind `cs`. -/
def readClock? (cs after : List Char) : Option ClockFields :=
  go 3 none [] cs
where
  /-- At most `n` more fields, given whether colons are used and the fields so far. -/
  go : Nat → Option Bool → List Nat → List Char → Option ClockFields
    | 0, _, fields, cs => readFraction? fields cs after
    | n + 1, colons, fields, cs =>
      match digits? 2 cs with
      | none => none
      | some (v, rest) =>
        let fields := fields ++ [v]
        let next := (rest ++ after).head?
        let colons := colons.getD (next == some ':')
        let done : ClockFields :=
          { hour := fields[0]?.getD 0, minute := fields[1]?.getD 0, second := fields[2]?.getD 0
            micro := 0, complete := next.isNone }
        if rest.length ≤ 1 then some done
        else if colons && next == some ':' then go n (some colons) fields (rest.drop 1)
        else if next == some '.' || next == some ',' then readFraction? fields (rest.drop 1) after
        else if colons then none
        else go n (some colons) fields rest

/-- Whether a character begins an offset. -/
def beginsOffset (c : Char) : Bool :=
  c == '+' || c == '-' || c == 'Z'

/-- The offset written behind a clock time. -/
def readOffset? : List Char → Option Offset
  | ['Z'] => some { negative := false, seconds := 0, micro := 0 }
  | c :: cs =>
    if c = 'Z' then none
    else
      match readClock? cs [] with
      | some f =>
        let seconds := f.hour * 3600 + f.minute * 60 + f.second
        if f.complete && seconds < 86400 then
          some { negative := c == '-', seconds, micro := f.micro }
        else none
      | none => none
  | [] => none

/-- A clock time with an optional offset, filling the text. -/
def readTime? (cs : List Char) : Option (Clock × Option Offset) := do
  let body := cs.takeWhile fun c => !beginsOffset c
  let rest := cs.dropWhile fun c => !beginsOffset c
  let f ← readClock? body rest
  let clock ← (Clock.of? f.hour f.minute f.second f.micro).toOption
  if rest.isEmpty then
    if f.complete then return (clock, none) else none
  else
    let offset ← readOffset? rest
    return (clock, some offset)

/-- The moment that a text writes. -/
def readMoment? (cs : List Char) : Option Moment := do
  if cs.length < 7 then none
  else
    let n := dateLength cs
    let date ← readDate? n cs
    match cs.drop n with
    | [] => return { date, clock := .midnight, offset := none }
    | _ :: time =>
      let (clock, offset) ← readTime? time
      return { date, clock, offset }

end Placard.Time
