import Placard.Text.Case
import Placard.Time.Iso

/-!
# Date and time functions in card text

Card text may hold calls such as `\{\{DATE(2017-02-14T06:08:39Z, SHORT)\}\}` and
`\{\{TIME(2017-02-14T06:08:39Z)\}\}`. A call is replaced by its timestamp in words, in the offset
the timestamp carries. A call whose timestamp cannot be read stays as written.

* `Call.read?`: the call that begins a text;
* `Call.result?`: what it is replaced by;
* `expand`: a text with its calls replaced, from left to right.
-/

namespace Placard.Time

open Placard.Text

/-- How a date is written. -/
inductive DateStyle where
  | compact
  | short
  | long
deriving DecidableEq

/-- The style that a hint names, in any letter case; other hints mean the compact one. -/
def DateStyle.ofHint (hint : List Char) : DateStyle :=
  let name := String.ofList (upper hint)
  if name = "LONG" then .long else if name = "SHORT" then .short else .compact

/-- The names of the months. -/
def monthNames : List String :=
  ["January", "February", "March", "April", "May", "June", "July", "August", "September", "October",
    "November", "December"]

/-- The names of the days of the week, from Monday on. -/
def dayNames : List String :=
  ["Monday", "Tuesday", "Wednesday", "Thursday", "Friday", "Saturday", "Sunday"]

/-- The name of the day of the week. -/
def Date.dayName (d : Date) : List Char :=
  (dayNames[d.weekday]?.getD "").toList

/-- The name of the month. -/
def Date.monthName (d : Date) : List Char :=
  (monthNames[d.month - 1]?.getD "").toList

/-- A date in words: `2/14/2017`, `Tue, Feb 14, 2017` or `Tuesday, February 14, 2017`. -/
def Date.inWords (d : Date) : DateStyle → List Char
  | .compact => natText d.month ++ '/' :: natText d.day ++ '/' :: natText d.year
  | .short =>
    d.dayName.take 3 ++ [',', ' '] ++ d.monthName.take 3 ++ ' ' :: natText d.day ++ [',', ' '] ++
      natText d.year
  | .long =>
    d.dayName ++ [',', ' '] ++ d.monthName ++ ' ' :: natText d.day ++ [',', ' '] ++ natText d.year

/-- A clock time in words, on the twelve-hour clock: `6:08 AM`. -/
def Clock.inWords (t : Clock) : List Char :=
  natText (if t.hour % 12 = 0 then 12 else t.hour % 12) ++ ':' :: paddedText 2 t.minute ++
    ' ' :: (if t.hour < 12 then ['A', 'M'] else ['P', 'M'])

/-! ## Calls -/

/-- A call as written: the letters of its name, its argument and its hint. -/
structure Call where
  name : List Char
  argument : List Char
  hint : Option (List Char)

/-- Whether a character is read as the capital letter, in either case and in the forms of other
scripts that share it. -/
def isLetterForm (capital c : Char) : Bool :=
  c == capital || c == asciiLower capital ||
    (capital == 'I' && (c == '\u0131' || c == '\u0130')) || (capital == 'S' && c == '\u017f')

/-- The letters of a word at the start of a text, and the rest. -/
def spanWord? : List Char → List Char → Option (List Char × List Char)
  | [], cs => some ([], cs)
  | _ :: _, [] => none
  | w :: ws, c :: cs =>
    if isLetterForm w c then (spanWord? ws cs).map fun p => (c :: p.1, p.2) else none

/-- The first of some words that begins a text. -/
def spanWordOf? (words : List String) (cs : List Char) : Option (List Char × List Char) :=
  words.findSome? fun w => spanWord? w.toList cs

/-- The rest of a text behind blanks and the end of a call. -/
def afterCallEnd? (cs : List Char) : Option (List Char) :=
  afterStart? [')', '\x7d', '\x7d'] (dropLeading isBlank cs)

/-- The call that begins a text, and the rest. -/
def Call.read? (cs : List Char) : Option (Call × List Char) := do
  let cs ← afterStart? ['\x7b', '\x7b'] cs
  let (name, cs) ← spanWordOf? ["DATE", "TIME"] cs
  let cs ← afterStart? ['('] cs
  let argument := cs.takeWhile fun c => c != ',' && c != ')'
  let rest := cs.dropWhile fun c => c != ',' && c != ')'
  if argument.isEmpty then none
  else
    match rest with
    | ',' :: rest =>
      let (hint, rest) ← spanWordOf? ["COMPACT", "SHORT", "LONG"] (dropLeading isBlank rest)
      let rest ← afterCallEnd? rest
      return ({ name, argument, hint := some hint }, rest)
    | _ =>
      let rest ← afterCallEnd? rest
      return ({ name, argument, hint := none }, rest)

/-- The moment that an argument writes. A final `Z` in either case means universal time. -/
def readArgument? (argument : List Char) : Option Moment :=
  let cs := trim argument
  match cs.reverse with
  | 'Z' :: before => readMoment? (before.reverse ++ "+00:00".toList)
  | 'z' :: before => readMoment? (before.reverse ++ "+00:00".toList)
  | _ => readMoment? cs

/-- What a call is replaced by, if its timestamp can be read. -/
def Call.result? (call : Call) : Option (List Char) :=
  (readArgument? call.argument).map fun t =>
    if upper call.name = ['T', 'I', 'M', 'E'] then t.clock.inWords
    else t.date.inWords (call.hint.elim .compact DateStyle.ofHint)

/-- A text with its calls replaced. Behind a call that stays as written the search goes on. -/
def expandText (cs : List Char) : List Char :=
  match cs with
  | [] => []
  | c :: rest =>
    match Call.read? (c :: rest) with
    | some (call, after) =>
      if after.length < (c :: rest).length then
        let written := (c :: rest).take ((c :: rest).length - after.length)
        (call.result?.getD written) ++ expandText after
      else c :: expandText rest
    | none => c :: expandText rest
termination_by cs.length
decreasing_by
  · assumption
  · simp
  · simp

/-- A string with its calls replaced. -/
def expand (s : String) : String :=
  String.ofList (expandText s.toList)

end Placard.Time
