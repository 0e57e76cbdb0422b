import Placard.Data.Value
import Placard.Number.Shortest
import Placard.Text.Quoted

/-!
# How data is shown

Messages and attributes show plain data in two ways: `shown` writes a text as it is, `spelled`
writes it between quotes. Inside lists and mappings everything is spelled.
-/

namespace Placard.Data

open Placard.Text Placard.Number Placard.Time

/-- The parts with commas between them. -/
def commaSeparated (parts : List (List Char)) : List Char :=
  joinWith [',', ' '] parts

/-- Bytes between quotes. -/
def spelledBytes (octets : List Nat) : List Char :=
  let cs := octets.map Char.ofNat
  let q := if cs.contains '\x27' && !cs.contains '"' then '"' else '\x27'
  'b' :: q :: cs.flatMap (fun c =>
    if c = q || c = '\\' then ['\\', c]
    else if c = '\n' then ['\\', 'n']
    else if c = '\r' then ['\\', 'r']
    else if c = '\t' then ['\\', 't']
    else if 32 ≤ c.toNat && c.toNat < 127 then [c]
    else '\\' :: 'x' :: hexText 2 c.toNat) ++ [q]

/-- A date as the call that makes it. -/
def spelledDate (d : Date) : List Char :=
  "datetime.date(".toList ++ commaSeparated [natText d.year, natText d.month, natText d.day] ++
    [')']

/-- A span of seconds as the call that makes it. -/
def spelledSpan (negative : Bool) (seconds : Nat) : List Char :=
  let total : Int := if negative then -(seconds : Int) else seconds
  let days := Int.fdiv total 86400
  let rest := Int.fmod total 86400
  let dayPart := if days = 0 then [] else ["days=".toList ++ intText days]
  let restPart := if rest = 0 then [] else ["seconds=".toList ++ intText rest]
  let parts := dayPart ++ restPart
  "datetime.timedelta(".toList ++
    (if parts.isEmpty then ['0'] else commaSeparated parts) ++ [')']

/-- A moment as the call that makes it. -/
def spelledMoment (t : Moment) : List Char :=
  let fields := [t.date.year, t.date.month, t.date.day, t.clock.hour, t.clock.minute]
  let seconds := if t.clock.second = 0 && t.clock.micro = 0 then [] else [t.clock.second]
  let micros := if t.clock.micro = 0 then [] else [t.clock.micro]
  let zone := match t.offset with
    | none => []
    | some o =>
      if o.seconds = 0 then ["tzinfo=datetime.timezone.utc".toList]
      else ["tzinfo=datetime.timezone(".toList ++ spelledSpan o.negative o.seconds ++ [')']]
  "datetime.datetime(".toList ++
    commaSeparated ((fields ++ seconds ++ micros).map natText ++ zone) ++ [')']

mutual

/-- A value with every text between quotes. -/
def spelled : Value → List Char
  | .null => "None".toList
  | .bool b => (if b then "True" else "False").toList
  | .int i => intText i
  | .float x => numberText x
  | .text s => quote s.toList
  | .list xs => '[' :: commaSeparated (spelledAll xs) ++ [']']
  | .map es => '\x7b' :: commaSeparated (spelledEntries es) ++ ['\x7d']
  | .date d => spelledDate d
  | .moment t => spelledMoment t
  | .bytes bs => spelledBytes bs
  | .set xs =>
    if xs.isEmpty then "set()".toList else '\x7b' :: commaSeparated (spelledAll xs) ++ ['\x7d']
  | .tuple xs =>
    '(' :: commaSeparated (spelledAll xs) ++ (if xs.length = 1 then [',', ')'] else [')'])

/-- The values of a list, spelled. -/
def spelledAll : List Value → List (List Char)
  | [] => []
  | x :: xs => spelled x :: spelledAll xs

/-- The entries of a mapping, spelled. -/
def spelledEntries : List (Value × Value) → List (List Char)
  | [] => []
  | (k, v) :: rest => (spelled k ++ [':', ' '] ++ spelled v) :: spelledEntries rest

end

/-- A value as a text: a text as it is, others spelled. -/
def shown : Value → List Char
  | .text s => s.toList
  | .date d => d.text
  | .moment t => t.text ' '
  | v => spelled v

/-- A value as a string. -/
def shownText (v : Value) : String :=
  String.ofList (shown v)

end Placard.Data
