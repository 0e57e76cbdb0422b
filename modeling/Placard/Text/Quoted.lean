import Placard.Text.Case
import Placard.Text.Digit
import Placard.Text.PrintableTable

/-!
# Quoted text

Messages show a text between quotes with everything unprintable spelled out: the quotes are single
unless the text has a single quote and no double one, and a backslash spells itself, line ends,
tabs, and any character without a printed form.
-/

namespace Placard.Text

/-- Whether a character has a printed form. -/
def isPrintable (c : Char) : Bool :=
  let n := c.toNat
  if n < 128 then 32 ≤ n && n < 127 else !inRanges unprintableRanges n

/-- The spelling of one character between the given quotes. -/
def spell (quote : Char) (c : Char) : List Char :=
  if c = quote || c = '\\' then ['\\', c]
  else if c = '\n' then ['\\', 'n']
  else if c = '\r' then ['\\', 'r']
  else if c = '\t' then ['\\', 't']
  else if isPrintable c then [c]
  else
    let n := c.toNat
    if n < 0x100 then '\\' :: 'x' :: hexText 2 n
    else if n < 0x10000 then '\\' :: 'u' :: hexText 4 n
    else '\\' :: 'U' :: hexText 8 n

/-- The text between quotes, spelled out. -/
def quote (cs : List Char) : List Char :=
  let q := if cs.contains '\x27' && !cs.contains '"' then '"' else '\x27'
  q :: cs.flatMap (spell q) ++ [q]

/-- The string between quotes, spelled out. -/
def quoted (s : String) : String :=
  String.ofList (quote s.toList)

end Placard.Text
