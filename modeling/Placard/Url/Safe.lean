import Placard.Text.Case
import Placard.Text.Digit

/-!
# Which addresses are safe

An address is safe if it is relative or leads to the web or to mail. Browsers skip blanks and
controls in front of and inside a scheme, so these do not count, and neither does letter case.
-/

namespace Placard.Url

open Placard.Text

/-- Whether browsers skip the character in a scheme. -/
def isNoise (c : Char) : Bool :=
  c.toNat ≤ 0x20 || c.toNat == 0x7f

/-- Whether a character can stand in a scheme behind its first letter. -/
def isSchemeChar (c : Char) : Bool :=
  (97 ≤ c.toNat && c.toNat ≤ 122) || isAsciiDigit c || c == '+' || c == '.' || c == '-'

/-- The scheme that an address in small letters begins with. -/
def scheme? (cs : List Char) : Option (List Char) :=
  match cs with
  | c :: rest =>
    if 97 ≤ c.toNat && c.toNat ≤ 122 then
      let more := rest.takeWhile isSchemeChar
      if (rest.drop more.length).head? = some ':' then some (c :: more) else none
    else none
  | [] => none

/-- The schemes that are safe. -/
def safeSchemes : List String :=
  ["http", "https", "mailto"]

/-- Whether an address is safe. -/
def isSafe (address : List Char) : Bool :=
  match scheme? (lower (address.filter fun c => !isNoise c)) with
  | none => true
  | some scheme => safeSchemes.any fun s => s.toList == scheme

end Placard.Url
