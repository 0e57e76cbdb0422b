import Placard.Text.Utf8

/-!
# Percent encoding

Each part of an address has a set of characters that stand for themselves; every other character is
written as its octets, each behind a percent sign. A percent sign stands for itself everywhere, so
that what is encoded already stays as it is.
-/

namespace Placard.Url

open Placard.Text

/-- The capital digit of a value below sixteen. -/
def capitalHex (n : Nat) : Char :=
  if n < 10 then Char.ofNat (48 + n) else Char.ofNat (55 + n)

/-- An octet behind a percent sign. -/
def encodeOctet (b : Nat) : List Char :=
  ['%', capitalHex (b / 16), capitalHex (b % 16)]

/-- The text with the characters encoded that a part of an address does not admit. -/
def encodeBy (admits : Char → Bool) (cs : List Char) : List Char :=
  cs.flatMap fun c => if admits c then [c] else (octets c).flatMap encodeOctet

/-- Whether a character is printable ASCII: parts without structure admit just these. -/
def admitsPlain (c : Char) : Bool :=
  0x20 ≤ c.toNat && c.toNat ≤ 0x7e

/-- Whether a fragment admits a character. -/
def admitsInFragment (c : Char) : Bool :=
  admitsPlain c && !"\x20\"<>\x60".toList.contains c

/-- Whether a step of a path admits a character. -/
def admitsInPath (c : Char) : Bool :=
  admitsInFragment c && !"#?\x7b\x7d".toList.contains c

/-- Whether a user name or a password admits a character. -/
def admitsInUser (c : Char) : Bool :=
  admitsInPath c && !"/:;=@[\\]^|".toList.contains c

/-- Whether a query admits a character; queries of web addresses do not admit a single quote. -/
def admitsInQuery (web : Bool) (c : Char) : Bool :=
  admitsPlain c && !"\x20\"#<>".toList.contains c && !(web && c == '\x27')

/-- The octets that a text writes, percent signs before two digits resolved. -/
def decodeOctets (cs : List Char) : List Nat :=
  go 0 cs
where
  /-- The octets of the rest, after skipping characters that are already read. -/
  go : Nat → List Char → List Nat
    | _, [] => []
    | skip + 1, _ :: rest => go skip rest
    | 0, c :: rest =>
      let pair? := match rest with
        | a :: b :: _ => (hexValue? a).bind fun x => (hexValue? b).map fun y => x * 16 + y
        | _ => none
      match if c = '%' then pair? else none with
      | some b => b :: go 2 rest
      | none => octets c ++ go 0 rest

end Placard.Url
