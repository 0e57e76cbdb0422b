import Placard.Text.Digit

/-!
# UTF-8

`octets` writes a character, `decode` reads a whole text. A text that is not UTF-8 has a first
offending sequence; the fault says where it begins, how many octets it takes and what is wrong:

* an octet that begins no character;
* an octet that does not continue the character before it, shortest forms and halves of surrogate
  pairs included;
* a character cut off by the end.
-/

namespace Placard.Text

/-- The octets of a character. -/
def octets (c : Char) : List Nat :=
  let n := c.toNat
  if n < 0x80 then [n]
  else if n < 0x800 then [0xc0 + n / 0x40, 0x80 + n % 0x40]
  else if n < 0x10000 then [0xe0 + n / 0x1000, 0x80 + n / 0x40 % 0x40, 0x80 + n % 0x40]
  else
    [0xf0 + n / 0x40000, 0x80 + n / 0x1000 % 0x40, 0x80 + n / 0x40 % 0x40, 0x80 + n % 0x40]

/-- What is wrong with a sequence of octets. -/
inductive OctetCause where
  | start
  | continuation
  | cutOff
deriving DecidableEq

/-- The wording of a cause. -/
def OctetCause.message : OctetCause → String
  | .start => "invalid start byte"
  | .continuation => "invalid continuation byte"
  | .cutOff => "unexpected end of data"

/-- A sequence of octets that is no part of a text. -/
structure OctetFault where
  cause : OctetCause
  position : Nat
  count : Nat
  first : Nat
deriving DecidableEq

/-- The wording of a fault with its place. -/
def OctetFault.message (f : OctetFault) : String :=
  let number (n : Nat) := String.ofList (natText n)
  "'utf-8' codec can't decode " ++
    (if f.count = 1 then
      "byte 0x" ++ String.ofList (hexText 2 f.first) ++ " in position " ++ number f.position
    else "bytes in position " ++ number f.position ++ "-" ++ number (f.position + f.count - 1)) ++
    ": " ++ f.cause.message

/-- Whether an octet continues a character. -/
def isContinuation (b : Nat) : Bool :=
  0x80 ≤ b && b < 0xc0

/-- How many octets follow the first one of a character, and the range of the second. -/
def leadOf? (a : Nat) : Option (Nat × Nat × Nat) :=
  if a < 0xc2 then none
  else if a < 0xe0 then some (1, 0x80, 0xbf)
  else if a < 0xf0 then
    some (2, if a = 0xe0 then 0xa0 else 0x80, if a = 0xed then 0x9f else 0xbf)
  else if a < 0xf5 then
    some (3, if a = 0xf0 then 0x90 else 0x80, if a = 0xf4 then 0x8f else 0xbf)
  else none

/-- The first character and the number of its octets, or the cause and the number of the offending
octets. -/
def firstChar (bs : List Nat) : Except (OctetCause × Nat) (Char × Nat) :=
  match bs with
  | [] => .error (.cutOff, 0)
  | a :: more =>
    if a < 0x80 then .ok (Char.ofNat a, 1)
    else
      match leadOf? a with
      | none => .error (.start, 1)
      | some (count, low, high) =>
        let tail := more.take count
        let fits := match tail with
          | [] => []
          | b :: rest => if low ≤ b && b ≤ high then b :: rest.takeWhile isContinuation else []
        if fits.length < tail.length then .error (.continuation, fits.length + 1)
        else if tail.length < count then .error (.cutOff, tail.length + 1)
        else
          let lead := if count = 1 then a - 0xc0 else if count = 2 then a - 0xe0 else a - 0xf0
          .ok (Char.ofNat (tail.foldl (fun n b => n * 0x40 + (b - 0x80)) lead), count + 1)

/-- The text that octets write. -/
def decode (bs : List Nat) : Except OctetFault (List Char) :=
  go 0 0 bs
where
  /-- The text of the rest at a position, after skipping octets that are already read. -/
  go (position skip : Nat) : List Nat → Except OctetFault (List Char)
    | [] => .ok []
    | b :: rest =>
      match skip with
      | skip + 1 => go (position + 1) skip rest
      | 0 =>
        match firstChar (b :: rest) with
        | .error (cause, count) => .error { cause, position, count, first := b }
        | .ok (c, count) => (go (position + 1) (count - 1) rest).map (c :: ·)

/-- The string that octets write, if they write one. -/
def decoded? (bs : List Nat) : Option String :=
  match decode bs with
  | .ok cs => some (String.ofList cs)
  | .error _ => none

end Placard.Text
