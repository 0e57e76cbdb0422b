import Placard.Text.Blank
import Placard.Text.Quoted
import Placard.Url.Percent
import Placard.Url.Punycode

/-!
# Hosts

The host of an address is a domain, a number in one of the two forms of internet addresses, or, when
the scheme is not one of the web, any text. Domains are brought to small letters in ASCII. A text
that ends in a number has to be an address of four octets.
-/

namespace Placard.Url

open Placard.Text

/-- Why a text is no address. -/
inductive Fault where
  | emptyInput
  | relative
  | emptyHost
  | domain
  | hostChar
  | port
  | fourOctets
  | eightWords
deriving DecidableEq

/-- The wording. -/
def Fault.message : Fault → String
  | .emptyInput => "input is empty"
  | .relative => "relative URL without a base"
  | .emptyHost => "empty host"
  | .domain => "invalid international domain name"
  | .hostChar => "invalid domain character"
  | .port => "invalid port number"
  | .fourOctets => "invalid IPv4 address"
  | .eightWords => "invalid IPv6 address"

/-- The host of an address. -/
inductive Host where
  | domain (name : List Char)
  | octets (value : Nat)
  | words (ws : List Nat)
  | other (text : List Char)
deriving DecidableEq

/-! ## Domains -/

/-- The characters that a letter of a domain stands for, or none if it cannot stand in one. -/
def domainLetter? (c : Char) : Option (List Char) :=
  let n := c.toNat
  if n < 128 then
    if admitsPlain c && !" %#/:<>?@[\\]^|".toList.contains c then some [asciiLower c] else none
  else if n = 0x3002 || n = 0xff0e || n = 0xff61 then some ['.']
  else if 0xff01 ≤ n && n ≤ 0xff5e then domainAscii (Char.ofNat (n - 0xfee0))
  else if [0xad, 0x200b, 0x2060, 0xfeff].contains n || (0xfe00 ≤ n && n ≤ 0xfe0f) then some []
  else if n = 0x1e9e then some ['s', 's']
  else if isPrintable c then
    some (if n = 0x130 then ['i', '\u0307'] else [lowerChar c])
  else none
where
  /-- The ASCII character that a wide one stands for. -/
  domainAscii (c : Char) : Option (List Char) :=
    if " %#/:<>?@[\\]^|".toList.contains c then none else some [asciiLower c]

/-- The mark in front of a label that is written in ASCII. -/
def labelMark : List Char :=
  "xn--".toList

/-- A label in ASCII. -/
def labelAscii (label : List Char) : Except Fault (List Char) :=
  if label.all (·.toNat < 128) then
    match afterStart? labelMark label with
    | none => .ok label
    | some rest =>
      match punyDecode? rest with
      | some decoded =>
        if decoded.all (·.toNat < 128) || decoded.any (fun c => domainLetter? c != some [c]) ||
            labelMark ++ punyEncode decoded != label then .error .domain
        else .ok label
      | none => .error .domain
  else .ok (labelMark ++ punyEncode label)

/-- The labels with points between them. -/
def joinLabels (labels : List (List Char)) : List Char :=
  joinWith ['.'] labels

/-- A domain in ASCII. -/
def domainOf (cs : List Char) : Except Fault (List Char) :=
  match decode (decodeOctets cs) with
  | .error _ => .error .domain
  | .ok text =>
    match text.mapM domainLetter? with
    | none => .error .domain
    | some letters => ((cutAt '.' letters.flatten).mapM labelAscii).map joinLabels

/-! ## Addresses of four octets -/

/-- A number of decimal digits, or of octal ones behind a zero, or of base 16 behind a mark. -/
def octetNumber? (cs : List Char) : Option Nat :=
  let read (base : Nat) (ds : List Char) : Option Nat :=
    (ds.mapM fun c => (hexValue? c).filter (· < base)).map (ofDigits base)
  match cs with
  | [] => none
  | '0' :: 'x' :: ds => read 16 ds
  | '0' :: 'X' :: ds => read 16 ds
  | '0' :: d :: ds => read 8 (d :: ds)
  | ds => read 10 ds

/-- The labels without an empty last one. -/
def withoutLastEmpty (labels : List (List Char)) : List (List Char) :=
  if 1 < labels.length && labels.getLast? == some [] then labels.dropLast else labels

/-- Whether the last label of a domain is a number. -/
def endsInNumber (domain : List Char) : Bool :=
  match (withoutLastEmpty (cutAt '.' domain)).getLast? with
  | some label => (!label.isEmpty && label.all isAsciiDigit) || (octetNumber? label).isSome
  | none => false

/-- The value of an address of four octets; its last number can cover several of them. -/
def fourOctets (domain : List Char) : Except Fault Nat :=
  let labels := withoutLastEmpty (cutAt '.' domain)
  match labels.mapM octetNumber? with
  | none => .error .fourOctets
  | some numbers =>
    let front := numbers.dropLast
    let last := numbers.getLastD 0
    if 4 < numbers.length || front.any (255 < ·) || Nat.pow 256 (4 - front.length) ≤ last then
      .error .fourOctets
    else
      .ok (front.zipIdx.foldl (fun total p => total + p.1 * Nat.pow 256 (3 - p.2)) last)

/-- Four octets with points between them. -/
def fourOctetsText (value : Nat) : List Char :=
  joinLabels ([value / 0x1000000 % 256, value / 0x10000 % 256, value / 0x100 % 256,
    value % 256].map natText)

/-! ## Addresses of eight words -/

/-- Decimal octets without leading zeros, exactly four of them, as two words. -/
def octetWords? (cs : List Char) : Option (List Nat) :=
  let number? (ds : List Char) : Option Nat :=
    if ds.isEmpty || 3 < ds.length || !ds.all isAsciiDigit ||
        (1 < ds.length && ds.head? == some '0') then none
    else some (ofDigits 10 (ds.filterMap asciiDigit?)) |>.filter (· < 256)
  match (cutAt '.' cs).mapM number? with
  | some [a, b, c, d] => some [a * 256 + b, c * 256 + d]
  | _ => none

/-- The words between colons; four octets can stand for the last two. -/
def wordsOf? (cs : List Char) : Option (List Nat) :=
  if cs.isEmpty then some []
  else
    let parts := cutAt ':' cs
    let word? (ds : List Char) : Option Nat :=
      if ds.isEmpty || 4 < ds.length then none else (ds.mapM hexValue?).map (ofDigits 16)
    match parts.getLast? with
    | some last =>
      if last.contains '.' then
        (parts.dropLast.mapM word?).bind fun ws => (octetWords? last).map (ws ++ ·)
      else parts.mapM word?
    | none => none

/-- The texts around the first two colons in a row. -/
def aroundGap? : List Char → Option (List Char × List Char)
  | ':' :: ':' :: rest => some ([], rest)
  | c :: rest => (aroundGap? rest).map fun p => (c :: p.1, p.2)
  | [] => none

/-- The eight words of an address; two colons in a row stand for words of zero. -/
def eightWords (cs : List Char) : Except Fault (List Nat) :=
  let read : Option (List Nat) :=
    match aroundGap? cs with
    | none => (wordsOf? cs).filter (·.length == 8)
    | some (before, after) =>
      if before.contains '.' then none
      else
        (wordsOf? before).bind fun front => (wordsOf? after).bind fun back =>
          if front.length + back.length < 8 then
            some (front ++ List.replicate (8 - front.length - back.length) 0 ++ back)
          else none
  match read with
  | some ws => .ok ws
  | none => .error .eightWords

/-- A number in base 16 without leading zeros. -/
def wordText (n : Nat) : List Char :=
  match (hexText 4 n).dropWhile (· == '0') with
  | [] => ['0']
  | ds => ds

/-- The number of zeros that a list begins with. -/
def zerosAhead (ws : List Nat) : Nat :=
  (ws.takeWhile (· == 0)).length

/-- The first longest run of zeros: where it begins and how long it is. -/
def longestGap (ws : List Nat) : Nat × Nat :=
  (List.range ws.length).foldl (fun best i =>
    let length := zerosAhead (ws.drop i)
    if best.2 < length then (i, length) else best) (0, 0)

/-- Eight words with colons between them, the first longest run of at least two zeros left out. -/
def eightWordsText (ws : List Nat) : List Char :=
  let join (ws : List Nat) := joinWith [':'] (ws.map wordText)
  let (start, length) := longestGap ws
  if length < 2 then join ws
  else join (ws.take start) ++ [':', ':'] ++ join (ws.drop (start + length))

/-! ## Reading and writing -/

/-- The inside of a pair of square brackets, if the text begins with one. -/
def bracketed? (cs : List Char) : Option (Except Fault Host) :=
  match cs with
  | '[' :: rest =>
    some (if rest.getLast? == some ']' then (eightWords rest.dropLast).map .words
      else .error .eightWords)
  | _ => none

/-- The host of an address of the web. -/
def Host.ofWeb (cs : List Char) : Except Fault Host :=
  match bracketed? cs with
  | some host => host
  | none =>
    match domainOf cs with
    | .error e => .error e
    | .ok name =>
      if name.isEmpty then .error .emptyHost
      else if endsInNumber name then (fourOctets name).map .octets
      else .ok (.domain name)

/-- The host of an address of another scheme. -/
def Host.ofOther (cs : List Char) : Except Fault Host :=
  match bracketed? cs with
  | some host => host
  | none =>
    if cs.any fun c => c == '\x00' || " #/:<>?@[\\]^|".toList.contains c then .error .hostChar
    else .ok (.other (encodeBy admitsPlain cs))

/-- The text of a host. -/
def Host.text : Host → List Char
  | .domain name => name
  | .octets value => fourOctetsText value
  | .words ws => '[' :: eightWordsText ws ++ [']']
  | .other cs => cs

end Placard.Url
