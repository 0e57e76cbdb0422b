import Placard.Text.CaseTable
import Placard.Text.CasedTable
import Placard.Text.LetterTable

/-!
# Letters, words and letter case

* `isWordChar`: letters and numbers of every script, and the low line;
* `lower`: the small-letter form of a text. Two letters need more than a table: `İ` becomes two
  characters, and a capital sigma that ends a word becomes a final sigma;
* `capital`: the capital form, complete for texts that are compared with ASCII words.
-/

namespace Placard.Text

/-- Whether a code point lies in one of the inclusive ranges. -/
def inRanges (ranges : List (Nat × Nat)) (n : Nat) : Bool :=
  ranges.any fun r => r.1 ≤ n && n ≤ r.2

/-- Whether the character is an ASCII letter. -/
def isAsciiLetter (c : Char) : Bool :=
  let n := c.toNat
  (97 ≤ n && n ≤ 122) || (65 ≤ n && n ≤ 90)

/-- Whether the character is a letter or a number of any script. -/
def isLetterOrNumber (c : Char) : Bool :=
  let n := c.toNat
  if n < 128 then isAsciiLetter c || (48 ≤ n && n ≤ 57) else inRanges letterRanges n

/-- Whether the character can be part of a word. -/
def isWordChar (c : Char) : Bool :=
  c == '_' || isLetterOrNumber c

/-- The small letter of an ASCII capital; other characters are kept. -/
def asciiLower (c : Char) : Char :=
  if 65 ≤ c.toNat && c.toNat ≤ 90 then Char.ofNat (c.toNat + 32) else c

/-- The small letter of a capital letter that has exactly one; other characters are kept. -/
def lowerChar (c : Char) : Char :=
  let n := c.toNat
  if n < 128 then asciiLower c
  else
    match smallLetterRuns.find? fun r =>
        r.1 ≤ n && n ≤ r.2.1 && (n - r.1) % r.2.2.1 == 0 with
    | some r => Char.ofNat (Int.toNat (n + r.2.2.2))
    | none => c

/-- Whether the character is a letter with case. -/
def isCased (c : Char) : Bool :=
  inRanges casedRanges c.toNat

/-- Whether the nearest of these characters that is not passed over is a letter with case. -/
def meetsCased (cs : List Char) : Bool :=
  ((cs.dropWhile fun c => inRanges passedOverRanges c.toNat).head?).any isCased

/-- Whether a capital sigma with these neighbours, each side nearest first, ends a word: a letter
stands before it, none after it. -/
def endsWord (before after : List Char) : Bool :=
  meetsCased before && !meetsCased after

/-- The small-letter form of a text. -/
def lower (cs : List Char) : List Char :=
  go [] cs
where
  /-- The form of the rest, given what stands before it, nearest first. -/
  go (before : List Char) : List Char → List Char
    | [] => []
    | c :: rest =>
      let small :=
        if c = '\u0130' then ['i', '\u0307']
        else if c = '\u03a3' then [if endsWord before rest then '\u03c2' else '\u03c3']
        else [lowerChar c]
      small ++ go (c :: before) rest

/-- The capital form of a character, as far as it consists of ASCII letters; others are kept. -/
def capital (c : Char) : List Char :=
  let n := c.toNat
  if 97 ≤ n && n ≤ 122 then [Char.ofNat (n - 32)]
  else
    match n with
    | 0x131 => ['I']
    | 0x17f => ['S']
    | 0xdf => ['S', 'S']
    | 0xfb00 => ['F', 'F']
    | 0xfb01 => ['F', 'I']
    | 0xfb02 => ['F', 'L']
    | 0xfb03 => ['F', 'F', 'I']
    | 0xfb04 => ['F', 'F', 'L']
    | 0xfb05 => ['S', 'T']
    | 0xfb06 => ['S', 'T']
    | _ => [c]

/-- The capital form of a text, complete where it consists of ASCII letters. -/
def upper (cs : List Char) : List Char :=
  cs.flatMap capital

/-- The small-letter form of a string. -/
def lowered (s : String) : String :=
  String.ofList (lower s.toList)

/-- The small-letter form of a string's ASCII capitals. -/
def asciiLowered (s : String) : String :=
  String.ofList (s.toList.map asciiLower)

end Placard.Text
