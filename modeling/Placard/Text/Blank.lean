/-!
# Blank characters and trimming

Two notions of white space meet in card documents, and they differ in four characters:

* `isBlank`: what trimming removes from card text, versions and list entries. It includes the four
  information separators U+001C to U+001F;
* `isWhiteSpace`: the Unicode property of that name, which does not include them. Numbers and
  switches written as text are trimmed by it.

Trimming is stated once for any class of characters.
-/

namespace Placard.Text

/-- The Unicode property `White_Space`. -/
def isWhiteSpace (c : Char) : Bool :=
  let n := c.toNat
  (9 ≤ n && n ≤ 13) || n == 32 || n == 0x85 || n == 0xa0 || n == 0x1680 ||
    (0x2000 ≤ n && n ≤ 0x200a) || n == 0x2028 || n == 0x2029 || n == 0x202f || n == 0x205f ||
    n == 0x3000

/-- A blank separates words: white space or one of the four information separators. -/
def isBlank (c : Char) : Bool :=
  isWhiteSpace c || (28 ≤ c.toNat && c.toNat ≤ 31)

/-- The text without its leading characters of a class. -/
def dropLeading (p : Char → Bool) (cs : List Char) : List Char :=
  cs.dropWhile p

/-- The text without its trailing characters of a class. -/
def dropTrailing (p : Char → Bool) (cs : List Char) : List Char :=
  (cs.reverse.dropWhile p).reverse

/-- The text without the characters of a class at either end. -/
def trimBy (p : Char → Bool) (cs : List Char) : List Char :=
  dropTrailing p (dropLeading p cs)

/-- The text without the blanks at either end. -/
def trim (cs : List Char) : List Char :=
  trimBy isBlank cs

/-- The string without the blanks at either end. -/
def trimmed (s : String) : String :=
  String.ofList (trim s.toList)

/-- Whether every character is a blank; so is the empty text. -/
def allBlank (cs : List Char) : Bool :=
  cs.all isBlank

@[simp]
theorem trimBy_nil (p : Char → Bool) : trimBy p [] = [] := rfl

/-- What trimming leaves starts with no character of the class. -/
theorem head?_dropLeading (p : Char → Bool) (cs : List Char) (c : Char)
    (h : (dropLeading p cs).head? = some c) : p c = false := by
  induction cs with
  | nil => simp [dropLeading] at h
  | cons d ds ih =>
    by_cases hd : p d
    · exact ih (by simpa [dropLeading, hd] using h)
    · simp only [dropLeading, List.dropWhile_cons_of_neg hd, List.head?_cons,
        Option.some.injEq] at h
      simpa [← h] using hd

/-! ## Cutting -/

/-- The stretches of text between occurrences of a separator; always at least one. -/
def cutAt (sep : Char) : List Char → List (List Char)
  | [] => [[]]
  | c :: cs =>
    if c = sep then [] :: cutAt sep cs
    else
      match cutAt sep cs with
      | [] => [[c]]
      | part :: parts => (c :: part) :: parts

/-- The words of a text: its maximal stretches of characters outside a class. -/
def wordsBy (p : Char → Bool) (cs : List Char) : List (List Char) :=
  go cs []
where
  /-- The words of the rest, given the current word reversed. -/
  go : List Char → List Char → List (List Char)
    | [], [] => []
    | [], word => [word.reverse]
    | c :: cs, word =>
      if p c then
        match word with
        | [] => go cs []
        | _ => word.reverse :: go cs []
      else go cs (c :: word)

/-- The lines of a text, without their ends. -/
def lines (cs : List Char) : List (List Char) :=
  cutAt '\n' cs

/-- The parts with a separator between each two. -/
def joinWith (sep : List Char) : List (List Char) → List Char
  | [] => []
  | [part] => part
  | part :: parts => part ++ sep ++ joinWith sep parts

/-- Whether the text begins with a given one. -/
def startsWith (start : List Char) (cs : List Char) : Bool :=
  start.isPrefixOf cs

/-- The rest of the text after a given beginning. -/
def afterStart? : List Char → List Char → Option (List Char)
  | [], cs => some cs
  | _ :: _, [] => none
  | a :: as, c :: cs => if a = c then afterStart? as cs else none

/-- The text with every occurrence of a character replaced. -/
def replaceChar (a : Char) (b : List Char) (cs : List Char) : List Char :=
  cs.flatMap fun c => if c = a then b else [c]

end Placard.Text
