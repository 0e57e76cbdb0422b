import Placard.Yaml.Scalar

/-!
# Tokens

A document is read as a list of tokens. Indentation shows as tokens of its own: a block begins where
a line is indented further and ends where a line is indented less.

A node turns out to be the key of a mapping only when the colon behind it is met. Until then its
place in the list is kept open; the colon fills it, possibly together with the beginning of a block.
An open place lapses at the end of its line and after 1024 characters.
-/

namespace Placard.Yaml

open Placard.Text Cursor

/-- A part of a document. -/
inductive Token where
  | version (major minor : Nat)
  /-- a short form for the beginning of tags -/
  | shorthand (handle start : List Char)
  /-- a line of another sort behind a percent sign -/
  | remark
  | documentStart
  | documentEnd
  | blockSequenceStart
  | blockMappingStart
  | blockEnd
  | flowSequenceStart
  | flowSequenceEnd
  | flowMappingStart
  | flowMappingEnd
  | entry
  | comma
  | key
  | value
  | alias (name : List Char)
  | anchor (name : List Char)
  /-- a tag, with the short form that it begins with, if any -/
  | tag (handle : Option (List Char)) (rest : List Char)
  | scalar (plain : Bool) (text : List Char)
  | streamEnd
deriving DecidableEq

/-- A place for a key that may turn out to be one. -/
structure Place where
  number : Nat
  /-- whether the key has to turn out to be one, because a line begins with it -/
  required : Bool
  at_ : Cursor

/-- What is known on the way through a document. -/
structure Scan where
  cursor : Cursor
  /-- the number of flow collections around -/
  flow : Nat := 0
  indent : Int := -1
  indents : List Int := []
  keyAllowed : Bool := true
  /-- the open places, by the number of flow collections around them -/
  places : List (Nat × Place) := []
  placeCount : Nat := 0
  /-- the tokens so far, latest first, and among them the numbers of places -/
  tokens : List (Token ⊕ Nat) := []
  /-- the tokens that fill places -/
  filled : List (Nat × List Token) := []
  done : Bool := false

namespace Scan

/-- The state with a token more. -/
def push (t : Token) (s : Scan) : Scan :=
  { s with tokens := .inl t :: s.tokens }

/-- The state without the places that have lapsed. -/
def dropLapsed (s : Scan) : Except Fault Scan :=
  let lapsed (p : Nat × Place) : Bool :=
    p.2.at_.line != s.cursor.line || 1024 < s.cursor.index - p.2.at_.index
  if s.places.any fun p => lapsed p && p.2.required then .error .malformed
  else .ok { s with places := s.places.filter (!lapsed ·) }

/-- The state without the open place of this depth. -/
def closePlace (s : Scan) : Except Fault Scan :=
  if s.places.any fun p => p.1 == s.flow && p.2.required then .error .malformed
  else .ok { s with places := s.places.filter (·.1 != s.flow) }

/-- The state with a place kept open here, if a key is allowed. -/
def openPlace (s : Scan) : Except Fault Scan :=
  if s.keyAllowed then
    (closePlace s).map fun s =>
      { s with
        places := (s.flow,
          { number := s.placeCount, required := s.flow = 0 && s.indent = s.cursor.column
            at_ := s.cursor }) :: s.places
        tokens := .inr s.placeCount :: s.tokens
        placeCount := s.placeCount + 1 }
  else .ok s

/-- The state with the blocks ended that are indented further than a column. -/
def unwind (column : Int) (s : Scan) : Scan :=
  if s.flow != 0 then s else go s.indents s
where
  /-- The same, over the surrounding indentations. -/
  go : List Int → Scan → Scan
    | [], s =>
      if column < s.indent then { s.push .blockEnd with indent := -1, indents := [] } else s
    | outer :: rest, s =>
      if column < s.indent then go rest { s.push .blockEnd with indent := outer, indents := rest }
      else s

/-- The state inside a block at a column, and whether that is a new one. -/
def indentTo (column : Nat) (s : Scan) : Scan × Bool :=
  if s.indent < column then
    ({ s with indents := s.indent :: s.indents, indent := column }, true)
  else (s, false)

/-- The state at the next token: behind blanks, remarks and line ends. -/
def toToken : Nat → Scan → Scan
  | 0, s => s
  | fuel + 1, s =>
    let c := if s.cursor.index = 0 && s.cursor.here = '\ufeff' then s.cursor.next else s.cursor
    let c := c.pass (· == ' ')
    let c := if c.here = '#' then c.pass (!isBreak ·) else c
    if isBreak c.here then
      toToken fuel { s with cursor := c.lineBreak.2, keyAllowed := s.keyAllowed || s.flow = 0 }
    else { s with cursor := c }

/-! ## Directives, anchors and tags -/

/-- A name, followed by a character of a class. -/
def nameBefore (p : Char → Bool) (c : Cursor) : Except Fault (List Char × Cursor) :=
  let (name, c) := c.span isNameChar
  if name.isEmpty || !p c.here then .error .malformed else .ok (name, c)

/-- The decimal number here. -/
def numberHere (c : Cursor) : Except Fault (Nat × Cursor) :=
  let (ds, c) := c.span isAsciiDigit
  if ds.isEmpty then .error .malformed else .ok (ofDigits 10 (ds.filterMap asciiDigit?), c)

/-- The characters of an address that stand for themselves. -/
def isUriChar (c : Char) : Bool :=
  isAsciiLetter c || isAsciiDigit c || "-;/?:@&=+$,_.!~*'()[]".toList.contains c

/-- Octets written behind percent signs. -/
def uriOctets : Nat → Cursor → Except Fault (List Nat × Cursor)
  | 0, c => .ok ([], c)
  | fuel + 1, c =>
    if c.here = '%' then
      match hexValue? (c.ahead 1), hexValue? (c.ahead 2) with
      | some a, some b => (uriOctets fuel (c.skip 3)).map fun p => ((a * 16 + b) :: p.1, p.2)
      | _, _ => .error .malformed
    else .ok ([], c)

/-- The part of an address here. -/
def uriRest : Nat → Cursor → Except Fault (List Char × Cursor)
  | 0, c => .ok ([], c)
  | fuel + 1, c =>
    let (plain, behind) := c.span isUriChar
    if !plain.isEmpty then (uriRest fuel behind).map fun p => (plain ++ p.1, p.2)
    else if c.here = '%' then
      match uriOctets (c.rest.length + 1) c with
      | .error e => .error e
      | .ok (octets, behind) =>
        match decode octets with
        | .error _ => .error .malformed
        | .ok text => (uriRest fuel behind).map fun p => (text ++ p.1, p.2)
    else .ok ([], c)

/-- The part of an address here, which is not empty. -/
def uriHere (c : Cursor) : Except Fault (List Char × Cursor) :=
  match uriRest (c.rest.length + 1) c with
  | .ok ([], _) => .error .malformed
  | r => r

/-- A short form: a name between exclamation marks, or a single one. -/
def handleHere (c : Cursor) : Except Fault (List Char × Cursor) :=
  if c.here != '!' then .error .malformed
  else if c.ahead 1 = ' ' then .ok (['!'], c.next)
  else
    let (name, behind) := c.next.span isNameChar
    if behind.here = '!' then .ok ('!' :: name ++ ['!'], behind.next)
    else .error .malformed

/-- A line behind a percent sign. -/
def directive (c : Cursor) : Except Fault (Token × Cursor) := do
  let (name, c) ← nameBefore endsField c.next
  let (token, c) ←
    if name = "YAML".toList then
      let (major, c) ← numberHere (c.pass (· == ' '))
      if c.here != '.' then .error .malformed
      let (minor, c) ← numberHere c.next
      if !endsField c.here then .error .malformed
      pure (Token.version major minor, c)
    else if name = "TAG".toList then
      let (handle, c) ← handleHere (c.pass (· == ' '))
      if c.here != ' ' then .error .malformed
      let (start, c) ← uriHere (c.pass (· == ' '))
      if !endsField c.here then .error .malformed
      pure (Token.shorthand handle start, c)
    else pure (Token.remark, c.pass (!isBreak ·))
  return (token, ← c.passRemark)

/-- The name of an anchor or an alias, behind its mark. -/
def anchorName (c : Cursor) : Except Fault (List Char × Cursor) :=
  nameBefore (fun a => endsWord a || "?:,]\x7d%@\x60".toList.contains a) c.next

/-- A tag. -/
def tagHere (c : Cursor) : Except Fault (Token × Cursor) := do
  let word := (c.rest.drop 1).takeWhile (!endsField ·)
  let (token, c) ←
    if c.ahead 1 = '<' then
      let (text, c) ← uriHere (c.skip 2)
      if c.here != '>' then .error .malformed
      pure (Token.tag none text, c.next)
    else if endsWord (c.ahead 1) then pure (Token.tag none ['!'], c.next)
    else
      let (handle, c) ← if word.contains '!' then handleHere c else pure (['!'], c.next)
      let (text, c) ← uriHere c
      pure (Token.tag (some handle) text, c)
  if endsField c.here then return (token, c) else .error .malformed

/-! ## One token after the other -/

/-- The state behind a single character that is a token. -/
def take (t : Token) (s : Scan) : Scan :=
  { s.push t with cursor := s.cursor.next }

/-- The state at the end of the text. -/
def finish (s : Scan) : Except Fault Scan := do
  let s ← (s.unwind (-1)).closePlace
  return { s.push .streamEnd with keyAllowed := false, places := [], done := true }

/-- The state behind a line behind a percent sign. -/
def takeDirective (s : Scan) : Except Fault Scan := do
  let s ← (s.unwind (-1)).closePlace
  let (token, cursor) ← directive s.cursor
  return { s.push token with cursor, keyAllowed := false }

/-- The state behind a mark between documents. -/
def takeBoundary (t : Token) (s : Scan) : Except Fault Scan := do
  let s ← (s.unwind (-1)).closePlace
  return { s.push t with cursor := s.cursor.skip 3, keyAllowed := false }

/-- The state behind the beginning of a flow collection. -/
def takeFlowStart (t : Token) (s : Scan) : Except Fault Scan := do
  let s ← s.openPlace
  return { s.take t with flow := s.flow + 1, keyAllowed := true }

/-- The state behind the end of a flow collection. -/
def takeFlowEnd (t : Token) (s : Scan) : Except Fault Scan := do
  let s ← s.closePlace
  return { s.take t with flow := s.flow - 1, keyAllowed := false }

/-- The state behind a comma. -/
def takeComma (s : Scan) : Except Fault Scan := do
  let s ← s.closePlace
  return { s.take .comma with keyAllowed := true }

/-- The state inside a block that an indicator here may begin. -/
def beginBlock (start : Token) (s : Scan) : Except Fault Scan :=
  if s.flow != 0 then .ok s
  else if !s.keyAllowed then .error .malformed
  else
    let (s, isNew) := s.indentTo s.cursor.column
    .ok (if isNew then s.push start else s)

/-- The state behind the mark of an entry. -/
def takeEntry (s : Scan) : Except Fault Scan := do
  let s ← (← s.beginBlock .blockSequenceStart).closePlace
  return { s.take .entry with keyAllowed := true }

/-- The state behind the mark of a key. -/
def takeKey (s : Scan) : Except Fault Scan := do
  let s ← (← s.beginBlock .blockMappingStart).closePlace
  return { s.take .key with keyAllowed := s.flow = 0 }

/-- The state behind the mark of a value; an open place for its key is filled. -/
def takeValue (s : Scan) : Except Fault Scan := do
  match s.places.find? (·.1 == s.flow) with
  | some (_, place) =>
    let s := { s with places := s.places.filter (·.1 != s.flow), keyAllowed := false }
    let (s, isNew) := if s.flow = 0 then s.indentTo place.at_.column else (s, false)
    let key := if isNew then [Token.blockMappingStart, .key] else [.key]
    return { s with filled := (place.number, key) :: s.filled }.take .value
  | none =>
    let s ← (← s.beginBlock .blockMappingStart).closePlace
    return { s.take .value with keyAllowed := s.flow = 0 }

/-- The state behind a token of a node that may be a key. -/
def takeNode (read : Cursor → Except Fault (Token × Cursor)) (s : Scan) : Except Fault Scan := do
  let s ← s.openPlace
  let (token, cursor) ← read s.cursor
  return { s.push token with cursor, keyAllowed := false }

/-- The state behind a block scalar. -/
def takeBlock (s : Scan) : Except Fault Scan := do
  let s ← s.closePlace
  let (text, cursor) ← blockScalar s.indent s.cursor
  return { s.push (.scalar false text) with cursor, keyAllowed := true }

/-- The state behind a plain scalar. -/
def takePlain (s : Scan) : Except Fault Scan := do
  let s ← s.openPlace
  let (text, cursor, ended) :=
    plainRest (s.flow != 0) (s.indent + 1) (s.cursor.rest.length + 1) [] s.cursor false
  return { s.push (.scalar true text) with cursor, keyAllowed := ended }

/-- Whether plain text begins here. -/
def beginsPlain (s : Scan) : Bool :=
  let a := s.cursor.here
  let b := s.cursor.ahead 1
  (!endsWord a && !"-?:,[]\x7b\x7d#&*!|>'\"%@\x60".toList.contains a) ||
    (!endsWord b && (a == '-' || (s.flow = 0 && (a == '?' || a == ':'))))

/-- The state behind the next token. -/
def step (s : Scan) : Except Fault Scan := do
  let s ← (s.toToken (s.cursor.rest.length + 1)).dropLapsed
  let s := s.unwind s.cursor.column
  let c := s.cursor
  let a := c.here
  let marks := s.flow != 0 || endsWord (c.ahead 1)
  if a = textEnd then s.finish
  else if a = '%' && c.column = 0 then s.takeDirective
  else if c.column = 0 && c.isMarker '-' then s.takeBoundary .documentStart
  else if c.column = 0 && c.isMarker '.' then s.takeBoundary .documentEnd
  else if a = '[' then s.takeFlowStart .flowSequenceStart
  else if a = '\x7b' then s.takeFlowStart .flowMappingStart
  else if a = ']' then s.takeFlowEnd .flowSequenceEnd
  else if a = '\x7d' then s.takeFlowEnd .flowMappingEnd
  else if a = ',' then s.takeComma
  else if a = '-' && endsWord (c.ahead 1) then s.takeEntry
  else if a = '?' && marks then s.takeKey
  else if a = ':' && marks then s.takeValue
  else if a = '*' then s.takeNode fun c => (anchorName c).map fun p => (.alias p.1, p.2)
  else if a = '&' then s.takeNode fun c => (anchorName c).map fun p => (.anchor p.1, p.2)
  else if a = '!' then s.takeNode tagHere
  else if (a = '|' || a = '>') && s.flow = 0 then s.takeBlock
  else if a = '\x27' || a = '"' then
    s.takeNode fun c => (quotedScalar c).map fun p => (.scalar false p.1, p.2)
  else if s.beginsPlain then s.takePlain
  else .error .malformed

/-- The state at the end of the document. -/
def run : Nat → Scan → Except Fault Scan
  | 0, _ => .error .malformed
  | fuel + 1, s => if s.done then .ok s else (step s).bind (run fuel)

/-- The tokens in order, with the places filled or left out. -/
def list (s : Scan) : List Token :=
  s.tokens.reverse.flatMap fun t => match t with
    | .inl token => [token]
    | .inr number => ((s.filled.find? (·.1 == number)).map (·.2)).getD []

end Scan

/-- Whether a document may contain a character. -/
def isAllowed (c : Char) : Bool :=
  let n := c.toNat
  n == 9 || n == 10 || n == 13 || (0x20 ≤ n && n ≤ 0x7e) || n == 0x85 || (0xa0 ≤ n && n ≤ 0xd7ff) ||
    (0xe000 ≤ n && n ≤ 0xfffd) || 0x10000 ≤ n

/-- The tokens of a text. -/
def tokensOf (cs : List Char) : Except Fault (List Token) :=
  if cs.all isAllowed then
    (Scan.run (cs.length + 2) { cursor := .start cs }).map Scan.list
  else .error .malformed

end Placard.Yaml
