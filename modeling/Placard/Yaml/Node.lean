import Placard.Yaml.Token

/-!
# Documents as trees of nodes

A node is a scalar, a sequence or a mapping, and has a label that says what it stands for. A tag
gives the label; without one, plain scalars are labelled by their text, other scalars are texts,
sequences are lists and mappings are mappings. An alias stands for the node that its anchor was
put on.
-/

namespace Placard.Yaml

open Placard.Text

/-- What a node stands for. -/
inductive Label where
  | null
  | bool
  | int
  | float
  | binary
  | timestamp
  | text
  | list
  | map
  | set
  | orderedMap
  | pairs
  /-- the key whose value is merged into a mapping -/
  | merge
  /-- the key whose value stands for a mapping where a scalar is wanted -/
  | value
  /-- nothing that is known -/
  | other (tag : List Char)
deriving DecidableEq

/-- The beginning of the tags that are known. -/
def standardTag : List Char :=
  "tag:yaml.org,2002:".toList

/-- The labels that tags give. -/
def standardLabels : List (String × Label) :=
  [("null", .null), ("bool", .bool), ("int", .int), ("float", .float), ("binary", .binary),
    ("timestamp", .timestamp), ("str", .text), ("seq", .list), ("map", .map), ("set", .set),
    ("omap", .orderedMap), ("pairs", .pairs), ("merge", .merge), ("value", .value)]

/-- The label that a tag gives. -/
def Label.ofTag (tag : List Char) : Label :=
  match (afterStart? standardTag tag).bind fun name =>
      standardLabels.find? fun l => l.1.toList == name with
  | some l => l.2
  | none => .other tag

/-- A part of a document. -/
inductive Node where
  | scalar (label : Label) (text : List Char)
  | sequence (label : Label) (items : List Node)
  | mapping (label : Label) (entries : List (Node × Node))

instance : Inhabited Node := ⟨.scalar .null []⟩

/-! ## The labels of plain scalars -/

/-- The words for switches. -/
def switchWords : List (String × Bool) :=
  [("yes", true), ("no", false), ("true", true), ("false", false), ("on", true), ("off", false)]

/-- Whether a text is a word in small letters, in capitals, or with a capital in front. -/
def isWordForm (word : String) (text : List Char) : Bool :=
  let small := word.toList
  let capitals := small.flatMap capital
  text == small || text == capitals || text == capitals.take 1 ++ small.drop 1

/-- Whether a character is a decimal digit or a low line. -/
def isSpacedDigit (c : Char) : Bool :=
  isAsciiDigit c || c == '_'

/-- Whether a text is a number below sixty in one or two digits. -/
def isSixtieth : List Char → Bool
  | [a] => isAsciiDigit a
  | [a, b] => '0' ≤ a && a ≤ '5' && isAsciiDigit b
  | _ => false

/-- The text without a sign in front. -/
def unsigned : List Char → List Char
  | '+' :: rest => rest
  | '-' :: rest => rest
  | cs => cs

/-- Whether a text is digits in front and then all of a class, not empty. -/
def isDigits (first rest : Char → Bool) : List Char → Bool
  | [] => false
  | c :: cs => first c && cs.all rest

/-- Whether plain text is a whole number: in base 2, 8, 10, 16 or 60. -/
def isWhole (text : List Char) : Bool :=
  let spaced (p : Char → Bool) (c : Char) : Bool := p c || c == '_'
  let decimal := isDigits (fun c => isAsciiDigit c && c != '0') isSpacedDigit
  let body := unsigned text
  match body with
  | ['0'] => true
  | '0' :: 'b' :: ds => !ds.isEmpty && ds.all (spaced fun c => c == '0' || c == '1')
  | '0' :: 'x' :: ds => !ds.isEmpty && ds.all (spaced isHexDigit)
  | '0' :: ds => !ds.isEmpty && ds.all (spaced fun c => '0' ≤ c && c ≤ '7')
  | _ =>
    match cutAt ':' body with
    | [] => false
    | first :: more => decimal first && more.all isSixtieth

/-- Whether a text is an exponent, or nothing. -/
def isExponent : List Char → Bool
  | [] => true
  | e :: sign :: ds =>
    (e == 'e' || e == 'E') && (sign == '+' || sign == '-') && !ds.isEmpty && ds.all isAsciiDigit
  | _ => false

/-- Whether plain text is a number with a fraction, or the name of an infinity or of no number. -/
def isFraction (text : List Char) : Bool :=
  let body := unsigned text
  let named (words : List String) (cs : List Char) : Bool := words.any (·.toList == cs)
  let whole := body.takeWhile (· != '.')
  let behind := (body.dropWhile (· != '.')).drop 1
  let tail := behind.dropWhile isSpacedDigit
  let isNumber := isDigits isAsciiDigit isSpacedDigit
  body.contains '.' &&
    ((isNumber whole && isExponent tail) ||
      (text.head? == some '.' && isDigits isAsciiDigit isSpacedDigit
        (behind.takeWhile isSpacedDigit) && isExponent tail) ||
      (match cutAt ':' whole with
        | first :: more => !more.isEmpty && isNumber first && more.all isSixtieth && tail.isEmpty
        | [] => false) ||
      named [".inf", ".Inf", ".INF"] body || named [".nan", ".NaN", ".NAN"] text)

/-- The parts of a date, with a time of day if there is one. -/
structure Stamp where
  year : Nat
  month : Nat
  day : Nat
  /-- hour, minute, second, and the digits of the fraction -/
  time : Option (Nat × Nat × Nat × List Nat)
  /-- the offset: whether it is negative, hours and minutes -/
  offset : Option (Bool × Nat × Nat)

/-- One or two digits, between the given bounds, and the rest. -/
def fewDigits? (least greatest : Nat) (cs : List Char) : Option (Nat × List Char) :=
  let ds := (cs.take greatest).takeWhile isAsciiDigit
  if ds.length < least then none
  else some (ofDigits 10 (ds.filterMap asciiDigit?), cs.drop ds.length)

/-- A character of the text, and the rest behind it. -/
def afterChar? (c : Char) : List Char → Option (List Char)
  | a :: rest => if a = c then some rest else none
  | [] => none

/-- The offset at the end of a moment, behind blanks. -/
def stampOffset? (cs : List Char) : Option (Option (Bool × Nat × Nat)) :=
  if cs.isEmpty then some none
  else
    match cs.dropWhile fun c => c == ' ' || c == '\t' with
    | [] => none
    | ['Z'] => some (some (false, 0, 0))
    | sign :: rest => do
      guard (sign == '+' || sign == '-')
      let (hours, rest) ← fewDigits? 1 2 rest
      if rest.isEmpty then return some (sign == '-', hours, 0)
      let (minutes, rest) ← fewDigits? 2 2 (← afterChar? ':' rest)
      guard rest.isEmpty
      return some (sign == '-', hours, minutes)

/-- The date and the time of day that a text gives. -/
def stamp? (text : List Char) : Option Stamp := do
  let (year, rest) ← fewDigits? 4 4 text
  let (month, rest) ← fewDigits? 1 2 (← afterChar? '-' rest)
  let (day, rest) ← fewDigits? 1 2 (← afterChar? '-' rest)
  match rest with
  | [] => return { year, month, day, time := none, offset := none }
  | c :: more =>
    let isGap (c : Char) : Bool := c == ' ' || c == '\t'
    guard (c == 'T' || c == 't' || isGap c)
    let rest := if isGap c then more.dropWhile isGap else more
    let (hour, rest) ← fewDigits? 1 2 rest
    let (minute, rest) ← fewDigits? 2 2 (← afterChar? ':' rest)
    let (second, rest) ← fewDigits? 2 2 (← afterChar? ':' rest)
    let (fraction, rest) := match rest with
      | '.' :: more =>
        ((more.takeWhile isAsciiDigit).filterMap asciiDigit?, more.dropWhile isAsciiDigit)
      | _ => ([], rest)
    let offset ← stampOffset? rest
    return { year, month, day, time := some (hour, minute, second, fraction), offset }

/-- Whether plain text is a date or a moment. A date alone has all its digits. -/
def isStamp (text : List Char) : Bool :=
  match stamp? text with
  | some s => s.time.isSome || text.length == 10
  | none => false

/-- The label of a plain scalar. -/
def Label.ofPlain (text : List Char) : Label :=
  if switchWords.any fun w => isWordForm w.1 text then .bool
  else if isFraction text then .float
  else if isWhole text then .int
  else if text = ['<', '<'] then .merge
  else if text.isEmpty || text = ['~'] || isWordForm "null" text then .null
  else if isStamp text then .timestamp
  else if text = ['='] then .value
  else .text

/-! ## From tokens to nodes -/

/-- The label of a node without a tag of its own: a lone exclamation mark counts as none. -/
def labelOr (default : Label) : Option (List Char) → Label
  | none => default
  | some tag => if tag = ['!'] then default else .ofTag tag

/-- The label of a scalar with a tag, written plainly or not. A lone exclamation mark makes it
plain. -/
def scalarLabel (plain : Bool) (text : List Char) : Option (List Char) → Label
  | none => if plain then .ofPlain text else .text
  | some tag => if tag = ['!'] then .ofPlain text else .ofTag tag

/-- The nodes that anchors were put on. One that is not complete yet has none. -/
abbrev Anchors :=
  List (List Char × Option Node)

/-- Short forms for the beginning of tags. -/
abbrev Shorthands :=
  List (List Char × List Char)

/-- The anchor and the tag in front of a node, in either order, and the rest. -/
def properties (shorthands : Shorthands) (ts : List Token) :
    Except Fault (Option (List Char) × Option (List Char) × List Token) :=
  let tagText (handle : Option (List Char)) (rest : List Char) : Except Fault (List Char) :=
    match handle with
    | none => .ok rest
    | some h =>
      match shorthands.find? (·.1 == h) with
      | some s => .ok (s.2 ++ rest)
      | none => .error .malformed
  match ts with
  | .anchor name :: .tag h r :: ts => (tagText h r).map fun t => (some name, some t, ts)
  | .tag h r :: .anchor name :: ts => (tagText h r).map fun t => (some name, some t, ts)
  | .anchor name :: ts => .ok (some name, none, ts)
  | .tag h r :: ts => (tagText h r).map fun t => (none, some t, ts)
  | _ => .ok (none, none, ts)

/-- A node, the rest of the tokens, and the anchors after it. -/
abbrev Parsed (α : Type) :=
  Except Fault (α × List Token × Anchors)

/-- The node of an empty scalar. -/
def nothing : Node :=
  .scalar .null []

/-- Whether the first token is one of the given ones. -/
def starts (these : List Token) : List Token → Bool
  | t :: _ => these.contains t
  | [] => false

/-- The anchors with a new one. -/
def anchored (name : Option (List Char)) (node : Option Node) (anchors : Anchors) : Anchors :=
  match name with
  | some name => (name, node) :: anchors
  | none => anchors

mutual

/-- A node. `block` says whether it may be a block, `bare` whether it may be a sequence that is not
indented. -/
def node (shorthands : Shorthands) (block bare : Bool) :
    Nat → List Token → Anchors → Parsed Node
  | 0, _, _ => .error .malformed
  | fuel + 1, ts, anchors =>
    match ts with
    | .alias name :: ts =>
      match anchors.find? (·.1 == name) with
      | some (_, node) => .ok (node.getD nothing, ts, anchors)
      | none => .error .malformed
    | _ =>
      match properties shorthands ts with
      | .error e => .error e
      | .ok (name, tag, ts) =>
        if name.any fun n => anchors.any (·.1 == n) then .error .malformed
        else
          let opened := anchored name none anchors
          let close {α : Type} (make : α → Node) : Parsed α → Parsed Node
            | .ok (a, ts, anchors) => .ok (make a, ts, anchored name (some (make a)) anchors)
            | .error e => .error e
          let items := close fun items => .sequence (labelOr .list tag) items
          let pairs := close fun pairs => .mapping (labelOr .map tag) pairs
          match ts with
          | .scalar plain text :: ts =>
            let node := Node.scalar (scalarLabel plain text tag) text
            .ok (node, ts, anchored name (some node) anchors)
          | .flowSequenceStart :: ts => items (flowItems shorthands true fuel ts opened)
          | .flowMappingStart :: ts => pairs (flowPairs shorthands true fuel ts opened)
          | .blockSequenceStart :: more =>
            if block then items (blockItems shorthands fuel more opened) else .error .malformed
          | .blockMappingStart :: more =>
            if block then pairs (blockPairs shorthands fuel more opened) else .error .malformed
          | _ =>
            if bare && starts [.entry] ts then items (bareItems shorthands fuel ts opened)
            else if name.isSome || tag.isSome then
              let node := Node.scalar (scalarLabel true [] tag) []
              .ok (node, ts, anchored name (some node) anchors)
            else .error .malformed

/-- A node, or nothing where one of the given tokens follows. -/
def nodeUnless (shorthands : Shorthands) (block bare : Bool) (these : List Token) :
    Nat → List Token → Anchors → Parsed Node
  | 0, _, _ => .error .malformed
  | fuel + 1, ts, anchors =>
    if starts these ts then .ok (nothing, ts, anchors)
    else node shorthands block bare fuel ts anchors

/-- The items of a block sequence, its end included. -/
def blockItems (shorthands : Shorthands) : Nat → List Token → Anchors → Parsed (List Node)
  | 0, _, _ => .error .malformed
  | fuel + 1, ts, anchors =>
    match ts with
    | .entry :: ts =>
      match nodeUnless shorthands true false [.entry, .blockEnd] fuel ts anchors with
      | .error e => .error e
      | .ok (item, ts, anchors) =>
        (blockItems shorthands fuel ts anchors).map fun p => (item :: p.1, p.2)
    | .blockEnd :: ts => .ok ([], ts, anchors)
    | _ => .error .malformed

/-- The items of a sequence that is not indented. -/
def bareItems (shorthands : Shorthands) : Nat → List Token → Anchors → Parsed (List Node)
  | 0, _, _ => .error .malformed
  | fuel + 1, ts, anchors =>
    match ts with
    | .entry :: ts =>
      match nodeUnless shorthands true false [.entry, .key, .value, .blockEnd] fuel ts anchors with
      | .error e => .error e
      | .ok (item, ts, anchors) =>
        (bareItems shorthands fuel ts anchors).map fun p => (item :: p.1, p.2)
    | _ => .ok ([], ts, anchors)

/-- The value behind a key of a block mapping. -/
def blockValue (shorthands : Shorthands) : Nat → List Token → Anchors → Parsed Node
  | 0, _, _ => .error .malformed
  | fuel + 1, ts, anchors =>
    match ts with
    | .value :: ts => nodeUnless shorthands true true [.key, .value, .blockEnd] fuel ts anchors
    | _ => .ok (nothing, ts, anchors)

/-- The entries of a block mapping, its end included. -/
def blockPairs (shorthands : Shorthands) : Nat → List Token → Anchors → Parsed (List (Node × Node))
  | 0, _, _ => .error .malformed
  | fuel + 1, ts, anchors =>
    let withKey (key : Node) (ts : List Token) (anchors : Anchors) :
        Parsed (List (Node × Node)) :=
      match blockValue shorthands fuel ts anchors with
      | .error e => .error e
      | .ok (value, ts, anchors) =>
        (blockPairs shorthands fuel ts anchors).map fun p => ((key, value) :: p.1, p.2)
    match ts with
    | .key :: ts =>
      match nodeUnless shorthands true true [.key, .value, .blockEnd] fuel ts anchors with
      | .error e => .error e
      | .ok (key, ts, anchors) => withKey key ts anchors
    | .blockEnd :: ts => .ok ([], ts, anchors)
    | _ => .error .malformed

/-- The items of a flow sequence, its end included. -/
def flowItems (shorthands : Shorthands) (first : Bool) :
    Nat → List Token → Anchors → Parsed (List Node)
  | 0, _, _ => .error .malformed
  | fuel + 1, ts, anchors =>
    match ts with
    | .flowSequenceEnd :: ts => .ok ([], ts, anchors)
    | _ =>
      match if first then some ts else if starts [.comma] ts then some (ts.drop 1) else none with
      | none => .error .malformed
      | some ts =>
        let andMore : Parsed Node → Parsed (List Node)
          | .error e => .error e
          | .ok (item, ts, anchors) =>
            (flowItems shorthands false fuel ts anchors).map fun p => (item :: p.1, p.2)
        match ts with
        | .flowSequenceEnd :: ts => .ok ([], ts, anchors)
        | .key :: ts => andMore (singlePair shorthands fuel ts anchors)
        | _ => andMore (node shorthands false false fuel ts anchors)

/-- A mapping with one entry that stands without braces in a flow sequence. -/
def singlePair (shorthands : Shorthands) : Nat → List Token → Anchors → Parsed Node
  | 0, _, _ => .error .malformed
  | fuel + 1, ts, anchors =>
    match nodeUnless shorthands false false [.value, .comma, .flowSequenceEnd] fuel ts anchors with
    | .error e => .error e
    | .ok (key, ts, anchors) =>
      let entry (value : Node) : Node := .mapping .map [(key, value)]
      match ts with
      | .value :: ts =>
        (nodeUnless shorthands false false [.comma, .flowSequenceEnd] fuel ts anchors).map
          fun p => (entry p.1, p.2)
      | _ => .ok (entry nothing, ts, anchors)

/-- The entries of a flow mapping, its end included. -/
def flowPairs (shorthands : Shorthands) (first : Bool) :
    Nat → List Token → Anchors → Parsed (List (Node × Node))
  | 0, _, _ => .error .malformed
  | fuel + 1, ts, anchors =>
    match ts with
    | .flowMappingEnd :: ts => .ok ([], ts, anchors)
    | _ =>
      match if first then some ts else if starts [.comma] ts then some (ts.drop 1) else none with
      | none => .error .malformed
      | some ts =>
        let andMore (key : Node) : Parsed Node → Parsed (List (Node × Node))
          | .error e => .error e
          | .ok (value, ts, anchors) =>
            (flowPairs shorthands false fuel ts anchors).map fun p => ((key, value) :: p.1, p.2)
        match ts with
        | .flowMappingEnd :: ts => .ok ([], ts, anchors)
        | .key :: ts =>
          match nodeUnless shorthands false false [.value, .comma, .flowMappingEnd] fuel ts
              anchors with
          | .error e => .error e
          | .ok (key, ts, anchors) =>
            match ts with
            | .value :: ts =>
              andMore key
                (nodeUnless shorthands false false [.comma, .flowMappingEnd] fuel ts anchors)
            | _ => andMore key (.ok (nothing, ts, anchors))
        | _ =>
          match node shorthands false false fuel ts anchors with
          | .error e => .error e
          | .ok (key, ts, anchors) => andMore key (.ok (nothing, ts, anchors))

end

/-- The short forms that every document has. -/
def standardShorthands : Shorthands :=
  [(['!'], ['!']), (['!', '!'], standardTag)]

/-- The short forms that the lines in front of a document add, and the rest. -/
def directives (versioned : Bool) (own : Shorthands) :
    List Token → Except Fault (Shorthands × List Token)
  | .version major _ :: ts =>
    if versioned || major != 1 then .error .malformed else directives true own ts
  | .shorthand handle start :: ts =>
    if own.any (·.1 == handle) then .error .malformed
    else directives versioned ((handle, start) :: own) ts
  | .remark :: ts => directives versioned own ts
  | ts => .ok (own ++ standardShorthands, ts)

/-- Whether nothing but ends of documents follows. -/
def isOver : List Token → Bool
  | .documentEnd :: ts => isOver ts
  | [.streamEnd] => true
  | _ => false

/-- The single document of a list of tokens, if there is one. -/
def documentOf (ts : List Token) : Except Fault (Option Node) :=
  let fuel := 4 * ts.length + 8
  let close (parsed : Parsed Node) : Except Fault (Option Node) :=
    match parsed with
    | .error e => .error e
    | .ok (node, ts, _) => if isOver ts then .ok (some node) else .error .malformed
  let begins := match ts with
    | .version .. :: _ => true
    | .shorthand .. :: _ => true
    | .remark :: _ => true
    | .documentStart :: _ => true
    | _ => false
  match ts with
  | [.streamEnd] => .ok none
  | _ =>
    if begins then
      match directives false [] ts with
      | .error e => .error e
      | .ok (shorthands, .documentStart :: ts) =>
        let isEmpty := match ts with
          | .version .. :: _ => true
          | .shorthand .. :: _ => true
          | .remark :: _ => true
          | .documentStart :: _ => true
          | .documentEnd :: _ => true
          | .streamEnd :: _ => true
          | _ => false
        close (if isEmpty then .ok (nothing, ts, []) else node shorthands true false fuel ts [])
      | .ok _ => .error .malformed
    else close (node standardShorthands true false fuel ts [])

end Placard.Yaml
