import Placard.Url.Host

/-!
# Addresses

An address has a scheme, possibly a host with a user and a port, a path, and possibly a query and a
fragment. Reading brings it to a normal form:

* blanks and controls around it, and tabs and line ends anywhere, are dropped;
* scheme and domain are in small letters, the usual port of the scheme is left out;
* characters that a part does not admit are percent-encoded;
* steps of a path that stand for the same or the upper folder are resolved.

The schemes of the web have rules of their own: a back slash counts as a slash, any number of
slashes may come before the host, which has to be there, and the path is never empty.
-/

namespace Placard.Url

open Placard.Text

/-- The family of a scheme. -/
inductive Family where
  | web
  | file
  | other
deriving DecidableEq

/-- The schemes of the web and their usual ports. -/
def webPorts : List (String × Nat) :=
  [("http", 80), ("https", 443), ("ws", 80), ("wss", 443), ("ftp", 21)]

/-- The usual port of a scheme. -/
def usualPort? (scheme : List Char) : Option Nat :=
  (webPorts.find? fun p => p.1.toList == scheme).map (·.2)

/-- The family that a scheme belongs to. -/
def Family.of (scheme : List Char) : Family :=
  if (usualPort? scheme).isSome then .web else if scheme == "file".toList then .file else .other

/-- Whether back slashes count as slashes. -/
def Family.foldsSlashes : Family → Bool
  | .other => false
  | _ => true

/-- Where an address leads. -/
structure Authority where
  user : List Char
  password : List Char
  host : Host
  port : Option Nat
deriving DecidableEq

/-- The path of an address. -/
inductive Path where
  /-- a text without structure -/
  | plain (text : List Char)
  /-- steps, each behind a slash -/
  | steps (list : List (List Char))
deriving DecidableEq

/-- An address in its parts. -/
structure Address where
  scheme : List Char
  authority : Option Authority
  path : Path
  query : Option (List Char)
  fragment : Option (List Char)
deriving DecidableEq

/-! ## Writing -/

/-- The user, the host and the port behind two slashes. -/
def Authority.text (a : Authority) : List Char :=
  let password := if a.password.isEmpty then [] else ':' :: a.password
  let user := if a.user.isEmpty && a.password.isEmpty then [] else a.user ++ password ++ ['@']
  ['/', '/'] ++ user ++ a.host.text ++ (a.port.elim [] fun p => ':' :: natText p)

/-- A path. Without a host its first two steps must not look like one. -/
def Path.text (hosted : Bool) : Path → List Char
  | .plain cs => cs
  | .steps list =>
    let guard := if !hosted && list.head? == some [] && 1 < list.length then ['/', '.'] else []
    guard ++ list.flatMap ('/' :: ·)

/-- The text of an address. -/
def Address.chars (a : Address) : List Char :=
  a.scheme ++ ':' :: (a.authority.elim [] Authority.text) ++ a.path.text a.authority.isSome ++
    (a.query.elim [] ('?' :: ·)) ++ (a.fragment.elim [] ('#' :: ·))

/-- The text of an address. -/
def Address.text (a : Address) : String :=
  String.ofList a.chars

/-! ## Reading -/

/-- The scheme in small letters, and what follows its colon. -/
def spanScheme? (cs : List Char) : Option (List Char × List Char) :=
  let isPart := fun c : Char =>
    isAsciiLetter c || isAsciiDigit c || c == '+' || c == '-' || c == '.'
  match cs.head?, cs.dropWhile isPart with
  | some c, ':' :: rest =>
    if isAsciiLetter c then some ((cs.takeWhile isPart).map asciiLower, rest) else none
  | _, _ => none

/-- Whether a character counts as a slash. -/
def Family.isSlash (f : Family) (c : Char) : Bool :=
  c == '/' || (f.foldsSlashes && c == '\\')

/-- Whether a character ends the part with the host. -/
def Family.endsHost (f : Family) (c : Char) : Bool :=
  f.isSlash c || c == '?' || c == '#'

/-- The texts before and behind the last at sign. -/
def aroundLastAt? (cs : List Char) : Option (List Char × List Char) :=
  if cs.contains '@' then
    let behind := (cs.reverse.takeWhile (· != '@')).reverse
    some (cs.take (cs.length - behind.length - 1), behind)
  else none

/-- The part of a text before the first colon outside brackets, and the rest. -/
def spanHost : Bool → List Char → List Char × List Char
  | _, [] => ([], [])
  | inside, c :: rest =>
    if c = ':' && !inside then ([], c :: rest)
    else
      let inside := if c = '[' then true else if c = ']' then false else inside
      let (host, more) := spanHost inside rest
      (c :: host, more)

/-- The port behind a colon; the usual one of the scheme and an empty one do not show. Digits may
end at a back slash, which is returned with the rest. -/
def port? (scheme rest : List Char) : Except Fault (Option Nat × List Char) :=
  match rest with
  | ':' :: more =>
    let digits := more.takeWhile isAsciiDigit
    let behind := more.dropWhile isAsciiDigit
    let value := ofDigits 10 (digits.filterMap asciiDigit?)
    if 65535 < value || !(behind.head?.all (· == '\\')) then .error .port
    else
      .ok (if digits.isEmpty || usualPort? scheme = some value then none else some value, behind)
  | _ => .ok (none, rest)

/-- The user, the host and the port, and what is left of the text. -/
def readAuthority (scheme : List Char) (family : Family) (cs : List Char) :
    Except Fault (Authority × List Char) := do
  let (user, password, rest) := match aroundLastAt? cs with
    | none => ([], [], cs)
    | some (credentials, rest) =>
      (encodeBy admitsInUser (credentials.takeWhile (· != ':')),
        encodeBy admitsInUser ((credentials.dropWhile (· != ':')).drop 1), rest)
  if rest.isEmpty && cs.contains '@' then .error .emptyHost
  let (hostText, rest) := spanHost false rest
  if hostText.isEmpty && family = .web then .error .emptyHost
  let host ← if family = .other then Host.ofOther hostText else Host.ofWeb hostText
  if hostText.isEmpty && (!rest.isEmpty || !user.isEmpty || !password.isEmpty) then
    .error .emptyHost
  let (port, rest) ← port? scheme rest
  return ({ user, password, host, port }, rest)

/-- The steps of a path as written, cut at slashes. -/
def cutSteps (isSlash : Char → Bool) : List Char → List (List Char)
  | [] => [[]]
  | c :: cs =>
    if isSlash c then [] :: cutSteps isSlash cs
    else
      match cutSteps isSlash cs with
      | [] => [[c]]
      | step :: steps => (c :: step) :: steps

/-- A step with every encoded point written out, in small letters. -/
def plainPoints : List Char → List Char
  | '%' :: '2' :: 'e' :: rest => '.' :: plainPoints rest
  | '%' :: '2' :: 'E' :: rest => '.' :: plainPoints rest
  | c :: rest => c :: plainPoints rest
  | [] => []

/-- The letter of the drive that a step names. -/
def drive? : List Char → Option Char
  | [c, d] => if isAsciiLetter c && (d == ':' || d == '|') then some c else none
  | _ => none

/-- Whether a step names a drive. -/
def isDrive (step : List Char) : Bool :=
  (drive? step).isSome

/-- The path, innermost step first, without its last step; a drive stays. -/
def upper (family : Family) : List (List Char) → List (List Char)
  | [step] => if family = .file && isDrive step then [step] else []
  | path => path.drop 1

/-- The steps of a path with the relative ones resolved, given those before them, innermost first.
-/
def resolve (family : Family) (before : List (List Char)) : List (List Char) → List (List Char)
  | [] => before.reverse
  | step :: rest =>
    let encoded := encodeBy admitsInPath step
    let closed (path : List (List Char)) := if rest.isEmpty then [] :: path else path
    if plainPoints encoded = ['.', '.'] then resolve family (closed (upper family before)) rest
    else if plainPoints encoded = ['.'] then resolve family (closed before) rest
    else if family = .file && before.isEmpty then
      match drive? encoded with
      | some letter => resolve family [[letter, ':']] rest
      | none =>
        if encoded.isEmpty && !rest.isEmpty then resolve family [] rest
        else resolve family [encoded] rest
    else resolve family (encoded :: before) rest

/-- The path of a text whose first slash is already read. -/
def readSteps (family : Family) (cs : List Char) : Path :=
  .steps (resolve family [] (cutSteps family.isSlash cs))

/-- The rest of a text behind its first slash, if it begins with one. -/
def afterSlash (family : Family) (cs : List Char) : List Char :=
  match cs with
  | c :: rest => if family.isSlash c then rest else cs
  | [] => []

/-- The authority and the path of an address of the web. -/
def readWeb (scheme cs : List Char) : Except Fault (Option Authority × Path) := do
  let behind := cs.dropWhile Family.web.isSlash
  let front := behind.takeWhile (!Family.web.isSlash ·)
  let (authority, rest) ← readAuthority scheme .web front
  return (some authority, readSteps .web (rest ++ afterSlash .web (behind.drop front.length)))

/-- The authority and the path of an address of a file. A drive takes the place of the host, and the
own machine is not named. -/
def readFile (cs : List Char) : Except Fault (Option Authority × Path) := do
  let family := Family.file
  let nobody : Authority := { user := [], password := [], host := .other [], port := none }
  match cs with
  | a :: b :: rest =>
    if family.isSlash a && family.isSlash b then
      let hostText := rest.takeWhile (!family.isSlash ·)
      if hostText.isEmpty || isDrive hostText then return (some nobody, readSteps family rest)
      let host ← Host.ofWeb hostText
      let path := readSteps family (afterSlash family (rest.drop hostText.length))
      let drives := match path with
        | .steps (step :: _) => isDrive step
        | _ => false
      let nobodys := host = .domain "localhost".toList || drives
      return (some { nobody with host := if nobodys then .other [] else host }, path)
    else return (some nobody, readSteps family (afterSlash family cs))
  | _ => return (some nobody, readSteps family (afterSlash family cs))

/-- The authority and the path of an address of another scheme. -/
def readOther (scheme cs : List Char) : Except Fault (Option Authority × Path) := do
  match cs with
  | '/' :: '/' :: behind =>
    let front := behind.takeWhile (· != '/')
    let (authority, rest) ← readAuthority scheme .other front
    let pathText := rest ++ behind.drop front.length
    if pathText.isEmpty then return (some authority, .steps [])
    return (some authority, readSteps .other (afterSlash .other pathText))
  | '/' :: rest => return (none, readSteps .other rest)
  | _ => return (none, .plain (encodeBy admitsPlain cs))

/-- The text without the tabs and line ends in it, and without blanks and controls around it. -/
def withoutNoise (cs : List Char) : List Char :=
  (trimBy (·.toNat ≤ 0x20) cs).filter fun c => c != '\t' && c != '\n' && c != '\r'

/-- The address that a text writes. -/
def Address.read (s : String) : Except Fault Address := do
  if s.isEmpty then .error .emptyInput
  match spanScheme? (withoutNoise s.toList) with
  | none => .error .relative
  | some (scheme, cs) =>
    let family := Family.of scheme
    let front := cs.takeWhile fun c => c != '?' && c != '#'
    let back := cs.drop front.length
    let (query, back) := match back with
      | '?' :: rest =>
        (some (encodeBy (admitsInQuery family.foldsSlashes) (rest.takeWhile (· != '#'))),
          rest.dropWhile (· != '#'))
      | _ => (none, back)
    let fragment := match back with
      | '#' :: rest => some (encodeBy admitsInFragment rest)
      | _ => none
    let (authority, path) ← match family with
      | .web => readWeb scheme front
      | .file => readFile front
      | .other => readOther scheme front
    return { scheme, authority, path, query, fragment }

end Placard.Url
