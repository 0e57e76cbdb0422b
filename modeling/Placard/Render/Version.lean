import Placard.Number.Reading
import Placard.Render.Pass
import Placard.Text.Quoted

/-!
# Versions of the schema

A version is whole numbers with points between them; the first two count, and the second may be
missing. Cards for a later version than the supported one are rendered with a warning.
-/

namespace Placard.Render

open Placard.Text Placard.Number

/-- A version. -/
structure Version where
  major : Int
  minor : Int
deriving DecidableEq

/-- A part of a version that is no whole number. -/
structure VersionFault where
  part : List Char
deriving DecidableEq

/-- The wording. -/
def VersionFault.message (f : VersionFault) : String :=
  "invalid literal for int() with base 10: " ++ String.ofList ((quote f.part).take 200)

namespace Version

/-- A part of a version. -/
def readPart (part : List Char) : Except VersionFault Int :=
  match looseInt? part with
  | some i => .ok i
  | none => .error ⟨part⟩

/-- The version that a text gives. -/
def read (s : String) : Except VersionFault Version := do
  let parts ← (cutAt '.' (trim s.toList)).mapM readPart
  return { major := parts.headD 0, minor := (parts.drop 1).headD 0 }

/-- Whether a version is later than another. -/
def isLater (v w : Version) : Bool :=
  decide (w.major < v.major) || (v.major == w.major && decide (w.minor < v.minor))

/-- The version up to which cards are rendered in full. -/
def supported : Version :=
  ⟨1, 0⟩

end Version

/-- What is to be said of the version of a card. -/
def versionWarning? (version : Option String) : Option Warning :=
  match version.filter (!·.isEmpty) with
  | none => some .noVersion
  | some s =>
    match Version.read s with
    | .error _ => some (.unreadableVersion s)
    | .ok v => if v.isLater .supported then some (.newerVersion s) else none

end Placard.Render
