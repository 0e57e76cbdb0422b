import Placard.File.Path
import Placard.Text.Utf8

/-!
# Contents of files

A file holds octets. As a text it has one kind of line end: a carriage return, alone or before a
line feed, is read as a line feed.
-/

namespace Placard.File

open Placard.Text

/-- The files that can be read, by their paths. -/
abbrev Files :=
  Path → Option (List Nat)

/-- A text with line feeds for all line ends. -/
def withLineFeeds : List Char → List Char
  | [] => []
  | '\r' :: '\n' :: cs => '\n' :: withLineFeeds cs
  | c :: cs => (if c = '\r' then '\n' else c) :: withLineFeeds cs

/-- The text that the octets of a file write. -/
def readText (octets : List Nat) : Except OctetFault (List Char) :=
  (decode octets).map withLineFeeds

end Placard.File
