import Placard.Markdown.Line
import Placard.Markdown.Piece

/-!
# Tables

A table is a row of titles, a row of lines that may say how the columns are aligned, and rows of
cells. Bars divide the cells of a row, except behind a backslash and inside code.
-/

namespace Placard.Markdown

open Placard.Text

/-! ## Rows -/

/-- Something in a row that matters for its division, with the places of its first and its last
character. -/
inductive RowMark where
  | bar (place : Nat)
  | ticks (first last : Nat) (count : Nat) (escaped : Bool)

/-- The marks of a row from a place on. -/
def rowMarks : Nat → Nat → List Char → List RowMark
  | 0, _, _ => []
  | fuel + 1, place, cs =>
    match cs with
    | [] => []
    | '\\' :: '\\' :: rest => rowMarks fuel (place + 2) rest
    | '\\' :: '\x60' :: rest =>
      let n := (rest.takeWhile (· == '\x60')).length + 1
      .ticks place (place + n) n true :: rowMarks fuel (place + n + 1) (rest.drop (n - 1))
    | '\x60' :: rest =>
      let n := (rest.takeWhile (· == '\x60')).length + 1
      .ticks place (place + n - 1) n false :: rowMarks fuel (place + n) (rest.drop (n - 1))
    | '\\' :: '|' :: rest => rowMarks fuel (place + 2) rest
    | '|' :: rest => .bar place :: rowMarks fuel (place + 1) rest
    | _ :: rest => rowMarks fuel (place + 1) rest

/-- The marks behind the first run of so many ticks, and the place where that run ends. -/
def closingTicks? (size : Nat) : List RowMark → Option (Nat × List RowMark)
  | [] => none
  | .ticks _ last count _ :: rest =>
    if count = size then some (last, rest) else closingTicks? size rest
  | .bar _ :: rest => closingTicks? size rest

/-- The stretches of code in a row. The first tick of an escaped run does not open one. -/
def codeStretches : Nat → List RowMark → List (Nat × Nat)
  | 0, _ => []
  | _, [] => []
  | fuel + 1, .bar _ :: rest => codeStretches fuel rest
  | fuel + 1, .ticks first _ count escaped :: rest =>
    let size := if escaped then count - 1 else count
    if size = 0 then codeStretches fuel rest
    else
      match closingTicks? size rest with
      | some (last, after) => (first, last) :: codeStretches fuel after
      | none => codeStretches fuel rest

/-- The places of the bars that divide a row. -/
def dividers (row : List Char) : List Nat :=
  let marks := rowMarks (row.length + 1) 0 row
  let stretches := codeStretches (marks.length + 1) marks
  marks.filterMap fun
    | .bar place => if stretches.any fun s => s.1 ≤ place && place ≤ s.2 then none else some place
    | .ticks _ _ _ _ => none

/-- The parts of a row between places, from a place on. -/
def partsAt (row : List Char) (start : Nat) : List Nat → List (List Char)
  | [] => [row.drop start]
  | place :: places => (row.drop start).take (place - start) :: partsAt row (place + 1) places

/-- Whether a row ends with a bar that stands behind an even number of backslashes. -/
def endsWithBar (row : List Char) : Bool :=
  match row.reverse with
  | '|' :: before => (before.takeWhile (· == '\\')).length % 2 == 0
  | _ => false

/-- The row without the bar at its end and the backslashes in front of that bar. -/
def withoutEndBar (row : List Char) : List Char :=
  if endsWithBar row then (row.reverse.drop 1 |>.dropWhile (· == '\\')).reverse else row

/-- The cells of a row. In a bordered table the bars at the ends divide nothing. -/
def rowCells (bordered : Bool) (row : List Char) : List (List Char) :=
  let row :=
    if bordered then
      withoutEndBar (match row with
        | '|' :: rest => rest
        | _ => row)
    else row
  partsAt row 0 (dividers row)

/-! ## The form of a table -/

/-- The row without the spaces at its ends. -/
def trimRow (row : List Char) : List Char :=
  trimBy (· == ' ') row

/-- Whether a row has a bar at one of its ends. -/
def hasBorder (row : List Char) : Bool :=
  startsWith ['|'] row || endsWithBar row

/-- Whether the lines begin as a table: whether it is bordered, and the cells of its second row. -/
def tableForm? (lines : List (List Char)) : Option (Bool × List (List Char)) :=
  match lines.map trimRow with
  | titles :: second :: rest =>
    let bordered := hasBorder titles
    let n := (rowCells bordered titles).length
    if 1 < n || (bordered && (second :: rest).all hasBorder) then
      let cells := rowCells bordered second
      let drawn := fun c : Char => c == '|' || c == ':' || c == '-' || c == ' '
      if cells.length = n && cells.all (·.all drawn) then some (bordered, cells) else none
    else none
  | _ => none

/-- The alignment that a cell of the second row draws. -/
def alignment? (cell : List Char) : Option String :=
  let cell := trimRow cell
  match cell.head? == some ':', cell.getLast? == some ':' with
  | true, true => some "center"
  | true, false => some "left"
  | false, true => some "right"
  | false, false => none

/-- A row of cells, as many as there are alignments. -/
def rowElement (kind : Kind) : List (Option String) → List (List Char) → List Piece
  | [], _ => []
  | a :: as, cells =>
    let style := a.elim [] fun a => [("style", ("text-align: " ++ a ++ ";").toList)]
    .element kind style (Piece.ofChars (trimRow (cells.headD []))) ::
      rowElement kind as (cells.drop 1)

/-- The table that the lines of a block are. -/
def table? (lines : List (List Char)) : Option Piece :=
  (tableForm? lines).map fun (bordered, second) =>
    let alignments := second.map alignment?
    let row := fun kind line =>
      Piece.plain .tableRow (rowElement kind alignments (rowCells bordered (trimRow line)))
    let body :=
      match lines.drop 2 with
      | [] => [.plain .tableRow (second.map fun _ => .plain .bodyCell [])]
      | rows => rows.map (row .bodyCell)
    .plain .table
      [.plain .tableHead [row .headCell (lines.headD [])], .plain .tableBody body]

end Placard.Markdown
