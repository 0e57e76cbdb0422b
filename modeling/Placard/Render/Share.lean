import Placard.Document.Basic
import Placard.Number.Reading
import Placard.Render.Fault

/-!
# The widths of columns

A column takes the space of its content, or the space that is left, or a share of the row. Shares
are proportional to the weights of the columns, that is, to the numbers that are their widths. The
total is at least one, so that weights below one are shares by themselves.
-/

namespace Placard.Render

open Placard.Text Placard.Number Placard.Document

/-- A finite number that a text gives. -/
def finite? (s : String) : Option Double :=
  (looseDouble? s.toList).filter (·.isFinite)

/-- The weight of a column: its width as a number, or else its size as a number, or else zero. -/
def weight (c : Column) : Double :=
  ((c.width.bind finite?).or (finite? (c.size.getD "0"))).getD (.ofInt 0)

/-- The sum of all weights, from the left. -/
def weightSum (columns : List Column) : Double :=
  columns.foldl (fun total c => total.add (weight c)) (.ofInt 0)

/-- The total that weights are shares of. -/
def totalWeight (columns : List Column) : Double :=
  let total := weightSum columns
  if Double.lt (.ofInt 1) total then total else .ofInt 1

/-- The share of a weight in a total, in percent to the nearest whole number. -/
def share (weight total : Double) : Except Fault Int :=
  match weight.div? total with
  | none => .error .noTotal
  | some ratio =>
    match (Double.ofInt 100).mul ratio with
    | .nan => .error .undefinedShare
    | .infinite _ => .error .infiniteShare
    | x => .ok (x.round?.getD 0)

/-- What gives the width of a column, in small letters: its width, or its size if that is empty. -/
def widthName (c : Column) : String :=
  let width := lowered (c.width.getD "")
  if width.isEmpty then lowered (c.size.getD "") else width

/-- How the width of a column behaves in a row with a total of weights. -/
def flex (total : Double) (c : Column) : Except Fault String :=
  let name := widthName c
  if name.isEmpty || name == "stretch" then .ok "1 1 auto"
  else if name == "auto" then .ok "0 1 auto"
  else
    match finite? name with
    | some x =>
      (share x total).map fun percent =>
        String.ofList ("1 1 ".toList ++ intText percent ++ ['%'])
    | none => .ok "0 0 auto"

end Placard.Render
