import FilterQuery.Table.Schema

/-!
The answer to a query, and its printed form: a box with one line for the names of the columns and one
for each row.
-/

namespace FilterQuery

structure ResultSet where
  columns : List Text := []
  rows : List Row := []

namespace ResultSet

def columnIndex? (r : ResultSet) (column : Text) : Option Nat := r.columns.findIdx? (· = column)

def get? (r : ResultSet) (row : Nat) (column : Text) : Option Value := do
  let index ← r.columnIndex? column
  (← r.rows[row]?)[index]?

def column (r : ResultSet) (column : Text) : List Value :=
  match r.columnIndex? column with
  | some index => r.rows.filterMap (·[index]?)
  | none => []

/-- The widths that the values of a row need at least. Values beyond the last column do not count. -/
def widen : List Nat → Row → List Nat
  | width :: widths, value :: row => max width value.display.length :: widen widths row
  | widths, _ => widths

def widths (r : ResultSet) : List Nat :=
  r.rows.foldl widen (r.columns.map List.length)

def border (widths : List Nat) (left middle right : Char) : Text :=
  let strokes := widths.map fun width => List.replicate (width + 2) '─'
  left :: Text.join [middle] strokes ++ [right, '\n']

def maxWidth : Nat := 65535

def pad? (width : Nat) (t : Text) : Option Text :=
  if width ≤ maxWidth then some (t ++ List.replicate (width - t.length) ' ') else none

/-- A line of cells. A line with fewer cells than columns ends early. -/
def cells? (widths : List Nat) (texts : List Text) : Option Text := do
  let cells ← (texts.zip widths).mapM fun cell => do
    return ' ' :: (← pad? cell.2 cell.1) ++ [' ', '│']
  return '│' :: cells.flatten ++ ['\n']

/-- The printed form. There is none if a column is too wide to be filled up: printing breaks off. -/
def format? (r : ResultSet) : Option Text :=
  if r.rows.isEmpty then some "No rows found".toList
  else do
    let widths := r.widths
    let header ← cells? widths r.columns
    let lines ← r.rows.mapM fun row => cells? widths (row.map Value.display)
    return border widths '┌' '┬' '┐' ++ header ++ border widths '├' '┼' '┤' ++ lines.flatten ++
      border widths '└' '┴' '┘' ++
      '\n' :: Text.ofNat r.rows.length ++ " row(s) returned".toList

end ResultSet

end FilterQuery
