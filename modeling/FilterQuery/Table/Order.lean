import FilterQuery.Table.Schema

/-!
Sorting rows by several columns. Nulls come first, and values without an order between them count as
equal.
-/

namespace FilterQuery

inductive Direction where
  | ascending | descending
deriving DecidableEq, Repr

structure SortKey where
  column : Text
  direction : Direction
deriving DecidableEq, Repr

def Direction.sql : Direction → Text
  | ascending => "ASC".toList
  | descending => "DESC".toList

def Direction.orient : Direction → Ordering → Ordering
  | ascending, o => o
  | descending, o => o.swap

def Value.sortOrder (a b : Value) : Ordering :=
  match a.isNull, b.isNull with
  | true, true => .eq
  | true, false => .lt
  | false, true => .gt
  | false, false => (a.compare b).getD .eq

namespace Row

/-- The order of two rows: the first key that tells them apart decides. -/
def order : List (Nat × Direction) → Row → Row → Except StoreError Ordering
  | [], _, _ => .ok .eq
  | (index, direction) :: keys, a, b => do
    let first ← lookUp a index
    let second ← lookUp b index
    match direction.orient (first.sortOrder second) with
    | .eq => order keys a b
    | decided => return decided

/-- Puts a row among rows that are sorted already, the last first: it moves past those that it precedes. -/
def insertSorted (keys : List (Nat × Direction)) (row : Row) : List Row → Except StoreError (List Row)
  | [] => .ok [row]
  | last :: rest => do
    match ← order keys row last with
    | .lt => return last :: (← insertSorted keys row rest)
    | _ => return row :: last :: rest

/-- The rows in order, and those that no key tells apart in their old order. If the keys put the rows in a
circle, the outcome is that of inserting them one by one. -/
def sort (keys : List (Nat × Direction)) (rows : List Row) : Except StoreError (List Row) := do
  let sorted ← rows.foldlM (fun sorted row => insertSorted keys row sorted) []
  return sorted.reverse

end Row

/-!
Sort keys as text: `name, age DESC`, with or without `ORDER BY` in front. Letters count in both cases,
so the long s and the kelvin sign, which fold to ASCII letters, may stand in names and directions.
-/

open Text (isBlank trim trimStart)

structure OrderError where
  entry : Text
deriving DecidableEq, Repr

def OrderError.message (e : OrderError) : String :=
  "invalid ORDER BY entry '" ++ String.ofList e.entry ++ "'"

namespace SortKey

def isNameStart (c : Char) : Bool :=
  c.isAlpha || c = '_' || c = 'ſ' || c = 'K'

def isNamePart (c : Char) : Bool := isNameStart c || c.isDigit || c = '.'

def afterWord? (word t : Text) : Option Text :=
  if Text.sameIgnoringCase (t.take word.length) word then
    match t.drop word.length with
    | c :: rest => if isBlank c then some (trimStart rest) else none
    | [] => none
  else none

def body (t : Text) : Text :=
  (((afterWord? "order".toList (trimStart t)).bind (afterWord? "by".toList)).getD t)

/-- A direction, of which only the ASCII spelling of `desc` turns the order around. -/
def direction? (t : Text) : Option Direction :=
  let folded := t.map fun c => if c = 'ſ' then 's' else c.toLower
  if folded = "asc".toList ∨ folded = "desc".toList then
    some (if Text.sameIgnoringCase t "desc".toList then .descending else .ascending)
  else none

def ofPiece? (piece : Text) : Option SortKey :=
  let t := trimStart piece
  if t.head?.any isNameStart then
    let column := t.takeWhile isNamePart
    match trim (t.dropWhile isNamePart) with
    | [] => some ⟨column, .ascending⟩
    | word => (direction? word).map fun direction => ⟨column, direction⟩
  else none

def parse (t : Text) : Except OrderError (List SortKey) :=
  let rest := body t
  if (trim rest).isEmpty then .ok []
  else (Text.cut ',' rest).mapM fun entry =>
    match ofPiece? entry with
    | some key => .ok key
    | none => .error ⟨trim entry⟩

end SortKey

end FilterQuery
