import FilterQuery.Decimal.Layout
import FilterQuery.Decimal.Reading
import FilterQuery.Text.Basic
import FilterQuery.Text.Printable

/-!
The scalar values that filters, merge fields and tables hold, their texts, and the order between them.
Two values of different kinds are compared as numbers; a value that is no number compares with nothing.
-/

namespace FilterQuery

inductive Value where
  | null
  | boolean (b : Bool)
  | integer (i : Int64)
  | float (x : Float)
  | text (t : Text)
deriving BEq, Inhabited

namespace Value

def isNull : Value → Bool
  | null => true
  | _ => false

def floatLayout : Decimal.Layout where
  plain _ := true
  wholeMark := []

/-- The text that stands for a value in a filter. Booleans are `1` and `0`; a double that is not
finite counts as missing. -/
def canonicalText : Value → Text
  | null => "NULL".toList
  | boolean true => ['1']
  | boolean false => ['0']
  | integer i => Text.ofInt i.toInt
  | float x => if x.isFinite then floatLayout.text x else "NULL".toList
  | text t => t

def display : Value → Text
  | boolean true => "true".toList
  | boolean false => "false".toList
  | value => value.canonicalText

/-- The value as a number. A text counts if all of it but the blanks around it is a number. -/
def toFloat? : Value → Option Float
  | null => none
  | boolean b => some (if b then 1.0 else 0.0)
  | integer i => some (Float.ofInt i.toInt)
  | float x => some x
  | text t => Decimal.float? (Text.trim t)

def compareFloats (x y : Float) : Option Ordering :=
  if x < y then some .lt
  else if y < x then some .gt
  else if x == y then some .eq
  else none

/-- The order of two values, if they have one. Texts are compared as texts and integers exactly. -/
def compare : Value → Value → Option Ordering
  | null, _ => none
  | _, null => none
  | text s, text t => some (Text.cmp s t)
  | integer i, integer j => some (Ord.compare i.toInt j.toInt)
  | a, b =>
    match a.toFloat?, b.toFloat? with
    | some x, some y => compareFloats x y
    | _, _ => none

def same (a b : Value) : Bool := a.compare b = some .eq

/-! Values shown with their kind, so that the number `1`, the text `"1"` and the boolean can be told apart. -/

/-- Below `10 ^ (-4)` and from `10 ^ 16` on an exponent is written; whole numbers end in `.0`. -/
def inspectLayout : Decimal.Layout where
  plain point := -4 < point && point < 17
  wholeMark := ".0".toList

def inspectChar (c : Char) : Text :=
  match c with
  | '\x00' => ['\\', '0']
  | '\t' => ['\\', 't']
  | '\r' => ['\\', 'r']
  | '\n' => ['\\', 'n']
  | '"' => ['\\', '"']
  | '\\' => ['\\', '\\']
  | _ =>
    if Text.isPrintable c then [c]
    else "\\u\x7b".toList ++ Nat.toDigits 16 c.toNat ++ ['\x7d']

def inspect : Value → Text
  | null => "Null".toList
  | boolean b => "Boolean(".toList ++ (boolean b).display ++ [')']
  | integer i => "Integer(".toList ++ Text.ofInt i.toInt ++ [')']
  | float x => "Float(".toList ++ inspectLayout.text x ++ [')']
  | text t => "Text(\"".toList ++ t.flatMap inspectChar ++ "\")".toList

end Value

end FilterQuery
