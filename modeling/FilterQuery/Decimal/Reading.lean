import FilterQuery.Text.Basic

/-!
Numbers read from text: whole numbers of 64 bits and doubles. Both readers take the whole text or
nothing, without blanks.
-/

namespace FilterQuery.Decimal

def digitValue (c : Char) : Nat := c.toNat - '0'.toNat

def natOfDigits (digits : Text) : Nat :=
  digits.foldl (fun n c => 10 * n + digitValue c) 0

def takeSign : Text → Bool × Text
  | '-' :: rest => (true, rest)
  | '+' :: rest => (false, rest)
  | t => (false, t)

def integer? (t : Text) : Option Int64 :=
  let (negative, digits) := takeSign t
  if digits.isEmpty || !digits.all Char.isDigit then none
  else
    let size : Int := natOfDigits digits
    let number := if negative then -size else size
    if Int64.minValue.toInt ≤ number ∧ number ≤ Int64.maxValue.toInt then some (Int64.ofInt number)
    else none

structure Scientific where
  mantissa : Nat
  exponent : Int
deriving Repr, DecidableEq

/-- The double nearest to the number. From `10 ^ 310` on it is infinite and below `10 ^ (-330)` it is
zero, so no power beyond those is ever computed. -/
def Scientific.toFloat (s : Scientific) : Float :=
  let top : Int := (Text.ofNat s.mantissa).length + s.exponent
  if s.mantissa = 0 ∨ top < -330 then 0.0
  else if top > 310 then Float.ofScientific 1 false 400
  else Float.ofScientific s.mantissa (s.exponent < 0) s.exponent.natAbs

def exponent? : Text → Option Int
  | [] => some 0
  | mark :: rest =>
    let (negative, digits) := takeSign rest
    if (mark = 'e' ∨ mark = 'E') ∧ !digits.isEmpty ∧ digits.all Char.isDigit then
      some (if negative then -(natOfDigits digits : Int) else natOfDigits digits)
    else none

def scientific? (t : Text) : Option Scientific :=
  let whole := t.takeWhile Char.isDigit
  let (fraction, rest) :=
    match t.dropWhile Char.isDigit with
    | '.' :: rest => (rest.takeWhile Char.isDigit, rest.dropWhile Char.isDigit)
    | rest => ([], rest)
  if whole.isEmpty && fraction.isEmpty then none
  else (exponent? rest).map fun power =>
    ⟨natOfDigits (whole ++ fraction), power - fraction.length⟩

/-- A double: a decimal number, `inf`, `infinity` or `nan` in any case, after an optional sign. -/
def float? (t : Text) : Option Float :=
  let (negative, size) := takeSign t
  let number :=
    if Text.sameIgnoringCase size "inf".toList || Text.sameIgnoringCase size "infinity".toList then
      some (1.0 / 0.0)
    else if Text.sameIgnoringCase size "nan".toList then some (0.0 / 0.0)
    else (scientific? size).map Scientific.toFloat
  number.map fun x => if negative then -x else x

end FilterQuery.Decimal
