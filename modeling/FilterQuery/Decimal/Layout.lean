import FilterQuery.Text.Basic

/-!
The shortest decimal of a double: the fewest digits that read back as the same double, and of those
with as few digits the one nearest to it. All arithmetic is exact, on natural numbers.
-/

namespace FilterQuery.Decimal

structure Digits where
  digits : Text
  point : Int
deriving Repr, DecidableEq

/-- A positive double `mantissa · 2 ^ exponent`. It is `narrow` when the next smaller double is only
half as far away as the next greater one. -/
structure Binary where
  mantissa : Nat
  exponent : Int
  narrow : Bool
deriving Repr, DecidableEq

def Binary.ofBits (bits : Nat) : Binary :=
  let fraction := bits % Nat.pow 2 52
  let power : Nat := bits / Nat.pow 2 52 % Nat.pow 2 11
  if power = 0 then ⟨fraction, -1074, false⟩
  else ⟨Nat.pow 2 52 + fraction, (power : Int) - 1075, fraction = 0 && power > 1⟩

/-- A number and the ends of the interval that rounds to it, as numerators over one denominator. -/
structure Interval where
  low : Nat
  middle : Nat
  high : Nat
  denominator : Nat
  /-- Both ends round to the number as well. -/
  closed : Bool

def Interval.scale (i : Interval) (numerator denominator : Nat) : Interval :=
  { i with
    low := i.low * numerator, middle := i.middle * numerator, high := i.high * numerator,
    denominator := i.denominator * denominator }

def Interval.scalePower (i : Interval) (base : Nat) (power : Int) : Interval :=
  match power with
  | .ofNat n => i.scale (base.pow n) 1
  | .negSucc n => i.scale 1 (base.pow (n + 1))

/-- The ends lie half way to the neighbouring doubles; they belong to the interval when the mantissa
is even, since halves are rounded to even. -/
def Binary.interval (b : Binary) : Interval :=
  let start : Interval :=
    { low := 4 * b.mantissa - (if b.narrow then 1 else 2)
      middle := 4 * b.mantissa
      high := 4 * b.mantissa + 2
      denominator := 1
      closed := b.mantissa % 2 = 0 }
  start.scalePower 2 (b.exponent - 2)

def Interval.point (i : Interval) : Int :=
  if i.denominator ≤ i.middle then (Text.ofNat (i.middle / i.denominator)).length
  else 1 - ((Text.ofNat (i.denominator / i.middle)).length : Int)

def Interval.contains (i : Interval) (whole : Nat) : Bool :=
  let n := whole * i.denominator
  if i.closed then i.low ≤ n && n ≤ i.high else i.low < n && n < i.high

/-- The whole number of the interval that is nearest to its middle. A middle that lies half way is
rounded up. -/
def Interval.nearest? (i : Interval) : Option Nat :=
  let below := i.middle / i.denominator
  match i.contains below, i.contains (below + 1) with
  | true, true => some (if 2 * (i.middle % i.denominator) < i.denominator then below else below + 1)
  | true, false => some below
  | false, true => some (below + 1)
  | false, false => none

def dropTrailingZeros (digits : Text) : Text :=
  (digits.reverse.dropWhile (· = '0')).reverse

def Binary.shortest (b : Binary) : Digits :=
  let interval := b.interval
  let point := interval.point
  let attempt (count : Nat) : Option Digits :=
    (interval.scalePower 10 (count - point)).nearest?.map fun n =>
      let digits := Text.ofNat n
      ⟨dropTrailingZeros digits, point + digits.length - count⟩
  ((List.range' 1 17).findSome? attempt).getD ⟨['0'], 1⟩

/-!
Doubles as text. The digits are always the shortest ones; a `Layout` says where an exponent is
written and how whole numbers are marked.
-/

structure Layout where
  /-- Whether a number with this place of the point is written without an exponent. -/
  plain : Int → Bool
  /-- What follows a whole number that is written without an exponent. -/
  wholeMark : Text

def Digits.isWhole (d : Digits) : Bool := d.digits.length ≤ d.point

def Digits.plainText (d : Digits) : Text :=
  match d.point with
  | .ofNat 0 => '0' :: '.' :: d.digits
  | .negSucc n => '0' :: '.' :: (List.replicate (n + 1) '0' ++ d.digits)
  | .ofNat n =>
    if d.digits.length ≤ n then d.digits ++ List.replicate (n - d.digits.length) '0'
    else d.digits.take n ++ '.' :: d.digits.drop n

def Digits.exponentText (d : Digits) : Text :=
  let power := 'e' :: Text.ofInt (d.point - 1)
  match d.digits with
  | [] => '0' :: power
  | [first] => first :: power
  | first :: rest => first :: '.' :: rest ++ power

def Layout.digitsText (layout : Layout) (d : Digits) : Text :=
  if layout.plain d.point then d.plainText ++ (if d.isWhole then layout.wholeMark else [])
  else d.exponentText

def Layout.text (layout : Layout) (x : Float) : Text :=
  let bits := x.toBits.toNat
  let size :=
    if x.isInf then "inf".toList
    else if bits % Nat.pow 2 63 = 0 then '0' :: layout.wholeMark
    else layout.digitsText (Binary.ofBits (bits % Nat.pow 2 63)).shortest
  if x.isNaN then "NaN".toList
  else if bits / Nat.pow 2 63 = 1 then '-' :: size
  else size

end FilterQuery.Decimal
