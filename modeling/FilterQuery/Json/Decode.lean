import FilterQuery.Decimal.Reading
import FilterQuery.Filter.Compile
import FilterQuery.Json.Reader
import FilterQuery.Value.Basic

/-!
What JSON numbers stand for. A number without point and power is an integer if it fits; all others are
doubles.

A double is made of the leading digits that fit 64 bits, multiplied or divided by a power of ten. Each
of these steps rounds, so the last bit may differ from that of the nearest double.
-/

namespace FilterQuery.JsonNumber

def takeDigits (significand : Nat) : Text → Nat × Text
  | [] => (significand, [])
  | d :: ds =>
    let more := 10 * significand + Decimal.digitValue d
    if more < UInt64.size then takeDigits more ds else (significand, d :: ds)

/-- A double times a power of ten. Powers beyond `10 ^ 308` are taken in steps; a result that is too
large fails. -/
def scale : Nat → Float → Int → Option Float
  | steps, x, power =>
    let factor := Float.ofScientific 1 false power.natAbs
    if power.natAbs ≤ 308 then
      if power < 0 then some (x / factor)
      else if (x * factor).isInf then none
      else some (x * factor)
    else if x == 0.0 then some x
    else if power > 0 then none
    else match steps with
      | 0 => some 0.0
      | steps + 1 => scale steps (x / Float.ofScientific 1 false 308) (power + 308)

/-- The power of ten behind the `e`. One that needs more than 32 bits makes every number but zero too
large or, if negative, zero. -/
def power? (n : JsonNumber) (significand : Nat) : Option (Option Int) :=
  match n.exponent with
  | none => some (some 0)
  | some (negative, ds) =>
    let size := Decimal.natOfDigits ds
    if size < Nat.pow 2 31 then some (some (if negative then -(size : Int) else size))
    else if significand ≠ 0 ∧ !negative then none
    else some none

def float? (n : JsonNumber) : Option Float := do
  let (whole, wholeLeft) := takeDigits 0 n.whole
  let fraction := n.fraction.getD []
  let (significand, fractionLeft) := takeDigits whole fraction
  match ← n.power? significand with
  | none => return 0.0
  | some power =>
    let shift : Int := wholeLeft.length - (fraction.length - fractionLeft.length : Nat)
    scale 8 (Float.ofNat significand) (shift + power)

def value? (n : JsonNumber) : Option Value :=
  let size := Decimal.natOfDigits n.whole
  let isWhole := n.fraction.isNone && n.exponent.isNone
  if isWhole && !n.negative && size < Nat.pow 2 63 then some (.integer (Int64.ofNat size))
  else if isWhole && n.negative && 0 < size && size ≤ Nat.pow 2 63 then
    some (.integer (Int64.ofInt (-size)))
  else n.float?.map fun x => .float (if n.negative then -x else x)

end FilterQuery.JsonNumber

/-!
Variables and options in JSON. Variables are an object of scalars. Options are an object or an array
with the normalization and the switch for lists, each of which may be left out; other fields of the
object are passed over.
-/

namespace FilterQuery.JsonValue

def boolean? : JsonValue → Option Bool
  | boolean b => some b
  | _ => none

def scalar? : JsonValue → Option Value
  | null => some .null
  | boolean b => some (.boolean b)
  | number n => n.value?
  | string content => (JsonChar.text? content).map .text
  | array _ | object _ => none

def bindings? : JsonValue → Option Bindings
  | object fields => do
    let entries ← fields.mapM fun (key, v) => do
      return (← JsonChar.text? key, ← v.scalar?)
    return Bindings.ofList entries
  | _ => none

def normalizationNamed? (name : Text) : Option Filter.Normalization :=
  if name = "legacy".toList then some .legacy
  else if name = "strict".toList then some .strict
  else none

def normalization? : JsonValue → Option Filter.Normalization
  | string content => JsonChar.text? content >>= normalizationNamed?
  | object [(key, null)] => JsonChar.text? key >>= normalizationNamed?
  | _ => none

def optionsOfArray? : List JsonValue → Option Filter.Options
  | [] => some {}
  | [n] => do return { normalization := ← n.normalization? }
  | [n, l] => do return { normalization := ← n.normalization?, inLists := ← l.boolean? }
  | _ => none

/-- The options of the fields of an object. The two flags tell which of them have been given already;
none is given twice. -/
def optionsOfFields? (hasNormalization hasLists : Bool) (options : Filter.Options) :
    List (List JsonChar × JsonValue) → Option Filter.Options
  | [] => some options
  | (key, v) :: rest => do
    let name ← JsonChar.text? key
    if name = "normalization".toList then
      if hasNormalization then none
      else optionsOfFields? true hasLists { options with normalization := ← v.normalization? } rest
    else if name = "in_lists".toList then
      if hasLists then none
      else optionsOfFields? hasNormalization true { options with inLists := ← v.boolean? } rest
    else optionsOfFields? hasNormalization hasLists options rest

def options? : JsonValue → Option Filter.Options
  | array items => optionsOfArray? items
  | object fields => optionsOfFields? false false {} fields
  | _ => none

end FilterQuery.JsonValue

namespace FilterQuery

def Bindings.ofJson? (t : Text) : Option Bindings := JsonValue.parse? t >>= JsonValue.bindings?

def Filter.Options.ofJson? (t : Text) : Option Filter.Options :=
  JsonValue.parse? t >>= JsonValue.options?

end FilterQuery
