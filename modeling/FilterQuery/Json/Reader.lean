import FilterQuery.Text.Basic

/-!
JSON documents, as written: numbers keep their digits and strings their escapes, so that what a number
or a string means can be decided where it is used.
-/

namespace FilterQuery

structure JsonNumber where
  negative : Bool
  whole : Text
  fraction : Option Text
  /-- The sign and the digits behind the `e`. -/
  exponent : Option (Bool × Text)
deriving DecidableEq, Repr

/-- A character of a string, or one half of a character beyond the first 65536, which can only be
written as two escapes. -/
inductive JsonChar where
  | char (c : Char)
  | half (code : Nat)
deriving DecidableEq, Repr

inductive JsonValue where
  | null
  | boolean (b : Bool)
  | number (n : JsonNumber)
  | string (content : List JsonChar)
  | array (items : List JsonValue)
  | object (fields : List (List JsonChar × JsonValue))

/-- The text of a string. Two halves in the right order make one character; a half alone makes the
string meaningless. -/
def JsonChar.text? : List JsonChar → Option Text
  | [] => some []
  | .char c :: rest => (text? rest).map (c :: ·)
  | .half high :: .half low :: rest =>
    if 0xD800 ≤ high ∧ high < 0xDC00 ∧ 0xDC00 ≤ low ∧ low < 0xE000 then
      (text? rest).map (Char.ofNat (0x10000 + (high - 0xD800) * 0x400 + (low - 0xDC00)) :: ·)
    else none
  | .half _ :: _ => none

end FilterQuery

/-!
Reading JSON documents. The grammar is the strict one: no trailing commas, no comments, no leading
zeros, no raw control characters in strings.
-/

namespace FilterQuery.JsonReader

abbrev Reader (α : Type) := Text → Option (α × Text)

def isSpace (c : Char) : Bool := c = ' ' || c = '\t' || c = '\n' || c = '\r'

def skipSpace (t : Text) : Text := t.dropWhile isSpace

def hexValue? (c : Char) : Option Nat :=
  if c.isDigit then some (c.toNat - '0'.toNat)
  else if 'a' ≤ c.toLower ∧ c.toLower ≤ 'f' then some (c.toLower.toNat - 'a'.toNat + 10)
  else none

def hexEscape? (a b c d : Char) : Option JsonChar := do
  let code := (((← hexValue? a) * 16 + (← hexValue? b)) * 16 + (← hexValue? c)) * 16 + (← hexValue? d)
  return if 0xD800 ≤ code ∧ code < 0xE000 then .half code else .char (Char.ofNat code)

def shortEscape? (c : Char) : Option JsonChar :=
  match c with
  | '"' => some (.char '"')
  | '\\' => some (.char '\\')
  | '/' => some (.char '/')
  | 'b' => some (.char '\x08')
  | 'f' => some (.char '\x0c')
  | 'n' => some (.char '\n')
  | 'r' => some (.char '\r')
  | 't' => some (.char '\t')
  | _ => none

def stringBody : Reader (List JsonChar)
  | [] => none
  | '"' :: rest => some ([], rest)
  | '\\' :: 'u' :: a :: b :: c :: d :: rest => do
    let unit ← hexEscape? a b c d
    let (content, rest) ← stringBody rest
    return (unit :: content, rest)
  | '\\' :: c :: rest => do
    let unit ← shortEscape? c
    let (content, rest) ← stringBody rest
    return (unit :: content, rest)
  | c :: rest =>
    if c.toNat < 0x20 ∨ c = '\\' then none
    else (stringBody rest).map fun (content, rest) => (.char c :: content, rest)

def digits (t : Text) : Option (Text × Text) :=
  match t.takeWhile Char.isDigit with
  | [] => none
  | ds => some (ds, t.dropWhile Char.isDigit)

def fractionPart : Reader (Option Text)
  | '.' :: rest => (digits rest).map fun (ds, rest) => (some ds, rest)
  | t => some (none, t)

def exponentPart : Reader (Option (Bool × Text))
  | [] => some (none, [])
  | mark :: rest =>
    if mark = 'e' ∨ mark = 'E' then
      let (negative, rest) := match rest with
        | '-' :: rest => (true, rest)
        | '+' :: rest => (false, rest)
        | _ => (false, rest)
      (digits rest).map fun (ds, rest) => (some (negative, ds), rest)
    else some (none, mark :: rest)

def number : Reader JsonNumber := fun t => do
  let (negative, t) := match t with
    | '-' :: rest => (true, rest)
    | _ => (false, t)
  let (whole, t) ← digits t
  if whole.head? = some '0' ∧ whole.length > 1 then none
  let (fraction, t) ← fractionPart t
  let (exponent, t) ← exponentPart t
  return (⟨negative, whole, fraction, exponent⟩, t)

def itemsUpTo {α : Type} (close : Char) (item : Reader α) : Nat → Reader (List α)
  | 0, _ => none
  | fuel + 1, t => do
    let (first, t) ← item (skipSpace t)
    match skipSpace t with
    | c :: t =>
      if c = ',' then
        let (rest, t) ← itemsUpTo close item fuel t
        return (first :: rest, t)
      else if c = close then return ([first], t)
      else none
    | [] => none

def items {α : Type} (close : Char) (item : Reader α) : Reader (List α) := fun t =>
  match skipSpace t with
  | c :: rest => if c = close then some ([], rest) else itemsUpTo close item t.length t
  | [] => none

def field (value : Reader JsonValue) : Reader (List JsonChar × JsonValue)
  | '"' :: t => do
    let (key, t) ← stringBody t
    match skipSpace t with
    | ':' :: t =>
      let (v, t) ← value (skipSpace t)
      return ((key, v), t)
    | _ => none
  | _ => none

def value : Nat → Reader JsonValue
  | 0, _ => none
  | levels + 1, t =>
    match t with
    | 'n' :: 'u' :: 'l' :: 'l' :: rest => some (.null, rest)
    | 't' :: 'r' :: 'u' :: 'e' :: rest => some (.boolean true, rest)
    | 'f' :: 'a' :: 'l' :: 's' :: 'e' :: rest => some (.boolean false, rest)
    | '"' :: rest => (stringBody rest).map fun (s, rest) => (.string s, rest)
    | '[' :: rest => (items ']' (value levels) rest).map fun (vs, rest) => (.array vs, rest)
    | '\x7b' :: rest =>
      (items '\x7d' (field (value levels)) rest).map fun (fs, rest) => (.object fs, rest)
    | _ => (number t).map fun (n, rest) => (.number n, rest)

end FilterQuery.JsonReader

namespace FilterQuery

def JsonValue.parse? (t : Text) : Option JsonValue := do
  let (v, rest) ← JsonReader.value (t.length + 1) (JsonReader.skipSpace t)
  if (JsonReader.skipSpace rest).isEmpty then return v else none

end FilterQuery
