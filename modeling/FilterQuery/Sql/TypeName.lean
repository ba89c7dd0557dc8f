import FilterQuery.Sql.Parser

/-!
The names of types. They stand in casts, and a string behind one is a literal of that type.
-/

namespace FilterQuery.Sql

inductive TypeKind where
  /-- A type that the language names, or a list of any type. -/
  | standard
  | interval
  /-- Any other name. -/
  | custom
deriving DecidableEq

namespace TypeName

def precision : Parser Unit := discard (clause (sign .opening) (do wholeNumber; sign .closing))

def precisionAndScale : Parser Unit :=
  discard (clause (sign .opening) (do
    wholeNumber
    discard (clause (sign .comma) wholeNumber)
    sign .closing))

def length : Parser Unit :=
  discard (clause (sign .opening) (do
    if !(← accepts (word .MAX)) then
      wholeNumber
      optionally (oneOf [.CHARACTERS, .OCTETS])
    sign .closing))

def timeZone : Parser Unit := do
  precision
  if ← accepts (word .WITH) then words [.TIME, .ZONE]
  else if ← accepts (word .WITHOUT) then words [.TIME, .ZONE]

def letters : Parser Unit := do
  if ← accepts (word .VARYING) then length
  else if ← accepts (words [.LARGE, .OBJECT]) then precision
  else length

def members : Parser Unit :=
  parenthesized (discard (items (do
    plainString
    discard (clause (sign .eq) (do
      optionally (sign .plus <|> sign .minus)
      number)))))

def stringList : Parser Unit :=
  parenthesized (discard (items (fun
    | .string '\'' _ :: ts => some ((), ts)
    | _ => none)))

inductive Shape where
  | bare | sized | unsignable | double | scaled | measured | lettered | bits | timed | fixed
  | zoned | enumerated | chosen

def shape? : Keyword → Option Shape
  | .BOOLEAN | .BOOL | .REAL | .FLOAT4 | .FLOAT8 | .FLOAT32 | .FLOAT64 | .INT16 | .INT32 | .INT64
  | .INT128 | .INT256 | .UINT8 | .UINT16 | .UINT32 | .UINT64 | .UINT128 | .UINT256 | .TINYBLOB
  | .MEDIUMBLOB | .LONGBLOB | .TINYTEXT | .MEDIUMTEXT | .LONGTEXT | .TEXT | .UUID | .DATE | .DATE32
  | .JSON | .JSONB | .REGCLASS | .BYTEA | .TRIGGER => some .bare
  | .FLOAT | .CLOB | .BINARY | .VARBINARY | .BLOB | .BYTES | .DATETIME | .TIMESTAMPTZ | .TIMETZ
  | .STRING => some .sized
  | .TINYINT | .INT2 | .SMALLINT | .MEDIUMINT | .INT | .INT4 | .INT8 | .INTEGER | .BIGINT =>
    some .unsignable
  | .DOUBLE => some .double
  | .NUMERIC | .DECIMAL | .DEC | .BIGNUMERIC | .BIGDECIMAL => some .scaled
  | .VARCHAR | .NVARCHAR => some .measured
  | .CHAR | .CHARACTER => some .lettered
  | .BIT => some .bits
  | .TIME | .TIMESTAMP => some .timed
  | .FIXEDSTRING => some .fixed
  | .DATETIME64 => some .zoned
  | .ENUM | .ENUM8 | .ENUM16 => some .enumerated
  | .SET => some .chosen
  | _ => none

def Shape.rest : Shape → Parser Unit
  | bare => pure ()
  | sized => precision
  | unsignable => do precision; optionally (word .UNSIGNED)
  | double => optionally (word .PRECISION)
  | scaled => precisionAndScale
  | measured => length
  | lettered => letters
  | bits => do optionally (word .VARYING); precision
  | timed => timeZone
  | fixed => parenthesized wholeNumber
  | zoned => parenthesized (do wholeNumber; discard (clause (sign .comma) plainString))
  | enumerated => members
  | chosen => stringList

def modifiers : Parser Unit := do
  if ← accepts (sign .opening) then
    repeating (accepts modifier)
    sign .closing
where
  modifier : Parser Unit := fun
    | .word _ _ :: ts => some ((), ts)
    | .quotedName _ :: ts => some ((), ts)
    | .number _ :: ts => some ((), ts)
    | .string '\'' _ :: ts => some ((), ts)
    | .sign .comma :: ts => some ((), ts)
    | _ => none

/-- The angle bracket that closes a type. Two of them may be written together, and then the second is
left for the type around. -/
def closeAngle (left : Bool) : Parser Bool := do
  if left then return false
  else if ← accepts (sign .gt) then return false
  else do sign .doubleGt; return true

def brackets : Parser Bool := do
  if ← accepts (sign .openingBracket) then
    sign .closingBracket
    return true
  else return false

def custom : Parser (TypeKind × Bool) := do
  dottedName
  modifiers
  return (.custom, false)

/-- A type without the brackets behind it, and whether one angle bracket too many was closed; `inner`
reads the types in angle brackets. -/
def first (inner : Parser (TypeKind × Bool)) : Parser (TypeKind × Bool) := do
  match ← get with
  | .word _ (some .INTERVAL) :: rest =>
    set rest
    return (.interval, false)
  | .word _ (some .ARRAY) :: rest =>
    set rest
    sign .lt
    let (_, left) ← inner
    return (.standard, ← closeAngle left)
  | .word _ (some key) :: rest =>
    match shape? key with
    | some shape =>
      set rest
      shape.rest
      return (.standard, false)
    | none => custom
  | .word _ none :: _ => custom
  | .quotedName _ :: _ => custom
  | _ => failure

def within : Nat → Parser (TypeKind × Bool)
  | 0 => failure
  | fuel + 1 => do
    let (kind, left) ← first (within fuel)
    if ← brackets then
      repeating brackets
      return (.standard, left)
    else return (kind, left)

end TypeName

def typeName : Parser TypeKind := fun ts =>
  match TypeName.within ts.length ts with
  | some ((kind, false), rest) => some (kind, rest)
  | _ => none

end FilterQuery.Sql
