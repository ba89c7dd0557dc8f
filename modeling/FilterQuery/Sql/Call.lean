import FilterQuery.Sql.TypeName

/-!
Spans of time and the fields of which dates and times are made.
-/

namespace FilterQuery.Sql

def timeUnits : List Keyword :=
  [.YEAR, .MONTH, .WEEK, .DAY, .HOUR, .MINUTE, .SECOND, .CENTURY, .DECADE, .DOW, .DOY, .EPOCH,
    .ISODOW, .ISOYEAR, .JULIAN, .MICROSECOND, .MICROSECONDS, .MILLENIUM, .MILLENNIUM, .MILLISECOND,
    .MILLISECONDS, .NANOSECOND, .NANOSECONDS, .QUARTER, .TIMEZONE, .TIMEZONE_HOUR,
    .TIMEZONE_MINUTE]

def timeFields : List Keyword :=
  timeUnits ++ [.DAYOFWEEK, .DAYOFYEAR, .DATE, .DATETIME, .ISOWEEK, .TIME, .TIMEZONE_ABBR,
    .TIMEZONE_REGION]

def timeField : Parser Unit := oneOf timeFields

namespace Below

/-- What stands behind `INTERVAL`: a number of units, with their precision or the last unit that is
counted. -/
def interval (b : Below) : Parser Unit := do
  discard b.expr
  if ← accepts (word .SECOND) then TypeName.precisionAndScale
  else
    oneOf timeUnits
    TypeName.precision
    if ← accepts (word .TO) then
      if ← accepts (word .SECOND) then TypeName.precision else timeField

end Below

/-!
Calls of functions, of which nothing is kept: their arguments, the order and the window of rows that
they range over.
-/

def skipStar : List Token → Option (List Token)
  | .sign .star :: ts => some ts
  | .word _ _ :: .sign .period :: ts => skipStar ts
  | .quotedName _ :: .sign .period :: ts => skipStar ts
  | .string '\'' _ :: .sign .period :: ts => skipStar ts
  | _ => none

def allColumns : Parser Unit := fun ts => (skipStar ts).map ((), ·)

namespace Below

def columnsOrExpr (b : Below) : Parser Unit := allColumns <|> discard b.expr

def argument (b : Below) : Parser Unit :=
  (do discard identifier; sign .fatArrow; b.columnsOrExpr) <|> b.columnsOrExpr

def sortKey (b : Below) : Parser Unit := do
  discard b.expr
  optionally (oneOf [.ASC, .DESC])
  optionally (do word .NULLS; oneOf [.FIRST, .LAST])

def ordering (b : Below) : Parser Unit :=
  discard (clause (words [.ORDER, .BY]) (items b.sortKey))

def overflow (b : Below) : Parser Unit := do
  if !(← accepts (word .ERROR)) then
    word .TRUNCATE
    match ← get with
    | .string '\'' _ :: _ => discard b.expr
    | .valueless shown :: _ => if isMarked ['N', 'X'] shown then discard b.expr else failure
    | _ => pure ()
    oneOf [.WITH, .WITHOUT]
    word .COUNT

def arguments (b : Below) : Parser Unit := do
  if !(← accepts (sign .closing)) then
    optionally (oneOf [.ALL, .DISTINCT])
    discard (items b.argument)
    b.ordering
    discard (clause (word .LIMIT) b.expr)
    discard (clause (word .SEPARATOR) value)
    discard (clause (words [.ON, .OVERFLOW]) b.overflow)
    sign .closing

def frameBound (b : Below) : Parser Unit := do
  if !(← accepts (words [.CURRENT, .ROW])) then
    if !(← accepts (word .UNBOUNDED)) then
      match ← get with
      | .string '\'' _ :: _ => b.interval
      | _ => discard b.expr
    oneOf [.PRECEDING, .FOLLOWING]

def frame (b : Below) : Parser Unit := do
  oneOf [.ROWS, .RANGE, .GROUPS]
  if ← accepts (word .BETWEEN) then
    b.frameBound
    word .AND
  b.frameBound

def window (b : Below) : Parser Unit := do
  optionally freeName
  discard (clause (words [.PARTITION, .BY]) b.exprs)
  b.ordering
  if !(← accepts (sign .closing)) then
    b.frame
    sign .closing

def call (b : Below) : Parser Unit := do
  sign .opening
  b.arguments
  discard (clause (words [.WITHIN, .GROUP])
    (parenthesized (do words [.ORDER, .BY]; discard (items b.sortKey))))
  discard (clause (oneOf [.RESPECT, .IGNORE]) (word .NULLS))
  if ← accepts (word .OVER) then
    if ← accepts (sign .opening) then b.window else discard identifier

end Below

end FilterQuery.Sql
