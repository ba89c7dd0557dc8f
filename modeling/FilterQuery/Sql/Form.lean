import FilterQuery.Sql.Call

/-!
The forms that begin with a word of their own. None of them but the constants and the negation can be
evaluated, so they are only checked.
-/

namespace FilterQuery.Sql.Below

def existence (b : Below) : Parser Unit := parenthesized b.query

def negation (b : Below) : Parser Expr := do
  if ← accepts (word .EXISTS) then unsupported b.existence
  else return .unary .not (← b.operand powerNot)

def branch (b : Below) : Parser Unit := do
  discard b.expr
  word .THEN
  discard b.expr

def caseForm (b : Below) : Parser Unit := do
  if !(← accepts (word .WHEN)) then
    discard b.expr
    word .WHEN
  b.branch
  repeated (word .WHEN) b.branch
  discard (clause (word .ELSE) b.expr)
  word .END

def castForm (b : Below) : Parser Unit := parenthesized do
  discard b.expr
  word .AS
  discard typeName
  if ← accepts (word .FORMAT) then
    value
    discard (clause (words [.AT, .TIME, .ZONE]) value)

def convertForm (b : Below) : Parser Unit := parenthesized do
  discard b.expr
  if ← accepts (word .USING) then dottedName
  else
    sign .comma
    discard typeName
    discard (clause (words [.CHARACTER, .SET]) dottedName)

def extractForm (b : Below) : Parser Unit := parenthesized do
  timeField
  word .FROM
  discard b.expr

def roundForm (b : Below) : Parser Unit := parenthesized do
  discard b.expr
  if ← accepts (word .TO) then timeField else discard (clause (sign .comma) number)

def positionForm (b : Below) : Parser Unit := parenthesized do
  discard (b.operand powerCompare)
  word .IN
  discard b.expr

def substringForm (b : Below) : Parser Unit := parenthesized do
  discard b.expr
  discard (clause (sign .comma <|> word .FROM) b.expr)
  discard (clause (word .FOR <|> sign .comma) b.expr)

def overlayForm (b : Below) : Parser Unit := parenthesized do
  discard b.expr
  word .PLACING
  discard b.expr
  word .FROM
  discard b.expr
  discard (clause (word .FOR) b.expr)

def trimForm (b : Below) : Parser Unit := parenthesized do
  optionally (oneOf [.BOTH, .LEADING, .TRAILING])
  discard b.expr
  if ← accepts (word .FROM) then discard b.expr else optionally (sign .comma)

def bracketed (b : Below) : Parser Unit := do
  if !(← accepts (sign .closingBracket)) then
    b.exprs
    sign .closingBracket

def arrayForm (b : Below) : Parser Unit := do
  if ← accepts (sign .openingBracket) then b.bracketed else parenthesized b.query

def matchForm : Parser Unit := do
  identifierList
  word .AGAINST
  parenthesized do
    value
    if ← accepts (words [.IN, .NATURAL, .LANGUAGE, .MODE]) then
      optionally (words [.WITH, .QUERY, .EXPANSION])
    else if !(← accepts (words [.IN, .BOOLEAN, .MODE])) then
      optionally (words [.WITH, .QUERY, .EXPANSION])

def timeForm (b : Below) : Parser Unit := discard (clause (sign .opening) b.arguments)

def form? (b : Below) : Keyword → Option (Parser Expr)
  | .TRUE => some (pure (.literal (.boolean true)))
  | .FALSE => some (pure (.literal (.boolean false)))
  | .NULL => some (pure (.literal .null))
  | .NOT => some b.negation
  | .EXISTS => some (unsupported b.existence)
  | .INTERVAL => some (unsupported b.interval)
  | .CASE => some (unsupported b.caseForm)
  | .CAST | .TRY_CAST | .SAFE_CAST => some (unsupported b.castForm)
  | .CONVERT => some (unsupported b.convertForm)
  | .EXTRACT => some (unsupported b.extractForm)
  | .CEIL | .FLOOR => some (unsupported b.roundForm)
  | .POSITION => some (unsupported b.positionForm)
  | .SUBSTRING => some (unsupported b.substringForm)
  | .OVERLAY => some (unsupported b.overlayForm)
  | .TRIM => some (unsupported b.trimForm)
  | .ARRAY => some (unsupported b.arrayForm)
  | .MATCH => some (unsupported matchForm)
  | .CURRENT_DATE | .CURRENT_TIME | .CURRENT_TIMESTAMP | .LOCALTIME | .LOCALTIMESTAMP =>
    some (unsupported b.timeForm)
  | _ => none

end FilterQuery.Sql.Below
