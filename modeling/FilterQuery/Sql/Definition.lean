import FilterQuery.Sql.Query

/-!
Statements that define tables and the like, and those that steer a connection. It is only checked that
they are well formed.
-/

namespace FilterQuery.Sql

def ifExists : Parser Unit := optionally (words [.IF, .EXISTS])

def ifMissing : Parser Unit := optionally (words [.IF, .NOT, .EXISTS])

def dropStatement : Parser Unit := do
  optionally (word .TEMPORARY)
  let isRole ← accepts (word .ROLE)
  if !isRole then
    oneOf [.TABLE, .VIEW, .INDEX, .SCHEMA, .DATABASE, .SEQUENCE, .STAGE, .TYPE]
  ifExists
  discard (items dottedName)
  let cascade ← accepts (word .CASCADE)
  let restrict ← accepts (word .RESTRICT)
  let purge ← accepts (word .PURGE)
  if cascade && restrict || isRole && (cascade || restrict || purge) then failure

def chaining : Parser Unit := do
  optionally (oneOf [.TRANSACTION, .WORK])
  discard (clause (word .AND) (do optionally (word .NO); word .CHAIN))

def transactionMode : Parser Unit := do
  if ← accepts (words [.ISOLATION, .LEVEL]) then
    if ← accepts (word .READ) then oneOf [.UNCOMMITTED, .COMMITTED]
    else if ← accepts (word .REPEATABLE) then word .READ
    else word .SERIALIZABLE
  else
    word .READ
    oneOf [.ONLY, .WRITE]

/-- The modes of a transaction; a comma has to be followed by one. -/
def transactionModes : Parser Unit := do
  if ← accepts transactionMode then
    repeating (do
      if ← accepts (sign .comma) then
        transactionMode
        return true
      else accepts transactionMode)

namespace Below

def deleteStatement (b : Below) : Parser Unit := do
  if !(← accepts (word .FROM)) then
    discard (items dottedName)
    word .FROM
  b.tables
  discard (clause (word .USING) b.tables)
  discard (clause (word .WHERE) b.expr)
  b.returning
  b.ordering
  if ← accepts (word .LIMIT) then
    if !(← accepts (word .ALL)) then discard b.expr

def truncateStatement (b : Below) : Parser Unit := do
  optionally (word .TABLE)
  optionally (word .ONLY)
  discard (items dottedName)
  discard (clause (word .PARTITION) (parenthesized b.exprs))

def referenceActions : Parser Unit :=
  repeated (do word .ON; oneOf [.DELETE, .UPDATE]) (do
    if ← accepts (word .SET) then oneOf [.NULL, .DEFAULT]
    else if ← accepts (word .NO) then word .ACTION
    else oneOf [.CASCADE, .RESTRICT])

def references : Parser Unit := do
  dottedName
  optionalIdentifiers
  referenceActions

def columnProperty (b : Below) : Parser Bool := do
  if ← accepts (words [.NOT, .NULL]) then return true
  else if ← accepts (oneOf [.NULL, .AUTO_INCREMENT]) then return true
  else if ← accepts (word .UNIQUE) then return true
  else if ← accepts (words [.PRIMARY, .KEY]) then return true
  else if ← accepts (words [.CHARACTER, .SET]) then dottedName; return true
  else if ← accepts (word .COMMENT) then plainString; return true
  else if ← accepts (word .DEFAULT) then discard b.expr; return true
  else if ← accepts (words [.ON, .UPDATE]) then discard b.expr; return true
  else if ← accepts (word .REFERENCES) then references; return true
  else if ← accepts (word .CHECK) then discard (parenthesized b.expr); return true
  else return false

def columnDefinition (b : Below) : Parser Unit := do
  discard identifier
  discard typeName
  discard (clause (word .COLLATE) dottedName)
  repeating (do
    if ← accepts (word .CONSTRAINT) then
      discard identifier
      if ← b.columnProperty then return true else failure
    else b.columnProperty)

def tableRule (b : Below) : Parser Unit := do
  if ← accepts (words [.PRIMARY, .KEY]) then identifierList
  else if ← accepts (words [.FOREIGN, .KEY]) then
    identifierList
    word .REFERENCES
    references
  else if ← accepts (word .CHECK) then discard (parenthesized b.expr)
  else if ← accepts (word .UNIQUE) then
    optionally (oneOf [.INDEX, .KEY])
    optionally identifier
    identifierList
  else
    oneOf [.INDEX, .KEY]
    optionally identifier
    identifierList

def tablePart (b : Below) : Parser Unit := do
  if ← accepts (word .CONSTRAINT) then
    discard identifier
    b.tableRule
  else b.tableRule <|> b.columnDefinition

def createTable (b : Below) : Parser Unit := do
  ifMissing
  dottedName
  if ← accepts (oneOf [.LIKE, .ILIKE]) then dottedName
  if ← accepts (sign .opening) then
    if !(← accepts (sign .closing)) then
      discard (items b.tablePart)
      sign .closing
  if ← accepts (word .ENGINE) then
    optionally (sign .eq)
    discard name
  discard (clause (word .AS) b.query)

def createStatement (b : Below) : Parser Unit := do
  let replaces ← accepts (words [.OR, .REPLACE])
  optionally (oneOf [.TEMP, .TEMPORARY])
  if ← accepts (word .TABLE) then b.createTable
  else if ← accepts (word .VIEW) then
    ifMissing
    dottedName
    optionalIdentifiers
    word .AS
    b.query
  else if replaces then failure
  else if ← accepts (oneOf [.DATABASE, .SCHEMA]) then
    ifMissing
    dottedName
  else
    optionally (word .UNIQUE)
    word .INDEX
    ifMissing
    if !(← accepts (word .ON)) then
      dottedName
      word .ON
    dottedName
    parenthesized (discard (items b.sortKey))

def tableChange (b : Below) : Parser Unit := do
  if ← accepts (word .ADD) then
    if !(← accepts (do optionally (word .CONSTRAINT); b.tableRule)) then
      optionally (word .COLUMN)
      ifMissing
      b.columnDefinition
      if !(← accepts (word .FIRST)) then discard (clause (word .AFTER) identifier)
  else if ← accepts (word .RENAME) then
    if !(← accepts (oneOf [.TO, .AS])) then
      optionally (word .COLUMN)
      discard identifier
      word .TO
    dottedName
  else
    word .DROP
    if !(← accepts (words [.PRIMARY, .KEY])) then
      optionally (oneOf [.COLUMN, .CONSTRAINT])
      ifExists
      discard identifier
      optionally (oneOf [.CASCADE, .RESTRICT])

def alterStatement (b : Below) : Parser Unit := do
  word .TABLE
  ifExists
  optionally (word .ONLY)
  dottedName
  discard (items b.tableChange)

def setStatement (b : Below) : Parser Unit := do
  let isLocal ← accepts (oneOf [.SESSION, .LOCAL])
  match isLocal, ← get with
  | false, .word _ (some .TRANSACTION) :: rest =>
    set rest
    transactionModes
  | _, _ =>
    words [.TIME, .ZONE] <|> dottedName
    sign .eq <|> word .TO
    b.exprs

/-- Of a list that is shown, a part may be asked for; a variable may be anything up to an equality
sign. -/
def showStatement (b : Below) : Parser Unit := do
  optionally (oneOf [.EXTENDED, .FULL, .SESSION, .GLOBAL])
  if ← accepts (oneOf [.COLUMNS, .FIELDS, .TABLES, .VIEWS, .FUNCTIONS, .DATABASES, .SCHEMAS,
      .COLLATION, .STATUS, .VARIABLES]) then
    repeated (oneOf [.FROM, .IN]) dottedName
    if ← accepts (oneOf [.LIKE, .ILIKE]) then plainString
    else discard (clause (word .WHERE) b.expr)
  else if ← accepts (word .CREATE) then
    oneOf [.TABLE, .TRIGGER, .FUNCTION, .PROCEDURE, .EVENT, .VIEW]
    dottedName
  else modify fun ts => ts.dropWhile (· ≠ .sign .eq)

def other? (b : Below) : Keyword → Option (Parser Unit)
  | .DROP => some dropStatement
  | .DELETE => some b.deleteStatement
  | .UPDATE => some b.updateStatement
  | .INSERT | .REPLACE => some b.insertStatement
  | .TRUNCATE => some b.truncateStatement
  | .CREATE => some b.createStatement
  | .ALTER => some b.alterStatement
  | .SET => some b.setStatement
  | .COMMIT | .END => some chaining
  | .ROLLBACK => some (do
    chaining
    discard (clause (word .TO) (do optionally (word .SAVEPOINT); identifier)))
  | .BEGIN => some (do
    optionally (oneOf [.TRANSACTION, .WORK])
    transactionModes)
  | .START => some (do
    word .TRANSACTION
    transactionModes)
  | .SAVEPOINT => some (discard identifier)
  | .RELEASE => some (do
    optionally (word .SAVEPOINT)
    discard identifier)
  | .USE => some dottedName
  | .CALL => some (do
    dottedName
    match ← get with
    | .sign .opening :: _ => b.call
    | _ => pure ())
  | .KILL => some (do
    optionally (oneOf [.CONNECTION, .QUERY, .MUTATION])
    wholeNumber)
  | .SHOW => some b.showStatement
  | _ => none

end Below

end FilterQuery.Sql
