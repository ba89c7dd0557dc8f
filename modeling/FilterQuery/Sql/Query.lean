import FilterQuery.Sql.Condition

/-!
Queries, of which only the condition is kept, and the statements that may stand in their place.
-/

namespace FilterQuery.Sql

def endsColumn : List Keyword :=
  [.WITH, .EXPLAIN, .ANALYZE, .SELECT, .WHERE, .GROUP, .SORT, .HAVING, .ORDER, .TOP, .LATERAL,
    .VIEW, .LIMIT, .OFFSET, .FETCH, .UNION, .EXCEPT, .INTERSECT, .CLUSTER, .DISTRIBUTE,
    .RETURNING, .FROM, .INTO, .END]

def endsTable : List Keyword :=
  [.WITH, .EXPLAIN, .ANALYZE, .SELECT, .WHERE, .GROUP, .SORT, .HAVING, .ORDER, .PIVOT, .UNPIVOT,
    .TOP, .LATERAL, .VIEW, .LIMIT, .OFFSET, .FETCH, .UNION, .EXCEPT, .INTERSECT, .ON, .JOIN,
    .INNER, .CROSS, .FULL, .LEFT, .RIGHT, .NATURAL, .USING, .CLUSTER, .DISTRIBUTE, .GLOBAL, .ANTI,
    .SEMI, .RETURNING, .ASOF, .MATCH_CONDITION, .OUTER, .SET, .QUALIFY, .WINDOW, .END, .FOR,
    .PARTITION, .PREWHERE, .SETTINGS, .FORMAT, .START, .CONNECT, .MATCH_RECOGNIZE]

/-- The name that may be given to what stands before, and whether there is one: any name after `AS`,
and without it none of the `reserved` words. -/
def naming (reserved : List Keyword) : Parser Bool := do
  if ← accepts (word .AS) then
    discard identifier
    return true
  else match ← get with
    | .word _ (some key) :: rest =>
      if key ∈ reserved then return false
      else do
        set rest
        return true
    | _ => accepts identifier

def optionalIdentifiers : Parser Unit :=
  discard (clause (sign .opening) (do discard (items identifier); sign .closing))

def columnList : Parser Unit :=
  discard (clause (sign .opening) (do
    discard (items (do discard identifier; optionally typeName))
    sign .closing))

def tableNaming : Parser Unit := do
  if ← naming endsTable then columnList

namespace Below

def selected (b : Below) : Parser Unit :=
  allColumns <|> (do
    let before ← get
    discard b.expr
    let after ← get
    match before with
    | .word _ (some .FROM) :: rest =>
      -- The word alone is no column.
      if after.length = rest.length then failure else discard (naming endsColumn)
    | _ => discard (naming endsColumn))

/-! Tables. A reader `factor` of single tables is handed down, because they nest in parentheses. -/

def joinConstraint (b : Below) : Parser Unit := do
  if ← accepts (word .ON) then discard b.expr
  else discard (clause (word .USING) identifierList)

def joinWords : Parser Unit := do
  if ← accepts (oneOf [.LEFT, .RIGHT]) then
    optionally (oneOf [.OUTER, .SEMI, .ANTI])
    word .JOIN
  else if ← accepts (word .FULL) then
    optionally (word .OUTER)
    word .JOIN
  else
    optionally (oneOf [.INNER, .SEMI, .ANTI])
    word .JOIN

def beginsJoin : List Token → Bool
  | .word _ (some key) :: _ =>
    key ∈ [Keyword.INNER, .JOIN, .LEFT, .RIGHT, .FULL, .SEMI, .ANTI]
  | _ => false

def join (b : Below) (factor : Parser Bool) : Parser Bool := do
  optionally (word .GLOBAL)
  if ← accepts (word .CROSS) then
    oneOf [.JOIN, .APPLY]
    discard factor
    return true
  else if ← accepts (word .OUTER) then
    word .APPLY
    discard factor
    return true
  else if ← accepts (word .ASOF) then
    word .JOIN
    discard factor
    word .MATCH_CONDITION
    discard (parenthesized b.expr)
    b.joinConstraint
    return true
  else if ← accepts (word .NATURAL) then
    joinWords
    discard factor
    return true
  else if beginsJoin (← get) then
    joinWords
    discard factor
    b.joinConstraint
    return true
  else return false

def joined (b : Below) (factor : Parser Bool) : Parser Bool := do
  let nested ← factor
  if ← b.join factor then
    repeating (b.join factor)
    return true
  else return nested

def derived (b : Below) : Parser Unit := do
  b.query
  sign .closing
  tableNaming

def tableArguments (b : Below) : Parser Unit := do
  if !(← accepts (sign .closing)) then
    discard (items b.argument)
    sign .closing

def namedTable (b : Below) : Parser Unit := do
  dottedName
  discard (clause (word .PARTITION) identifierList)
  discard (clause (sign .opening) b.tableArguments)
  optionally (words [.WITH, .ORDINALITY])
  tableNaming
  discard (clause (do word .WITH; sign .opening) (do b.exprs; sign .closing))

/-- One table within `fuel` parentheses, and whether it is a combination of several. Only such
combinations may be put in parentheses. -/
def factorWithin (b : Below) : Nat → Parser Bool
  | 0 => failure
  | fuel + 1 => do
    if ← accepts (word .LATERAL) then
      if ← accepts (sign .opening) then b.derived
      else
        dottedName
        sign .opening
        b.tableArguments
        tableNaming
      return false
    else if ← accepts (word .TABLE) then
      discard (parenthesized b.expr)
      tableNaming
      return false
    else if ← accepts (sign .opening) then
      if ← accepts b.derived then return false
      else if ← b.joined (b.factorWithin fuel) then
        sign .closing
        tableNaming
        return true
      else failure
    else
      b.namedTable
      return false

def factor (b : Below) : Parser Bool := fun ts => b.factorWithin ts.length ts

def tables (b : Below) : Parser Unit := discard (items (b.joined b.factor))

/-! Statements that change rows. -/

def assignment (b : Below) : Parser Unit := do
  if ← accepts (sign .opening) then
    discard (items dottedName)
    sign .closing
  else dottedName
  sign .eq
  discard b.expr

def conflictRule : Parser Unit :=
  optionally ((do word .OR; oneOf [.REPLACE, .ROLLBACK, .ABORT, .FAIL, .IGNORE]) <|> word .REPLACE)

def returning (b : Below) : Parser Unit := discard (clause (word .RETURNING) (items b.selected))

def onConflict (b : Below) : Parser Unit := do
  if ← accepts (word .CONFLICT) then
    if ← accepts (words [.ON, .CONSTRAINT]) then dottedName
    else optionalIdentifiers
    word .DO
    if !(← accepts (word .NOTHING)) then
      words [.UPDATE, .SET]
      discard (items b.assignment)
      discard (clause (word .WHERE) b.expr)
  else
    words [.DUPLICATE, .KEY, .UPDATE]
    discard (items b.assignment)

def insertStatement (b : Below) : Parser Unit := do
  conflictRule
  optionally (oneOf [.LOW_PRIORITY, .DELAYED, .HIGH_PRIORITY])
  optionally (word .IGNORE)
  optionally (word .OVERWRITE)
  optionally (word .INTO)
  optionally (word .LOCAL)
  optionally (word .TABLE)
  dottedName
  if !(← accepts (words [.DEFAULT, .VALUES])) then
    match ← get with
    | .sign .opening :: .word _ (some .SELECT) :: _ => pure ()
    | .sign .opening :: .sign .closing :: rest => set rest
    | _ => optionalIdentifiers
    discard (clause (word .PARTITION) (parenthesized b.exprs))
    b.query
  if ← accepts (word .AS) then
    dottedName
    optionalIdentifiers
  discard (clause (word .ON) b.onConflict)
  b.returning

def updateStatement (b : Below) : Parser Unit := do
  conflictRule
  discard (b.joined b.factor)
  word .SET
  discard (items b.assignment)
  optionally (word .FROM)
  discard (clause (word .WHERE) b.expr)
  b.returning

/-! Queries. -/

def quantity (b : Below) : Parser Unit := do
  if !(← accepts (word .ALL)) then
    if ← accepts (word .DISTINCT) then
      if ← accepts (word .ON) then
        parenthesized (do
          match ← get with
          | .sign .closing :: _ => pure ()
          | _ => b.exprs)

def top (b : Below) : Parser Unit := do
  if ← accepts (sign .opening) then
    discard b.expr
    sign .closing
  else wholeNumber
  optionally (word .PERCENT)
  optionally (words [.WITH, .TIES])

def namedWindow (b : Below) : Parser Unit := do
  discard identifier
  word .AS
  sign .opening
  b.window

def windows (b : Below) : Parser Unit := do
  let definitions := discard (items b.namedWindow)
  if ← accepts (word .WINDOW) then
    definitions
    discard (clause (word .QUALIFY) b.expr)
  else if ← accepts (word .QUALIFY) then
    discard b.expr
    discard (clause (word .WINDOW) definitions)

def lateralView (b : Below) : Parser Unit := do
  optionally (word .OUTER)
  discard b.expr
  dottedName
  discard (items (naming [.WHERE, .GROUP, .CLUSTER, .HAVING, .LATERAL]))

def grouping (b : Below) : Parser Unit := do
  if ← accepts (words [.GROUP, .BY]) then
    if !(← accepts (word .ALL)) then b.exprs
  discard (clause (words [.CLUSTER, .BY]) b.exprs)
  discard (clause (words [.DISTRIBUTE, .BY]) b.exprs)
  discard (clause (words [.SORT, .BY]) b.exprs)
  discard (clause (word .HAVING) b.expr)
  b.windows

def select (b : Below) : Parser (Option Expr) := do
  word .SELECT
  b.quantity
  discard (clause (word .TOP) b.top)
  discard (items b.selected)
  discard (clause (word .INTO) (do
    optionally (oneOf [.TEMP, .TEMPORARY])
    optionally (word .UNLOGGED)
    optionally (word .TABLE)
    dottedName))
  discard (clause (word .FROM) b.tables)
  repeated (words [.LATERAL, .VIEW]) b.lateralView
  let condition ← clause (word .WHERE) b.expr
  b.grouping
  return condition

def rowList (b : Below) : Parser Unit := discard (items (do
  optionally (word .ROW)
  sign .opening
  if !(← accepts (sign .closing)) then
    b.exprs
    sign .closing))

/-- A whole table. Behind a name without periods, two tokens are passed over. -/
def wholeTable : Parser Unit := do
  discard name
  if ← accepts (sign .period) then discard name else modify (List.drop 2)

/-- A query that may be combined with others. A query in parentheses, rows that are written out and
whole tables have no condition. -/
def body (b : Below) : Parser (Option Expr) := do
  match ← get with
  | .word _ (some .SELECT) :: _ => b.select
  | .sign .opening :: rest =>
    set rest
    b.query
    sign .closing
    return none
  | .word _ (some .VALUES) :: rest =>
    set rest
    b.rowList
    return none
  | .word _ (some .TABLE) :: rest =>
    set rest
    wholeTable
    return none
  | _ => failure

def combinationRule : Parser Unit := do
  if !(← accepts (words [.DISTINCT, .BY, .NAME])) then
    if !(← accepts (words [.BY, .NAME])) then
      if ← accepts (word .ALL) then optionally (words [.BY, .NAME])
      else optionally (word .DISTINCT)

def another (b : Below) : Parser Bool := do
  if ← accepts (oneOf [.UNION, .EXCEPT, .INTERSECT]) then
    combinationRule
    discard b.body
    return true
  else return false

def combination (b : Below) (condition : Option Expr) : Parser (Option Expr) := do
  if ← b.another then
    repeating b.another
    return none
  else return condition

structure Bounds where
  limit : Bool
  offset : Bool

/-- One round of bounds, each of which may be given once. Of two numbers with a comma between them, the
first is the offset. -/
def boundsRound (b : Below) (given : Bounds) : Parser Bounds := do
  let limit ←
    if given.limit then pure true
    else do
      if ← accepts (word .LIMIT) then
        if ← accepts (word .ALL) then pure false
        else
          discard b.expr
          pure true
      else pure false
  let offset ←
    if given.offset then pure true
    else do
      if ← accepts (word .OFFSET) then
        discard b.expr
        optionally (oneOf [.ROW, .ROWS])
        pure true
      else pure false
  if limit && !offset then
    if ← accepts (sign .comma) then
      discard b.expr
      return ⟨true, true⟩
    else return ⟨limit, offset⟩
  else return ⟨limit, offset⟩

def bounds (b : Below) : Parser Unit := do
  let given ← b.boundsRound ⟨false, false⟩
  discard (b.boundsRound given)

def fetch : Parser Unit := do
  oneOf [.FIRST, .NEXT]
  if !(← accepts (oneOf [.ROW, .ROWS])) then
    value
    optionally (word .PERCENT)
    oneOf [.ROW, .ROWS]
  word .ONLY <|> words [.WITH, .TIES]

def quotedInParentheses : Parser Unit := parenthesized plainString

def resultForm : Parser Unit := do
  if ← accepts (word .XML) then
    if ← accepts (oneOf [.RAW, .PATH]) then
      match ← get with
      | .sign .opening :: _ => quotedInParentheses
      | _ => pure ()
    else oneOf [.AUTO, .EXPLICIT]
    repeated (sign .comma) (do
      if ← accepts (word .BINARY) then word .BASE64
      else if ← accepts (word .ROOT) then quotedInParentheses
      else optionally (oneOf [.ELEMENTS, .TYPE]))
  else if ← accepts (word .JSON) then
    oneOf [.AUTO, .PATH]
    repeated (sign .comma) (do
      if ← accepts (word .ROOT) then quotedInParentheses
      else optionally (oneOf [.INCLUDE_NULL_VALUES, .WITHOUT_ARRAY_WRAPPER]))
  else word .BROWSE

def lock : Parser Unit := do
  oneOf [.UPDATE, .SHARE]
  discard (clause (word .OF) dottedName)
  optionally (word .NOWAIT <|> words [.SKIP, .LOCKED])

def purpose : Parser Bool := do
  if ← accepts (word .FOR) then
    match ← get with
    | .word _ (some .XML) :: _ => resultForm; return false
    | .word _ (some .JSON) :: _ => resultForm; return false
    | .word _ (some .BROWSE) :: _ => resultForm; return false
    | _ => lock; return true
  else return false

def namedQuery (b : Below) : Parser Unit := do
  discard identifier
  columnList
  word .AS
  parenthesized b.query
  discard (clause (word .FROM) identifier)

def ending (b : Below) : Parser Unit := do
  b.ordering
  b.bounds
  discard (clause (word .FETCH) fetch)
  repeating purpose

def queryHere (b : Below) : Parser (Option Expr) := do
  if ← accepts (word .WITH) then
    optionally (word .RECURSIVE)
    discard (items b.namedQuery)
  if ← accepts (word .INSERT) then
    b.insertStatement
    return none
  else if ← accepts (word .UPDATE) then
    b.updateStatement
    return none
  else
    let condition ← b.combination (← b.body)
    b.ending
    return condition

end Below

mutual

/-- An operand within `levels` levels: the primary expression and the operators behind it of more
than the given power. -/
def operand : Nat → Nat → Parser Expr
  | 0, _ => failure
  | levels + 1, power => (⟨operand levels, discard (query levels)⟩ : Below).operandHere power

def query : Nat → Parser (Option Expr)
  | 0 => failure
  | levels + 1 => (⟨operand levels, discard (query levels)⟩ : Below).queryHere

end

def below (levels : Nat) : Below := ⟨operand levels, discard (query levels)⟩

end FilterQuery.Sql
