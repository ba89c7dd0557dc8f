import FilterQuery.Sql.Form

/-!
Reading conditions: operands and the operators between them, which bind by their power.
-/

namespace FilterQuery.Sql

def binaryOp? : Token → Option (BinaryOp × Nat)
  | .word _ (some .AND) => some (.and, powerAnd)
  | .word _ (some .OR) => some (.or, powerOr)
  | .word _ (some .XOR) => some (.unsupported "XOR".toList, powerXor)
  | .sign .eq => some (.compare .eq, powerCompare)
  | .sign .ne => some (.compare .ne, powerCompare)
  | .sign .lt => some (.compare .lt, powerCompare)
  | .sign .le => some (.compare .le, powerCompare)
  | .sign .gt => some (.compare .gt, powerCompare)
  | .sign .ge => some (.compare .ge, powerCompare)
  | .sign .plus => some (.unsupported "+".toList, powerSum)
  | .sign .minus => some (.unsupported "-".toList, powerSum)
  | .sign .star => some (.unsupported "*".toList, powerProduct)
  | .operator op => some (.unsupported op.symbol, op.power)
  | _ => none

def testPower? : Keyword → Option Nat
  | .IN | .BETWEEN => some powerCompare
  | .LIKE | .ILIKE | .RLIKE | .REGEXP | .SIMILAR => some powerLike
  | _ => none

def keywordPower : Keyword → Nat
  | .IS => powerIs
  | .DIV => powerProduct
  | .OPERATOR => powerCompare
  | key => (testPower? key).getD 0

/-- The power of the operator that the tokens begin with; zero if they begin with none. -/
def infixPower : List Token → Nat
  | .word _ (some .NOT) :: .word _ (some key) :: _ => (testPower? key).getD 0
  | .word _ (some .AT) :: .word _ (some .TIME) :: .word _ (some .ZONE) :: _ => powerZone
  | .sign .doubleColon :: _ => powerCast
  | .sign .openingBracket :: _ => powerCast
  | token :: _ =>
    match binaryOp? token with
    | some (_, power) => power
    | none =>
      match token with
      | .word _ (some key) => keywordPower key
      | _ => 0
  | [] => 0

def beginsQuery : List Token → Bool
  | .word _ (some .SELECT) :: _ => true
  | .word _ (some .WITH) :: _ => true
  | _ => false

def nameParts : Nat → Text → Parser Text
  | fuel + 1, _, .sign .period :: .word part _ :: ts => nameParts fuel part ts
  | fuel + 1, _, .sign .period :: .quotedName part :: ts => nameParts fuel part ts
  | fuel + 1, _, .sign .period :: .string '\'' part :: ts => nameParts fuel part ts
  | _, _, .sign .period :: _ => none
  | _, part, ts => some (part, ts)

namespace Below

def column (b : Below) (first : Text) : Parser Expr := fun ts => do
  let (last, ts) ← nameParts ts.length first ts
  match ts with
  | .sign .opening :: _ => unsupported b.call ts
  | _ => return (.column last, ts)

/-- What a name begins. One with an underscore in front may be the character set of a string. -/
def named (b : Below) (first : Text) : Parser Expr := fun ts =>
  if first.head? = some '_' then
    match ts with
    | .string _ _ :: rest => some (.unsupported, rest)
    | .valueless shown :: rest =>
      if isMarked ['X'] shown then some (.unsupported, rest) else b.column first ts
    | _ => b.column first ts
  else b.column first ts

/-- What a word begins. A form that cannot be read to its end leaves the word a name, except for the
few words that are never names. -/
def worded (b : Below) (spelled : Text) (key : Option Keyword) : Parser Expr :=
  match key.bind b.form? with
  | some form =>
    if key ∈ [some .EXISTS, some .INTERVAL, some .TRIM] then form else form <|> b.named spelled
  | none => b.named spelled

def inParentheses (b : Below) : Parser Expr := fun ts => do
  let (e, ts) ←
    if beginsQuery ts then unsupported b.query ts
    else (items b.expr ts).map fun
      | ([e], ts) => (.nested e, ts)
      | (_, ts) => (.unsupported, ts)
  let (_, ts) ← sign .closing ts
  match ts with
  | .sign .period :: ts => unsupported name ts
  | _ => return (e, ts)

def inBraces (b : Below) : Parser Unit := do
  word .FN
  dottedName
  b.call
  sign .closingBrace

def untyped (b : Below) : Parser Expr := fun
  | .word spelled key :: ts => b.worded spelled key ts
  | .quotedName n :: ts => b.named n ts
  | .sign .minus :: ts => (b.operand powerProduct ts).map fun (e, ts) => (.unary .minus e, ts)
  | .sign .plus :: ts => (b.operand powerProduct ts).map fun (e, ts) => (.unary .plus e, ts)
  | .sign .opening :: ts => b.inParentheses ts
  | .sign .openingBracket :: ts => unsupported b.bracketed ts
  | .sign .openingBrace :: ts => unsupported b.inBraces ts
  | ts => (literal ts).map fun (l, ts) => (.literal l, ts)

def typedLiteral (b : Below) : Parser Unit := do
  match ← typeName with
  | .standard => plainString
  | .interval => b.interval
  | .custom => failure

def primary (b : Below) : Parser Expr :=
  unsupported b.typedLiteral <|> (do
    let e ← b.untyped
    if ← accepts (word .COLLATE) then unsupported dottedName else return e)

def isTest (b : Below) (left : Expr) : Parser Expr := do
  let negated ← accepts (word .NOT)
  if ← accepts (word .NULL) then return .isNull negated left
  else if ← accepts (oneOf [.TRUE, .FALSE, .UNKNOWN]) then return .unsupported
  else unsupported (do words [.DISTINCT, .FROM]; b.expr)

/-- The escape character that may follow a pattern. It has no effect. -/
def escapeClause : Parser Unit := discard (clause (word .ESCAPE) plainString)

def membership (b : Below) (negated : Bool) (left : Expr) : Parser Expr := fun ts =>
  match ts with
  | .word _ (some .UNNEST) :: ts => unsupported (parenthesized b.expr) ts
  | _ => do
    let (_, ts) ← sign .opening ts
    let (e, ts) ←
      if beginsQuery ts then unsupported b.query ts
      else (items b.expr ts).map fun (list, ts) => (.inList negated left list, ts)
    let (_, ts) ← sign .closing ts
    return (e, ts)

def test (b : Below) (negated : Bool) (left : Expr) : Parser Expr := fun
  | .word _ (some .IN) :: ts => b.membership negated left ts
  | .word _ (some .LIKE) :: ts => (do
    optionally (word .ANY)
    let pattern ← b.operand powerLike
    escapeClause
    return .like negated left pattern : Parser Expr) ts
  | .word _ (some .BETWEEN) :: ts => (unsupported do
    discard (b.operand powerCompare)
    word .AND
    b.operand powerCompare) ts
  | .word _ (some .ILIKE) :: ts => (unsupported do
    optionally (word .ANY)
    discard (b.operand powerLike)
    escapeClause) ts
  | .word _ (some .SIMILAR) :: ts => (unsupported do
    word .TO
    discard (b.operand powerLike)
    escapeClause) ts
  | .word _ (some .REGEXP) :: ts => (unsupported do
    optionally (word .RLIKE)
    b.operand powerLike) ts
  | .word _ (some .RLIKE) :: ts => unsupported (b.operand powerLike) ts
  | _ => none

def quantified (b : Below) (power : Nat) : Parser Unit := fun ts => do
  let (_, rest) ← sign .opening ts
  if beginsQuery rest then (discard (b.operand power) : Parser Unit) ts
  else parenthesized (discard (b.operand power)) ts

def rightOperand (b : Below) (left : Expr) (op : BinaryOp) (power : Nat) : Parser Expr := do
  if ← accepts (oneOf [.ANY, .ALL, .SOME]) then
    match op with
    | .compare _ => unsupported (b.quantified power)
    | _ => failure
  else return .binary op left (← b.operand power)

def index (b : Below) : Parser Unit := do
  discard b.expr
  sign .closingBracket

def indices (b : Below) : Parser Unit := do
  b.index
  repeated (sign .openingBracket) b.index

def infixed (b : Below) (left : Expr) : Parser Expr := fun
  | .word _ (some .IS) :: ts => b.isTest left ts
  | .word _ (some .NOT) :: ts => b.test true left ts
  | .word _ (some .DIV) :: ts =>
    (b.expr ts).map fun (right, ts) => (.binary (.unsupported "DIV".toList) left right, ts)
  | .word _ (some .AT) :: ts => unsupported (do words [.TIME, .ZONE]; b.operand powerZone) ts
  | .sign .doubleColon :: ts => unsupported typeName ts
  | .sign .openingBracket :: ts => unsupported b.indices ts
  | token :: ts =>
    match binaryOp? token with
    | some (op, power) => b.rightOperand left op power ts
    | none => b.test false left (token :: ts)
  | [] => none

/-- Takes in operators as long as their power is greater than `power`. -/
def climb (b : Below) (power : Nat) : Nat → Expr → Parser Expr
  | 0, left => pure left
  | fuel + 1, left => do
    if infixPower (← get) ≤ power then return left
    else b.climb power fuel (← b.infixed left)

def operandHere (b : Below) (power : Nat) : Parser Expr := do
  let e ← b.primary
  b.climb power (← get).length e

end Below

end FilterQuery.Sql
