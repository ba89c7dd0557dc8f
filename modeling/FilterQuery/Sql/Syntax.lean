import FilterQuery.Sql.Keyword
import FilterQuery.Text.Basic

/-!
Operators, tokens and conditions. An operand takes in the operators of greater power behind it.
-/

namespace FilterQuery.Sql

def powerOr : Nat := 5
def powerAnd : Nat := 10
def powerNot : Nat := 15
def powerArrow : Nat := 16
def powerIs : Nat := 17
def powerLike : Nat := 19
def powerCompare : Nat := 20
def powerPipe : Nat := 21
def powerCaret : Nat := 22
def powerAmpersand : Nat := 23
def powerXor : Nat := 24
def powerSum : Nat := 30
def powerProduct : Nat := 40
def powerZone : Nat := 41
def powerCast : Nat := 50

/-- An operator that can be written between two operands but not evaluated. -/
structure Operator where
  symbol : Text
  power : Nat
deriving DecidableEq, Repr

namespace Operator

def slash : Operator := ⟨"/".toList, powerProduct⟩
def percent : Operator := ⟨"%".toList, powerProduct⟩
def concat : Operator := ⟨"||".toList, powerProduct⟩
def ampersand : Operator := ⟨"&".toList, powerAmpersand⟩
def caret : Operator := ⟨"^".toList, powerCaret⟩
def pipe : Operator := ⟨"|".toList, powerPipe⟩

def comparison (symbol : String) : Operator := ⟨symbol.toList, powerCompare⟩

def arrow (symbol : String) : Operator := ⟨symbol.toList, powerArrow⟩

end Operator

/-! The tokens of SQL texts. -/

inductive Sign where
  | opening | closing | openingBracket | closingBracket | openingBrace | closingBrace
  | comma | period | semicolon | colon | doubleColon | atSign
  | plus | minus | star
  | eq | ne | lt | le | gt | ge
  /-- The sign `=>` between the name of an argument and its value. -/
  | fatArrow
  /-- Two angle brackets that close together. -/
  | doubleGt
  /-- Anything that can be written but stands in no statement. -/
  | unused
deriving DecidableEq, Repr

inductive Token where
  | word (spelled : Text) (keyword : Option Keyword)
  /-- A name in backticks. -/
  | quotedName (name : Text)
  | number (digits : Text)
  | string (quote : Char) (content : Text)
  /-- A literal without a value: parameters, and strings of other character sets. -/
  | valueless (shown : Text)
  | operator (op : Operator)
  | sign (s : Sign)
deriving DecidableEq

namespace Token

def ofWord (w : Text) : Token := .word w (Keyword.ofWord? w)

/-- The signs and operators and how they are written, longer ones first. -/
def spellings : List (Text × Token) :=
  [("!~~*".toList, .operator (.comparison "!~~*")), ("!~~".toList, .operator (.comparison "!~~")),
    ("!~*".toList, .operator (.comparison "!~*")), ("~~*".toList, .operator (.comparison "~~*")),
    ("<=>".toList, .operator (.comparison "<=>")), ("->>".toList, .operator (.arrow "->>")),
    ("||/".toList, .sign .unused),
    ("!~".toList, .operator (.comparison "!~")), ("~~".toList, .operator (.comparison "~~")),
    ("~*".toList, .operator (.comparison "~*")), ("->".toList, .operator (.arrow "->")),
    ("<@".toList, .operator (.arrow "<@")), ("||".toList, .operator .concat),
    ("==".toList, .sign .eq), ("!=".toList, .sign .ne), ("<>".toList, .sign .ne),
    ("<=".toList, .sign .le), (">=".toList, .sign .ge), ("=>".toList, .sign .fatArrow),
    (">>".toList, .sign .doubleGt), ("::".toList, .sign .doubleColon),
    (":=".toList, .sign .unused), ("<<".toList, .sign .unused), ("&&".toList, .sign .unused),
    ("^@".toList, .sign .unused), ("|/".toList, .sign .unused), ("!!".toList, .sign .unused),
    ("(".toList, .sign .opening), (")".toList, .sign .closing), (",".toList, .sign .comma),
    (";".toList, .sign .semicolon), (":".toList, .sign .colon), ("=".toList, .sign .eq),
    ("<".toList, .sign .lt), (">".toList, .sign .gt), ("+".toList, .sign .plus),
    ("-".toList, .sign .minus), ("*".toList, .sign .star), ("/".toList, .operator .slash),
    ("%".toList, .operator .percent), ("&".toList, .operator .ampersand),
    ("^".toList, .operator .caret), ("|".toList, .operator .pipe),
    ("~".toList, .operator (.comparison "~")), ("[".toList, .sign .openingBracket),
    ("]".toList, .sign .closingBracket), ("\x7b".toList, .sign .openingBrace),
    ("\x7d".toList, .sign .closingBrace)]

end Token

/-! Conditions as trees. -/

inductive Literal where
  | null
  | boolean (b : Bool)
  | number (digits : Text)
  | text (t : Text)
  /-- A literal that has no value, as it is shown. -/
  | valueless (shown : Text)
deriving DecidableEq, Repr

inductive UnaryOp where
  | plus | minus | not
deriving DecidableEq, Repr

inductive Comparison where
  | eq | ne | lt | le | gt | ge
deriving DecidableEq, Repr

inductive BinaryOp where
  | and
  | or
  | compare (c : Comparison)
  /-- An operator that can be written but not evaluated. -/
  | unsupported (symbol : Text)
deriving DecidableEq, Repr

inductive Expr where
  | column (name : Text)
  | literal (l : Literal)
  /-- A condition in parentheses. -/
  | nested (inner : Expr)
  | unary (op : UnaryOp) (operand : Expr)
  | binary (op : BinaryOp) (left right : Expr)
  | like (negated : Bool) (operand pattern : Expr)
  | inList (negated : Bool) (operand : Expr) (items : List Expr)
  | isNull (negated : Bool) (operand : Expr)
  /-- Any form that can be written but not evaluated. -/
  | unsupported
deriving Repr

end FilterQuery.Sql
