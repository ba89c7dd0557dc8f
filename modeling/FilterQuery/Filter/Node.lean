import FilterQuery.Text.Basic

/-!
The nodes of a filter, in the order in which they are written: clauses, connectives, parentheses and
the lists of `IN` clauses.
-/

namespace FilterQuery.Filter

inductive Comparator where
  | lt | le | gt | ge | eq | ne | like | inList
deriving DecidableEq, Repr

def Comparator.sql : Comparator → Text
  | lt => "<".toList
  | le => "<=".toList
  | gt => ">".toList
  | ge => ">=".toList
  | eq => "=".toList
  | ne => "!=".toList
  | like => "LIKE".toList
  | inList => "IN".toList

def Comparator.spelling : Comparator → Text
  | lt => "<".toList
  | le => "<=".toList
  | gt => ">".toList
  | ge => ">=".toList
  | eq => "==".toList
  | ne => "!=".toList
  | like => "%%".toList
  | inList => "->".toList

inductive Connective where
  | and | or
deriving DecidableEq, Repr

def Connective.sql : Connective → Text
  | and => "AND".toList
  | or => "OR".toList

def Connective.mark : Connective → Char
  | and => '&'
  | or => '|'

structure Clause where
  column : Text
  comparator : Comparator
  value : Text
deriving DecidableEq, Repr

inductive Node where
  | clause (c : Clause)
  | connective (c : Connective)
  | opening
  | closing
  /-- The list of an `IN` clause: its text between the parentheses, and its items as SQL strings. -/
  | list (raw : Text) (items : List Text)
deriving DecidableEq, Repr

inductive NodeKind where
  | clause | connective | opening | closing | list
deriving DecidableEq, Repr

def Node.kind : Node → NodeKind
  | clause _ => .clause
  | connective _ => .connective
  | opening => .opening
  | closing => .closing
  | list _ _ => .list

def Node.awaitsList : Node → Bool
  | clause c => c.comparator = .inList
  | _ => false

/-!
What can be wrong with a filter. An error is a cause and a position, counted in characters from the
beginning of the text that was typed.
-/

inductive ClausePart where
  | column | comparator | value
deriving DecidableEq, Repr

inductive Cause where
  | comparatorMismatch (found expected : Char)
  | singleLogical (mark : Char)
  | unexpectedCharacter (found : Char)
  | duplicateComparator
  | unterminatedString (quote : Char)
  | unclosedGroup (missing : Nat)
  | unopenedGroup
  | incompleteClause (part : ClausePart)
  | leadingLogical
  | trailingLogical
  | adjacentClauses
  | misplacedNode (node previous : NodeKind)
  | missingInList
  | inListsDisabled
deriving DecidableEq, Repr

structure CompileError where
  cause : Cause
  position : Nat
deriving DecidableEq, Repr

def ClausePart.describe : ClausePart → String
  | column => "column"
  | comparator => "comparator"
  | value => "value"

def NodeKind.describe : NodeKind → String
  | clause => "a clause"
  | connective => "a logical operator"
  | opening => "'('"
  | closing => "')'"
  | list => "an IN list"

def CompileError.message (e : CompileError) : String :=
  let position := e.position
  match e.cause with
  | .comparatorMismatch found expected =>
    s!"unexpected character '{found}' at position {position}, expected '{expected}'"
  | .singleLogical mark =>
    s!"lone '{mark}' at position {position}, logical operators must be doubled"
  | .unexpectedCharacter found => s!"unexpected '{found}' at position {position}"
  | .duplicateComparator => s!"second comparator in one clause at position {position}"
  | .unterminatedString quote =>
    s!"unterminated string opened with {quote} at position {position}"
  | .unclosedGroup missing =>
    s!"missing {missing} closing parenthesis(es) at end of input (position {position})"
  | .unopenedGroup => s!"closing parenthesis without matching opening at position {position}"
  | .incompleteClause part =>
    s!"clause is missing its {part.describe} at position {position}"
  | .leadingLogical =>
    s!"expression cannot start with a logical operator (position {position})"
  | .trailingLogical =>
    s!"expression cannot end with a logical operator (position {position})"
  | .adjacentClauses =>
    s!"two clauses without a logical operator between them at position {position}"
  | .misplacedNode node previous =>
    s!"{node.describe} cannot follow {previous.describe} at position {position}"
  | .missingInList => s!"IN comparator needs a parenthesized list at position {position}"
  | .inListsDisabled => s!"IN lists are disabled, '->' at position {position}"

/-!
Sequences of nodes that grow at the end. A node is only added where the grammar lets it stand after
the one before; depth of parentheses is not looked at here.
-/

/-- Why a node cannot follow the previous one, or cannot come first. -/
def obstacle : Option Node → Node → Option Cause
  | none, .connective _ => some .leadingLogical
  | none, .list _ _ => some (.unexpectedCharacter '(')
  | none, _ => none
  | some previous, node =>
    let misplaced := some (.misplacedNode node.kind previous.kind)
    match node.kind, previous.kind with
    | .clause, .clause => some .adjacentClauses
    | .clause, .list => some .adjacentClauses
    | .clause, .closing => misplaced
    | .connective, .connective => misplaced
    | .connective, .opening => misplaced
    | .opening, .clause => misplaced
    | .opening, .list => misplaced
    | .opening, .closing => misplaced
    | .closing, .connective => misplaced
    | .closing, .opening => misplaced
    | .list, _ => if previous.awaitsList then none else misplaced
    | _, _ => none

def check (nodes : List Node) (node : Node) (position : Nat) : Except CompileError Unit :=
  match obstacle nodes.getLast? node with
  | some cause => .error ⟨cause, position⟩
  | none => .ok ()

def pushing (node : Node) (position : Nat) : ExceptT CompileError (StateM (List Node)) Unit := do
  check (← get) node position
  modify (· ++ [node])

/-- What a push answers, and the sequence that is held after it. -/
def offer (nodes : List Node) (node : Node) (position : Nat) : Except CompileError Unit × List Node :=
  StateT.run (ExceptT.run (pushing node position)) nodes

def push (nodes : List Node) (node : Node) (position : Nat) : Except CompileError (List Node) :=
  match offer nodes node position with
  | (.ok (), grown) => .ok grown
  | (.error e, _) => .error e

def close (nodes : List Node) (position : Nat) : Except CompileError Unit :=
  match nodes.getLast? with
  | some (.connective _) => .error ⟨.trailingLogical, position⟩
  | _ => .ok ()

end FilterQuery.Filter
