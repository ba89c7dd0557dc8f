import FilterQuery.Filter.Literal
import FilterQuery.Filter.Node
import FilterQuery.Filter.Source

/-!
Reading a filter into its nodes. A scanner takes the characters one after the other, with one character
of look-ahead; it holds the nodes read so far and the clause under construction. Errors carry the index
of the character at fault, and `Source.locate` turns indices into positions of the typed text.
-/

namespace FilterQuery.Filter

open Text (Quoting isQuote)

/-- The clause under construction. It begins at the index `start`. -/
inductive Draft where
  | idle
  | column (start : Nat) (name : Text)
  | value (start : Nat) (name : Text) (comparator : Comparator) (typed : Text)
  /-- Inside the list of an `IN` clause, which was opened at the index `opened`. -/
  | list (start : Nat) (name : Text) (opened : Nat) (raw : Text)
deriving DecidableEq, Repr

structure Scanner where
  nodes : List Node := []
  /-- Parentheses that are still open. -/
  depth : Nat := 0
  draft : Draft := .idle
  /-- The next character is the second one of an operator that has been read already. -/
  halfway : Bool := false
  quoting : Quoting := {}
  /-- The index of the last quote that opened a string. -/
  quoteStart : Nat := 0
  index : Nat := 0
deriving DecidableEq, Repr

namespace Scanner

def fail {α : Type} (cause : Cause) (index : Nat) : Except CompileError α := .error ⟨cause, index⟩

def push (s : Scanner) (node : Node) (index : Nat) : Except CompileError Scanner := do
  return { s with nodes := ← Filter.push s.nodes node index }

def accept (s : Scanner) (c : Char) : Scanner :=
  match s.draft with
  | .idle => { s with draft := .column s.index [c] }
  | .column start name => { s with draft := .column start (name ++ [c]) }
  | .value start name comparator typed =>
    { s with draft := .value start name comparator (typed ++ [c]) }
  | .list start name opened raw => { s with draft := .list start name opened (raw ++ [c]) }

def endClause (s : Scanner) : Except CompileError Scanner :=
  match s.draft with
  | .idle => .ok s
  | .column _ _ => fail (.incompleteClause .comparator) s.index
  | .value start name comparator typed =>
    if typed.isEmpty then fail (.incompleteClause .value) s.index
    else if comparator = .inList then fail .missingInList start
    else
      let clause := ⟨name, comparator, finalizeValue comparator typed⟩
      { s with draft := .idle }.push (.clause clause) start
  | .list _ _ _ _ => .ok s

def openGroup (s : Scanner) : Except CompileError Scanner :=
  match s.draft with
  | .idle => do
    let s ← s.push .opening s.index
    return { s with depth := s.depth + 1 }
  | .value start name .inList [] => .ok { s with draft := .list start name s.index [] }
  | _ => fail (.unexpectedCharacter '(') s.index

def closeGroup (s : Scanner) : Except CompileError Scanner := do
  if s.depth = 0 then fail .unopenedGroup s.index
  let s ← s.endClause
  let s ← s.push .closing s.index
  return { s with depth := s.depth - 1 }

def closeList (s : Scanner) (start : Nat) (name : Text) (opened : Nat) (raw : Text) :
    Except CompileError Scanner := do
  if raw.isEmpty then fail (.incompleteClause .value) s.index
  let s ← { s with draft := .idle }.push (.clause ⟨name, .inList, raw⟩) start
  s.push (.list raw ((splitItems raw).map requote)) opened

def pair (comparator : Comparator) (c expected : Char) (next : Option Char) (index : Nat) :
    Except CompileError Comparator :=
  match next with
  | none => fail (.unexpectedCharacter c) index
  | some found =>
    if found = expected then .ok comparator
    else fail (.comparatorMismatch found expected) (index + 1)

def comparatorAt (lists : Bool) (c : Char) (next : Option Char) (index : Nat) :
    Except CompileError Comparator :=
  match c with
  | '<' => .ok (if next = some '=' then .le else .lt)
  | '>' => .ok (if next = some '=' then .ge else .gt)
  | '=' => pair .eq c '=' next index
  | '!' => pair .ne c '=' next index
  | '%' => pair .like c '%' next index
  | _ => do
    let comparator ← pair .inList c '>' next index
    if lists then return comparator else fail .inListsDisabled index

def readComparator (lists : Bool) (s : Scanner) (c : Char) (next : Option Char) :
    Except CompileError Scanner :=
  match s.draft with
  | .column start name => do
    let comparator ← comparatorAt lists c next s.index
    return { s with
      draft := .value start name comparator []
      halfway := comparator.spelling.length = 2 }
  | .value _ _ _ [] => fail (.incompleteClause .value) s.index
  | .value _ _ _ (_ :: _) => fail .duplicateComparator s.index
  | _ => fail (.incompleteClause .column) s.index

def readConnective (s : Scanner) (connective : Connective) (next : Option Char) :
    Except CompileError Scanner := do
  if next ≠ some connective.mark then fail (.singleLogical connective.mark) s.index
  let s ← s.endClause
  let s ← s.push (.connective connective) s.index
  return { s with halfway := true }

def startsNegative (s : Scanner) (next : Option Char) : Bool :=
  match s.draft with
  | .value _ _ _ [] => next.any Char.isDigit
  | _ => false

def readPlain (lists : Bool) (s : Scanner) (c : Char) (next : Option Char) :
    Except CompileError Scanner :=
  match c with
  | '(' => s.openGroup
  | ')' => s.closeGroup
  | '&' => s.readConnective .and next
  | '|' => s.readConnective .or next
  | '-' => if s.startsNegative next then .ok (s.accept c) else s.readComparator lists c next
  | '<' | '>' | '=' | '!' | '%' => s.readComparator lists c next
  | _ => .ok (s.accept c)

def read (lists : Bool) (s : Scanner) (c : Char) (next : Option Char) :
    Except CompileError Scanner :=
  if s.halfway then .ok s
  else match s.draft with
    | .list start name opened raw =>
      if s.quoting.opened.isNone && c = ')' then s.closeList start name opened raw
      else .ok (s.accept c)
    | _ => if s.quoting.holds c then .ok (s.accept c) else s.readPlain lists c next

/-- One character. An operator of two characters is read at its first; the second one is passed over. -/
def step (lists : Bool) (s : Scanner) (c : Char) (next : Option Char) :
    Except CompileError Scanner := do
  let after ← s.read lists c next
  return { after with
    halfway := !s.halfway && after.halfway
    quoting := s.quoting.after c
    quoteStart := if s.quoting.opened.isNone && s.quoting.holds c then s.index else s.quoteStart
    index := s.index + 1 }

def run (lists : Bool) (beyond : Option Char) (s : Scanner) : Text → Except CompileError Scanner
  | [] => .ok s
  | c :: rest => do
    let s ← s.step lists c (rest.head?.or beyond)
    run lists beyond s rest

def finish (s : Scanner) : Except CompileError (List Node) := do
  if let some quote := s.quoting.opened then fail (.unterminatedString quote) s.quoteStart
  if let .list _ _ _ _ := s.draft then fail (.unclosedGroup (s.depth + 1)) s.index
  let s ← s.endClause
  if s.depth > 0 then fail (.unclosedGroup s.depth) s.index
  close s.nodes s.index
  return s.nodes

end Scanner

def scan (lists : Bool) (t : Text) : Except CompileError (List Node) := do
  let s ← Scanner.run lists none {} t
  s.finish

/-- The error at its typed position. What is missing at the end is reported at the end of the text. -/
def Source.locate (source : Source) (e : CompileError) : CompileError :=
  match e.cause with
  | .unclosedGroup _ | .trailingLogical => { e with position := source.stop }
  | _ => { e with position := source.position e.position }

def Source.scan (source : Source) (lists : Bool) : Except CompileError (List Node) :=
  (Filter.scan lists source.chars).mapError source.locate

end FilterQuery.Filter
