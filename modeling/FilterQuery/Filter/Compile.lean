import FilterQuery.Filter.Literal
import FilterQuery.Filter.Scan
import FilterQuery.Value.Bindings

/-!
Merge fields. A clause whose value is `$name` gets the value that is bound to the name, escaped so that
it cannot leave the string it is put into.
-/

namespace FilterQuery.Filter

def escapeChar (c : Char) : Text :=
  match c with
  | '\\' => ['\\', '\\']
  | '\'' => ['\\', '\'']
  | '"' => ['\\', '"']
  | '\x00' => ['\\', '0']
  | '\n' => ['\\', 'n']
  | '\r' => ['\\', 'r']
  | '\x1a' => ['\\', 'Z']
  | _ => [c]

def escapeSpecial (t : Text) : Text := t.flatMap escapeChar

def mergedText (comparator : Comparator) (value : Value) : Text :=
  let escaped := escapeSpecial value.canonicalText
  if comparator = .like then
    if escaped.isEmpty then ['\'', '\''] else wrapLike escaped
  else match value with
    | .text _ => '\'' :: escaped ++ ['\'']
    | _ => escaped

/-- The value of a clause after merging. A field without a binding stays as it is, and lists are
never merged into. -/
def resolve (c : Clause) (fields : Bindings) : Text :=
  if c.comparator = .inList || !isMergeField c.value then c.value
  else match fields.get? (c.value.drop 1) with
    | some value => mergedText c.comparator value
    | none => c.value

/-! Nodes as the text of an SQL condition. Every piece but an opening parenthesis is followed by a space. -/

def renderNode (fields : Bindings) : Node → Text
  | .clause c =>
    let head := c.column ++ ' ' :: c.comparator.sql ++ [' ']
    if c.comparator = .inList then head else head ++ resolve c fields ++ [' ']
  | .connective c => c.sql ++ [' ']
  | .opening => ['(']
  | .closing => [')', ' ']
  | .list _ items => '(' :: Text.join ", ".toList items ++ [')', ' ']

def render (fields : Bindings) (nodes : List Node) : Text :=
  nodes.flatMap (renderNode fields)

/-! From the text of a filter to the text of an SQL condition. -/

structure Options where
  normalization : Normalization := .legacy
  inLists : Bool := true
deriving DecidableEq, Repr

def parse (options : Options) (t : Text) : Except CompileError (List Node) :=
  (normalize options.normalization options.inLists t).scan options.inLists

def compile (options : Options) (fields : Bindings) (t : Text) : Except CompileError Text :=
  (parse options t).map (render fields)

end FilterQuery.Filter
