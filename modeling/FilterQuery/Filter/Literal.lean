import FilterQuery.Decimal.Reading
import FilterQuery.Filter.Node
import FilterQuery.Text.Letter
import FilterQuery.Text.Quoting
import FilterQuery.Value.Basic

/-!
The right-hand sides of clauses, from what was typed to what SQL is given: bare numbers are put in
their shortest form, `LIKE` values are wrapped in wildcards, the items of lists become strings.
-/

namespace FilterQuery.Filter

open Text (Quoting isQuote isLetter isLetterOrNumeral stripQuotes)

def isMergeField : Text → Bool
  | '$' :: first :: rest =>
    (isLetter first || first = '_') && rest.all fun c => isLetterOrNumeral c || c = '_'
  | _ => false

/-- Puts a backslash before each apostrophe that has none; `escaped` is said of the first character. -/
def escapeApostrophesFrom (escaped : Bool) : Text → Text
  | [] => []
  | c :: rest =>
    let tail := c :: escapeApostrophesFrom (c = '\\' && !escaped) rest
    if c = '\'' && !escaped then '\\' :: tail else tail

def escapeApostrophes (t : Text) : Text := escapeApostrophesFrom false t

def splitItemsFrom (q : Quoting) : Text → List Text
  | [] => [[]]
  | c :: rest =>
    let items := splitItemsFrom (q.after c) rest
    if q.opened.isNone && c = ',' then [] :: items
    else match items with
      | [] => [[c]]
      | item :: items => (c :: item) :: items

def splitItems (raw : Text) : List Text := splitItemsFrom {} raw

def requote (item : Text) : Text := '\'' :: escapeApostrophes (stripQuotes item) ++ ['\'']

def looksNumeric (t : Text) : Bool :=
  let digits := (Decimal.takeSign t).2
  digits.all (fun c => c.isDigit || c = '.') && digits.any Char.isDigit && digits.count '.' ≤ 1

/-- The shortest form of a bare number or truth value. A number that does not fit stays as typed, and
so does every other word. -/
def coerceBare (raw : Text) : Text :=
  let number :=
    if !looksNumeric raw then none
    else if raw.contains '.' then (Decimal.float? raw).map Value.floatLayout.text
    else (Decimal.integer? raw).map fun i => Text.ofInt i.toInt
  match number with
  | some t => t
  | none =>
    if Text.sameIgnoringCase raw "true".toList then ['1']
    else if Text.sameIgnoringCase raw "false".toList then ['0']
    else raw

def wrapLike (content : Text) : Text := '\'' :: '%' :: content ++ ['%', '\'']

def finalizeValue (comparator : Comparator) (raw : Text) : Text :=
  if isMergeField raw then raw
  else if comparator = .like then
    let content := stripQuotes raw
    if content.isEmpty then raw else wrapLike (escapeApostrophes content)
  else if raw.head?.any isQuote then raw
  else coerceBare raw

end FilterQuery.Filter
