import FilterQuery.Text.Basic

/-!
Strings inside a text. A string runs from a quote to the next quote of the same kind; a quote after an
odd run of backslashes is an ordinary character, inside a string and outside.
-/

namespace FilterQuery.Text

def isQuote (c : Char) : Bool := c = '\'' || c = '"'

def quoted? : Text → Option Text
  | [] => none
  | first :: rest => if isQuote first && rest.getLast? = some first then some rest.dropLast else none

def stripQuotes (t : Text) : Text := (quoted? t).getD t

/-- Whether a character that follows `before` is escaped: an odd run of backslashes ends there. -/
def isEscapedAfter (before : Text) : Bool :=
  (before.reverse.takeWhile (· = '\\')).length % 2 = 1

/-- Where a reader stands between two characters: the quote of the string it is in, if any, and whether
the next character is escaped. -/
structure Quoting where
  opened : Option Char := none
  escaped : Bool := false
deriving DecidableEq, Repr

namespace Quoting

def after (q : Quoting) (c : Char) : Quoting where
  opened :=
    match q.opened with
    | some quote => if c = quote && !q.escaped then none else some quote
    | none => if isQuote c && !q.escaped then some c else none
  escaped := c = '\\' && !q.escaped

def holds (q : Quoting) (c : Char) : Bool :=
  q.opened.isSome || (isQuote c && !q.escaped)

def afterText (q : Quoting) (t : Text) : Quoting := t.foldl after q

theorem afterText_append (q : Quoting) (s t : Text) :
    q.afterText (s ++ t) = (q.afterText s).afterText t := by
  simp [afterText, List.foldl_append]

theorem escaped_afterText (t : Text) :
    (({} : Quoting).afterText t).escaped = isEscapedAfter t := by
  rw [← t.reverse_reverse]
  induction t.reverse with
  | nil => rfl
  | cons c rest ih =>
    rw [List.reverse_cons, afterText_append]
    by_cases slash : c = '\\'
    · subst slash
      have : (({} : Quoting).afterText rest.reverse).escaped = isEscapedAfter rest.reverse := ih
      simp only [isEscapedAfter, afterText, List.foldl_cons, List.foldl_nil, after,
        List.reverse_append, List.reverse_cons, List.reverse_nil, List.nil_append,
        List.singleton_append, List.reverse_reverse] at this ⊢
      rw [this]
      simp only [List.takeWhile_cons]
      grind
    · simp [afterText, after, isEscapedAfter, slash]

end Quoting

end FilterQuery.Text
