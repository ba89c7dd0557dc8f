import FilterQuery.Sql.Syntax
import FilterQuery.Text.Letter

/-!
SQL texts as sequences of tokens. Blanks and comments only divide tokens. A text cannot be read if a
string, a quoted name or a comment in it has no end.
-/

namespace FilterQuery.Sql

open Text (isLetter isNumeral)

/-- Blanks between tokens. Those beyond ASCII count as letters of names. -/
def isSpace (c : Char) : Bool := c = ' ' || ('\t' ≤ c && c ≤ '\r')

def isNameStart (c : Char) : Bool :=
  isLetter c || c = '_' || c = '$' || (0x80 ≤ c.toNat && c.toNat ≤ 0xFFFF)

def isNamePart (c : Char) : Bool := isNameStart c || c.isDigit || c = '@'

def unescape (c : Char) : Char :=
  match c with
  | '0' => '\x00'
  | 'a' => '\x07'
  | 'b' => '\x08'
  | 'f' => '\x0c'
  | 'n' => '\n'
  | 'r' => '\r'
  | 't' => '\t'
  | 'Z' => '\x1a'
  | _ => c

/-- The content of a string up to its closing quote, and the text behind it. A doubled quote stands
for one; backslashes escape if `escapes` says so. -/
def readString (quote : Char) (escapes : Bool) : Text → Option (Text × Text)
  | [] => none
  | [c] => if c = quote then some ([], []) else none
  | c :: d :: rest =>
    if c = quote then
      if d = quote then (readString quote escapes rest).map fun (s, rest) => (quote :: s, rest)
      else some ([], d :: rest)
    else if escapes && c = '\\' then
      (readString quote escapes rest).map fun (s, rest) => (unescape d :: s, rest)
    else (readString quote escapes (d :: rest)).map fun (s, rest) => (c :: s, rest)

def skipLine (t : Text) : Text := (t.dropWhile (· ≠ '\n')).drop 1

/-- The text behind a block comment. Comments nest; `last` is the character read before. -/
def skipBlock (depth : Nat) (last : Char) : Text → Option Text
  | [] => none
  | c :: rest =>
    if last = '/' && c = '*' then skipBlock (depth + 1) c rest
    else if last = '*' && c = '/' then
      if depth = 0 then some rest else skipBlock (depth - 1) c rest
    else skipBlock depth c rest

def readExponent (t : Text) : Option (Text × Text) :=
  match t with
  | mark :: rest =>
    if mark = 'e' || mark = 'E' then
      let (sign, digits) := match rest with
        | '+' :: more => (['+'], more)
        | '-' :: more => (['-'], more)
        | _ => ([], rest)
      if digits.head?.any Char.isDigit then
        some (mark :: sign ++ digits.takeWhile Char.isDigit, digits.dropWhile Char.isDigit)
      else none
    else none
  | [] => none

def readNumber (t : Text) : Token × Text :=
  let whole := t.takeWhile Char.isDigit
  let rest := t.dropWhile Char.isDigit
  match whole, rest with
  | ['0'], 'x' :: rest =>
    let isHex := fun (c : Char) => c.isDigit || ('a' ≤ c.toLower && c.toLower ≤ 'f')
    (.valueless ("X'".toList ++ rest.takeWhile isHex ++ ['\'']), rest.dropWhile isHex)
  | _, _ =>
    let (digits, rest) := match rest with
      | '.' :: more => (whole ++ '.' :: more.takeWhile Char.isDigit, more.dropWhile Char.isDigit)
      | _ => (whole, rest)
    if digits = ['.'] then (.sign .period, rest)
    else match readExponent rest with
      | some (power, rest) =>
        (.number (digits ++ power), if rest.head? = some 'L' then rest.drop 1 else rest)
      | none =>
        let letters := rest.takeWhile isNamePart
        if letters.isEmpty || rest.head?.any (fun c => c = 'e' || c = 'E') then
          (.number digits, rest)
        else (.ofWord (digits ++ letters), rest.dropWhile isNamePart)

def readWord (t : Text) : Token × Text :=
  (.ofWord (t.takeWhile isNamePart), t.dropWhile isNamePart)

/-- What the text behind an at sign makes of it. Almost any character may be the first of a name behind
one or two of them. -/
def readAt : Text → Token × Text
  | [] => (.sign .atSign, [])
  | '>' :: rest => (.operator (.arrow "@>"), rest)
  | '?' :: rest => (.operator (.arrow "@?"), rest)
  | ['@'] => (.operator (.arrow "@@"), [])
  | '@' :: c :: rest =>
    if c = ' ' then (.operator (.arrow "@@"), c :: rest)
    else (.ofWord ('@' :: '@' :: c :: rest.takeWhile isNamePart), rest.dropWhile isNamePart)
  | c :: rest =>
    if c = ' ' || c = '\'' || c = '"' || c = '`' then (.sign .atSign, c :: rest)
    else (.ofWord ('@' :: c :: rest.takeWhile isNamePart), rest.dropWhile isNamePart)

def readSign (t : Text) : Token × Text :=
  match Token.spellings.find? fun entry => entry.1.isPrefixOf t with
  | some (spelled, token) => (token, t.drop spelled.length)
  | none => (.sign .unused, t.drop 1)

/-- A string of another character set or base, which is shown with its mark and has no value. -/
def readMarked (mark quote : Char) (escapes : Bool) (t : Text) : Option (Token × Text) :=
  (readString quote escapes t).map fun (s, rest) =>
    (.valueless (mark :: quote :: s ++ [quote]), rest)

def readToken : Text → Option (Token × Text)
  | [] => none
  | 'N' :: '\'' :: rest => readMarked 'N' '\'' true rest
  | 'n' :: '\'' :: rest => readMarked 'N' '\'' true rest
  | 'X' :: '\'' :: rest => readMarked 'X' '\'' true rest
  | 'x' :: '\'' :: rest => readMarked 'X' '\'' true rest
  | 'B' :: '\'' :: rest => readMarked 'B' '\'' false rest
  | 'b' :: '\'' :: rest => readMarked 'B' '\'' false rest
  | 'B' :: '"' :: rest => readMarked 'B' '"' false rest
  | 'b' :: '"' :: rest => readMarked 'B' '"' false rest
  | 'E' :: '\'' :: rest => (readString '\'' true rest).map fun (_, rest) => (.sign .unused, rest)
  | 'e' :: '\'' :: rest => (readString '\'' true rest).map fun (_, rest) => (.sign .unused, rest)
  | '`' :: rest => (readString '`' false rest).map fun (s, rest) => (.quotedName s, rest)
  | '\'' :: rest => (readString '\'' true rest).map fun (s, rest) => (.string '\'' s, rest)
  | '"' :: rest => (readString '"' true rest).map fun (s, rest) => (.string '"' s, rest)
  | '?' :: rest =>
    some (.valueless ('?' :: rest.takeWhile isNumeral), rest.dropWhile isNumeral)
  | '@' :: rest => some (readAt rest)
  | c :: rest =>
    if isNameStart c then some (readWord (c :: rest))
    else if c.isDigit || c = '.' then some (readNumber (c :: rest))
    else some (readSign (c :: rest))

/-- The tokens of a text, read in at most `fuel` steps; each step takes off at least one character. -/
def tokensWithin : Nat → Text → Option (List Token)
  | _, [] => some []
  | 0, _ :: _ => none
  | fuel + 1, c :: rest =>
    if isSpace c then tokensWithin fuel rest
    else if c = '#' then tokensWithin fuel (skipLine rest)
    else match c, rest with
      | '-', '-' :: rest => tokensWithin fuel (skipLine rest)
      | '/', '*' :: rest => (skipBlock 0 ' ' rest).bind (tokensWithin fuel)
      | _, _ => do
        let (token, rest) ← readToken (c :: rest)
        return token :: (← tokensWithin fuel rest)

def tokens? (t : Text) : Option (List Token) := tokensWithin t.length t

end FilterQuery.Sql
