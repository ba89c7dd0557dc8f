import FilterQuery.Filter.Compile
import FilterQuery.Proofs.Letters
import FilterQuery.Proofs.Meaning
import FilterQuery.Proofs.Trimming
import FilterQuery.Sql.Lexer

/-!
The tokens of rendered filters. A text is read piece by piece, where the reading of a piece depends on
no more of what follows than its first character.
-/

namespace FilterQuery.Sql

open Text (isQuote isAlpha_iff isDigit_iff isDigit_cases isAlpha_of_isDigit isLetter_of_isAlpha
  isLetter_of_isDigit takeWhile_append_stop)

/-- Before `rest`, the text is read into the tokens. As much fuel is left as `rest` needs. -/
def Lexes (t : Text) (tokens : List Token) (rest : Text) : Prop :=
  ∀ fuel, (t ++ rest).length ≤ fuel → ∃ left, rest.length ≤ left ∧
    tokensWithin fuel (t ++ rest) = (tokensWithin left rest).map (tokens ++ ·)

theorem lexes_nil (rest : Text) : Lexes [] [] rest := by
  intro fuel enough
  exact ⟨fuel, enough, by simp⟩

theorem Lexes.append {s t : Text} {first second : List Token} {rest : Text}
    (before : Lexes s first (t ++ rest)) (after : Lexes t second rest) :
    Lexes (s ++ t) (first ++ second) rest := by
  intro fuel enough
  rw [List.append_assoc] at enough ⊢
  obtain ⟨middle, remains, reached⟩ := before fuel enough
  obtain ⟨left, remains, done⟩ := after middle remains
  refine ⟨left, remains, ?_⟩
  rw [reached, done, Option.map_map]
  congr 1
  funext tokens
  simp

theorem Lexes.tokens? {t : Text} {tokens : List Token} (lexes : Lexes t tokens []) :
    tokens? t = some tokens := by
  obtain ⟨left, _, done⟩ := lexes t.length (by simp)
  rw [List.append_nil] at done
  rw [Sql.tokens?, done]
  cases left <;> simp [tokensWithin]

theorem lexes_space (rest : Text) : Lexes [' '] [] rest := by
  intro fuel enough
  cases fuel with
  | zero => simp at enough
  | succ fuel =>
    refine ⟨fuel, by simpa using enough, ?_⟩
    have skipped : tokensWithin (fuel + 1) (' ' :: rest) = tokensWithin fuel rest := rfl
    simp [skipped]

/-- A token and no blank or comment begins with the character before `t`. -/
structure BeginsToken (c : Char) (t : Text) : Prop where
  solid : isSpace c = false
  hash : c ≠ '#'
  minus : c = '-' → t.head? ≠ some '-'
  slash : c ≠ '/'

theorem tokensWithin_readToken {fuel : Nat} {c : Char} {t : Text} (begins : BeginsToken c t) :
    tokensWithin (fuel + 1) (c :: t) =
      (readToken (c :: t)).bind fun found => (tokensWithin fuel found.2).map (found.1 :: ·) := by
  rw [tokensWithin, if_neg (by simp [begins.solid]), if_neg begins.hash]
  · cases readToken (c :: t) with
    | none => rfl
    | some found =>
      show (tokensWithin fuel found.2 >>= fun tokens => some (found.1 :: tokens)) =
        (tokensWithin fuel found.2).map (found.1 :: ·)
      cases tokensWithin fuel found.2 <;> rfl
  · rintro rest same rfl
    exact begins.minus same rfl
  · exact fun _ same => absurd same begins.slash

theorem lexes_token {c : Char} {t rest : Text} {token : Token}
    (begins : BeginsToken c (t ++ rest))
    (read : readToken (c :: (t ++ rest)) = some (token, rest)) : Lexes (c :: t) [token] rest := by
  intro fuel enough
  cases fuel with
  | zero => simp at enough
  | succ fuel =>
    refine ⟨fuel, ?_, ?_⟩
    · simp only [List.cons_append, List.length_cons, List.length_append] at enough
      omega
    · rw [List.cons_append, tokensWithin_readToken begins, read]
      rfl

def isTokenStart (c : Char) : Bool := !isSpace c && c ≠ '#' && c ≠ '-' && c ≠ '/'

theorem lexes_plain {c : Char} {t rest : Text} {token : Token} (start : isTokenStart c = true)
    (read : readToken (c :: (t ++ rest)) = some (token, rest)) : Lexes (c :: t) [token] rest := by
  simp only [isTokenStart, Bool.and_eq_true, Bool.not_eq_true', decide_eq_true_eq] at start
  obtain ⟨⟨⟨solid, hash⟩, minus⟩, slash⟩ := start
  exact lexes_token ⟨solid, hash, fun same => absurd same minus, slash⟩ read

/-! Words. -/

theorem isNameStart_of_isAlpha {c : Char} (begins : (c.isAlpha || c = '_') = true) :
    isNameStart c = true := by
  simp only [Bool.or_eq_true, decide_eq_true_eq] at begins
  rcases begins with alpha | rfl
  · simp [isNameStart, isLetter_of_isAlpha alpha]
  · rfl

theorem isNamePart_of_isAlphanum {c : Char} (part : (c.isAlphanum || c = '_') = true) :
    isNamePart c = true := by
  simp only [Char.isAlphanum, Bool.or_eq_true, decide_eq_true_eq] at part
  rcases part with (alpha | digit) | rfl
  · simp [isNamePart, isNameStart, isLetter_of_isAlpha alpha]
  · simp [isNamePart, digit]
  · rfl

def isOpeningMark (c : Char) : Bool := c = '`' || c = '\'' || c = '"' || c = '?' || c = '@'

theorem readToken_unquoted {c : Char} {t : Text} (plain : isOpeningMark c = false)
    (unquoted : c.isAlpha = true → t.head?.any isQuote = false) :
    readToken (c :: t) =
      if isNameStart c then some (readWord (c :: t))
      else if c.isDigit || c = '.' then some (readNumber (c :: t))
      else some (readSign (c :: t)) := by
  rw [readToken]
  all_goals first
    | (rintro rest rfl rfl; simp [isQuote] at unquoted)
    | (rintro rfl; simp [isOpeningMark] at plain)

theorem isAlphanum_bounds {c : Char} (part : (c.isAlphanum || c = '_') = true) :
    48 ≤ c.toNat ∧ c.toNat ≤ 122 ∧ isQuote c = false ∧ isOpeningMark c = false := by
  simp only [Char.isAlphanum, Bool.or_eq_true, decide_eq_true_eq] at part
  have bounds : 48 ≤ c.toNat ∧ c.toNat ≤ 122 := by
    rcases part with (alpha | digit) | rfl
    · have letter := isAlpha_iff.1 alpha
      omega
    · have numeral := isDigit_iff.1 digit
      omega
    · decide
  refine ⟨bounds.1, bounds.2, ?_, ?_⟩
  · by_contra quote
    simp only [isQuote, Bool.not_eq_false, Bool.or_eq_true, decide_eq_true_eq] at quote
    rcases quote with rfl | rfl <;> simp at bounds
  · by_contra mark
    simp only [isOpeningMark, Bool.not_eq_false, Bool.or_eq_true, decide_eq_true_eq] at mark
    rcases mark with (((rfl | rfl) | rfl) | rfl) | rfl <;> simp at part bounds

theorem isTokenStart_of_isAlphanum {c : Char} (part : (c.isAlphanum || c = '_') = true) :
    isTokenStart c = true := by
  obtain ⟨low, _, _, _⟩ := isAlphanum_bounds part
  have different (d : Char) (small : d.toNat < 48) : c ≠ d := by
    rintro rfl
    omega
  have space : isSpace c = false := by
    by_contra found
    simp only [isSpace, Bool.not_eq_false, Bool.or_eq_true, Bool.and_eq_true, decide_eq_true_eq]
      at found
    rcases found with rfl | ⟨_, small⟩
    · simp at low
    · have bound : c.toNat ≤ 13 := by simpa [Char.le_def, UInt32.le_iff_toNat_le] using small
      omega
  simp [isTokenStart, space, different]

theorem lexes_word {t : Text} (begins : t.head?.any (fun c => c.isAlpha || c = '_') = true)
    (letters : ∀ c ∈ t, (c.isAlphanum || c = '_') = true) (rest : Text) :
    Lexes t [.ofWord t] (' ' :: rest) := by
  cases t with
  | nil => simp at begins
  | cons c t =>
    have first : (c.isAlpha || c = '_') = true := by simpa using begins
    have whole := takeWhile_append_stop (' ' :: rest)
      (fun d member => isNamePart_of_isAlphanum (letters d member)) rfl
    have unquoted : (t ++ ' ' :: rest).head?.any isQuote = false := by
      cases t with
      | nil => rfl
      | cons d t => exact (isAlphanum_bounds (letters d (by simp))).2.2.1
    have part := letters c List.mem_cons_self
    refine lexes_plain (isTokenStart_of_isAlphanum part) ?_
    rw [readToken_unquoted (isAlphanum_bounds part).2.2.2 fun _ => unquoted,
      if_pos (isNameStart_of_isAlpha first), readWord, ← List.cons_append, whole.1, whole.2]

/-! Numbers and strings. -/

theorem isNameStart_of_isDigit {c : Char} (digit : c.isDigit = true) : isNameStart c = false := by
  have numeral := isDigit_iff.1 digit
  have different (d : Char) (beyond : 57 < d.toNat ∨ d.toNat < 48) : c ≠ d := by
    rintro rfl
    omega
  simp [isNameStart, isLetter_of_isDigit digit, different]
  omega

theorem lexes_number {t : Text} (filled : t ≠ []) (digits : ∀ c ∈ t, c.isDigit = true)
    (rest : Text) : Lexes t [.number t] (' ' :: rest) := by
  obtain ⟨d, t, rfl⟩ := List.exists_cons_of_ne_nil filled
  have digit := digits d List.mem_cons_self
  have part : (d.isAlphanum || d = '_') = true := by simp [Char.isAlphanum, digit]
  have point : d :: t ≠ ['.'] := by
    intro same
    cases same
    exact absurd digit (by decide)
  have whole := takeWhile_append_stop (' ' :: rest) digits rfl
  refine lexes_plain (isTokenStart_of_isAlphanum part) ?_
  rw [readToken_unquoted (isAlphanum_bounds part).2.2.2 (by simp [isAlpha_of_isDigit digit]),
    if_neg (by simp [isNameStart_of_isDigit digit]), if_pos (by simp [digit]), readNumber,
    ← List.cons_append, whole.1, whole.2]
  have letters : (' ' :: rest).takeWhile isNamePart = [] := rfl
  simp [readExponent, point, letters]

theorem lexes_minus {rest : Text} (digit : rest.head?.any Char.isDigit = true) :
    Lexes ['-'] [.sign .minus] rest := by
  cases rest with
  | nil => simp at digit
  | cons d rest =>
    -- The longer signs that begin with a minus are told apart by the second character.
    have member : d ∈ "0123456789".toList := isDigit_cases (by simpa using digit)
    simp at member
    rcases member with rfl | rfl | rfl | rfl | rfl | rfl | rfl | rfl | rfl | rfl <;>
      exact lexes_token ⟨rfl, by decide, by simp, by decide⟩ rfl

theorem lexes_string {quote : Char} {t rest : Text} (isQuote : isQuote quote = true)
    (body : Body quote t) (single : rest.head? ≠ some quote) :
    Lexes (quote :: t ++ [quote]) [.string quote (unescaped t)] rest := by
  have whole : t ++ [quote] ++ rest = t ++ quote :: rest := by simp
  rw [List.cons_append]
  simp only [Text.isQuote, Bool.or_eq_true, decide_eq_true_eq] at isQuote
  rcases isQuote with rfl | rfl
  · refine lexes_plain rfl ?_
    rw [whole, readToken, body.readString (by decide) single]
    rfl
  · refine lexes_plain rfl ?_
    rw [whole, readToken, body.readString (by decide) single]
    rfl

theorem lexes_quotedName {t : Text} (plain : '`' ∉ t) (rest : Text) :
    Lexes ('`' :: t ++ ['`']) [.quotedName t] (' ' :: rest) := by
  have read : readString '`' false (t ++ '`' :: ' ' :: rest) = some (t, ' ' :: rest) := by
    induction t with
    | nil => rfl
    | cons c t ih =>
      simp only [List.mem_cons, not_or] at plain
      obtain ⟨d, tail, begins⟩ : ∃ d tail, t ++ '`' :: ' ' :: rest = d :: tail := by
        cases t <;> exact ⟨_, _, rfl⟩
      rw [List.cons_append, begins, readString, ← begins, ih plain.2]
      simp [Ne.symm plain.1]
  rw [List.cons_append]
  refine lexes_plain rfl ?_
  have whole : t ++ ['`'] ++ ' ' :: rest = t ++ '`' :: ' ' :: rest := by simp
  rw [whole, readToken, read]
  rfl

end FilterQuery.Sql

namespace FilterQuery.Filter

open Text (isQuote)
open Sql (Token Lexes)

def Comparator.token : Comparator → Token
  | lt => .sign .lt
  | le => .sign .le
  | gt => .sign .gt
  | ge => .sign .ge
  | eq => .sign .eq
  | ne => .sign .ne
  | like => .word "LIKE".toList (some .LIKE)
  | inList => .word "IN".toList (some .IN)

def Connective.token : Connective → Token
  | and => .word "AND".toList (some .AND)
  | or => .word "OR".toList (some .OR)

def constantTokens (t : Text) : List Token :=
  match Text.quoted? t with
  | some body => [.string (t.headD '\'') (Sql.unescaped body)]
  | none =>
    match t with
    | '-' :: digits => [.sign .minus, .number digits]
    | digits => [.number digits]

def itemTokens : List Text → List Token
  | [] => []
  | [item] => constantTokens item
  | item :: items => constantTokens item ++ .sign .comma :: itemTokens items

def Node.tokens (fields : Bindings) : Node → List Token
  | .clause c =>
    .ofWord c.column :: c.comparator.token ::
      if c.comparator = .inList then [] else constantTokens (resolve c fields)
  | .connective c => [c.token]
  | .opening => [.sign .opening]
  | .closing => [.sign .closing]
  | .list _ items => .sign .opening :: itemTokens items ++ [.sign .closing]

def Node.Printable (fields : Bindings) : Node → Prop
  | .clause c => IsColumnName c.column ∧ (c.comparator ≠ .inList → IsConstant (resolve c fields))
  | .list _ items => items ≠ [] ∧ ∀ item ∈ items, IsString item
  | _ => True

theorem constantTokens_string {quote : Char} (isQuote : isQuote quote = true) (body : Text) :
    constantTokens (quote :: body ++ [quote]) = [.string quote (Sql.unescaped body)] := by
  unfold constantTokens
  rw [quoted?_string isQuote]
  rfl

theorem lexes_item {t rest : Text} (string : IsString t)
    (single : rest.head?.any isQuote = false) : Lexes t (constantTokens t) rest := by
  obtain ⟨isQuote, closed⟩ := string
  rw [constantTokens_string isQuote]
  refine Sql.lexes_string isQuote closed ?_
  intro found
  simp [found, isQuote] at single

theorem constantTokens_digits {t : Text} (digits : ∀ c ∈ t, c.isDigit = true) :
    constantTokens t = [.number t] ∧ constantTokens ('-' :: t) = [.sign .minus, .number t] := by
  refine ⟨?_, rfl⟩
  unfold constantTokens
  rw [quoted?_digits digits]
  dsimp only
  split
  · exact absurd rfl (ne_minus_of_digits digits _)
  · rfl

theorem lexes_constant {t : Text} (constant : IsConstant t) (rest : Text) :
    Lexes t (constantTokens t) (' ' :: rest) := by
  cases constant with
  | string string => exact lexes_item string rfl
  | number filled digits =>
    rw [(constantTokens_digits digits).1]
    exact Sql.lexes_number filled digits rest
  | @negative t filled digits =>
    rw [(constantTokens_digits digits).2]
    obtain ⟨d, tail, rfl⟩ := List.exists_cons_of_ne_nil filled
    have digit := digits d List.mem_cons_self
    have minus : Lexes ['-'] [.sign .minus] (d :: tail ++ ' ' :: rest) :=
      Sql.lexes_minus (by simpa using digit)
    exact minus.append (Sql.lexes_number filled digits rest)

theorem lexes_items {items : List Text} (filled : items ≠ [])
    (strings : ∀ item ∈ items, IsString item) (rest : Text) :
    Lexes (Text.join ", ".toList items) (itemTokens items) (')' :: rest) := by
  induction items with
  | nil => exact absurd rfl filled
  | cons item items ih =>
    rw [List.forall_mem_cons] at strings
    cases items with
    | nil => exact lexes_item strings.1 rfl
    | cons next items =>
      have later := ih (List.cons_ne_nil _ _) strings.2
      have comma (after : Text) : Lexes [','] [.sign .comma] after := Sql.lexes_plain rfl rfl
      have tail := (comma _).append ((Sql.lexes_space _).append later)
      have whole := (lexes_item strings.1 rfl).append tail
      simpa [Text.join, itemTokens] using whole

theorem lexes_comparator (comparator : Comparator) (rest : Text) :
    Lexes comparator.sql [comparator.token] (' ' :: rest) := by
  cases comparator <;> exact Sql.lexes_plain rfl rfl

theorem lexes_connective (connective : Connective) (rest : Text) :
    Lexes connective.sql [connective.token] (' ' :: rest) := by
  cases connective <;> exact Sql.lexes_plain rfl rfl

theorem lexes_clause {fields : Bindings} {c : Clause} (name : IsColumnName c.column)
    (constant : c.comparator ≠ .inList → IsConstant (resolve c fields)) (rest : Text) :
    Lexes (renderNode fields (.clause c)) (Node.tokens fields (.clause c)) rest := by
  have column (after : Text) : Lexes (c.column ++ [' ']) [.ofWord c.column] after :=
    (Sql.lexes_word name.begins name.letters after).append (Sql.lexes_space after)
  have comparator (after : Text) : Lexes (c.comparator.sql ++ [' ']) [c.comparator.token] after :=
    (lexes_comparator c.comparator after).append (Sql.lexes_space after)
  have head (after : Text) := (column _).append (comparator after)
  by_cases list : c.comparator = .inList
  · simpa [renderNode, Node.tokens, list] using head rest
  · have value : Lexes (resolve c fields ++ [' ']) (constantTokens (resolve c fields) ++ []) rest :=
      (lexes_constant (constant list) rest).append (Sql.lexes_space rest)
    simpa [renderNode, Node.tokens, list] using (head _).append value

theorem lexes_node {fields : Bindings} {node : Node} (printable : node.Printable fields)
    (rest : Text) : Lexes (renderNode fields node) (node.tokens fields) rest := by
  have closing : Lexes [')', ' '] [.sign .closing] rest :=
    (show Lexes [')'] [.sign .closing] (' ' :: rest) from Sql.lexes_plain rfl rfl).append
      (Sql.lexes_space rest)
  cases node with
  | clause c => exact lexes_clause printable.1 printable.2 rest
  | connective c => exact (lexes_connective c rest).append (Sql.lexes_space rest)
  | opening => exact Sql.lexes_plain rfl rfl
  | closing => exact closing
  | list raw items =>
    have opening (after : Text) : Lexes ['('] [.sign .opening] after := Sql.lexes_plain rfl rfl
    exact (opening _).append ((lexes_items printable.1 printable.2 (' ' :: rest)).append closing)

/-- The tokens of a rendered filter are those of its nodes, one after the other. -/
theorem lexes_render {fields : Bindings} {nodes : List Node}
    (printable : ∀ node ∈ nodes, node.Printable fields) :
    Lexes (render fields nodes) (nodes.flatMap (Node.tokens fields)) [] := by
  induction nodes with
  | nil => exact Sql.lexes_nil []
  | cons node nodes ih =>
    rw [List.forall_mem_cons] at printable
    exact (lexes_node printable.1 _).append (ih printable.2)

end FilterQuery.Filter
