import Mathlib.Data.List.Chain
import FilterQuery.Filter.Literal
import FilterQuery.Filter.Source
import FilterQuery.Proofs.Grammar
import FilterQuery.Proofs.Letters
import FilterQuery.Proofs.Quotation

/-!
Sentences as they are typed: words, numbers and strings with signs between them, laid out with blanks
at will. The strict mode takes exactly the layout out of a sentence.
-/

namespace FilterQuery.Filter

open Text (Quoting Quotation isBlank isQuote isAlpha_of_toLower isBlank_of_isAlpha isQuote_of_isAlpha)

def isWordChar (c : Char) : Bool :=
  !isBlank c && !isQuote c && !"\\()<>=!%-&|".toList.contains c

structure Word where
  text : Text
  filled : text ≠ []
  plain : ∀ c ∈ text, isWordChar c = true
  /-- The word `in` is an operator. -/
  ordinary : Text.sameIgnoringCase text "in".toList = false

/-- What may be typed on the right-hand side of a comparison. -/
inductive Operand where
  | word (w : Word)
  | negative (w : Word) (number : w.text.head?.any Char.isDigit = true)
  | string (q : Quotation)

def Operand.text : Operand → Text
  | word w => w.text
  | negative w _ => '-' :: w.text
  | string q => q.text

def Operand.isString : Operand → Bool
  | string _ => true
  | _ => false

/-- An item of a list. Outside strings, a comma divides items. -/
structure Item where
  operand : Operand
  undivided : operand.isString = false → ',' ∉ operand.text

inductive Lexeme where
  | operand (o : Operand)
  | comparator (c : Comparator)
  | connective (c : Connective)
  | opening
  | closing
  | comma

def Lexeme.text : Lexeme → Text
  | operand o => o.text
  | comparator c => c.spelling
  | connective c => [c.mark, c.mark]
  | opening => ['(']
  | closing => [')']
  | comma => [',']

def spelled (lexemes : List Lexeme) : Text := lexemes.flatMap Lexeme.text

/-- The text consists of the lexemes in their order, with any blanks before each of them and at the
end. The arrow may be typed as the word `in`, after a blank and before a blank or a parenthesis. -/
inductive Layout : List Lexeme → Text → Prop where
  | stop : Layout [] []
  | blank {c : Char} {t : Text} {lexemes : List Lexeme} (white : isBlank c = true)
      (rest : Layout lexemes t) : Layout lexemes (c :: t)
  | next {t : Text} {lexeme : Lexeme} {lexemes : List Lexeme} (rest : Layout lexemes t) :
      Layout (lexeme :: lexemes) (lexeme.text ++ t)
  | wordIn {b i n : Char} {t : Text} {lexemes : List Lexeme} (white : isBlank b = true)
      (first : i.toLower = 'i') (second : n.toLower = 'n')
      (bounded : t.head?.any (fun c => isBlank c || c = '(') = true) (rest : Layout lexemes t) :
      Layout (.comparator .inList :: lexemes) (b :: i :: n :: t)

mutual

inductive Phrase where
  | compare (column : Word) (comparator : Comparator) (plain : comparator ≠ .inList)
      (operand : Operand)
  | member (column : Word) (first : Item) (more : List Item)
  | group (inner : Sentence)

inductive Sentence where
  | single (phrase : Phrase)
  | extend (front : Sentence) (connective : Connective) (last : Phrase)

end

def moreLexemes (more : List Item) : List Lexeme :=
  more.flatMap fun item => [.comma, .operand item.operand]

mutual

def Phrase.lexemes : Phrase → List Lexeme
  | .compare column comparator _ operand =>
    [.operand (.word column), .comparator comparator, .operand operand]
  | .member column first more =>
    .operand (.word column) :: .comparator .inList :: .opening :: .operand first.operand ::
      moreLexemes more ++ [.closing]
  | .group inner => .opening :: inner.lexemes ++ [.closing]

def Sentence.lexemes : Sentence → List Lexeme
  | .single phrase => phrase.lexemes
  | .extend front connective last => front.lexemes ++ .connective connective :: last.lexemes

end

def listText (items : List Item) : Text :=
  Text.join [','] (items.map fun item => item.operand.text)

mutual

def Phrase.term : Phrase → Term
  | .compare column comparator plain operand =>
    .clause ⟨column.text, comparator, finalizeValue comparator operand.text⟩ plain
  | .member column first more =>
    .membership ⟨column.text, .inList, listText (first :: more)⟩ rfl (listText (first :: more))
      ((first :: more).map fun item => requote item.operand.text)
  | .group inner => .group inner.chain

def Sentence.chain : Sentence → Chain
  | .single phrase => .single phrase.term
  | .extend front connective last => .extend front.chain connective last.term

end

/-! What the strict mode keeps, character by character. Positions play no part in it. -/

theorem fst_strictFrom (lists : Bool) (i j : Nat) (q : Quoting) (before : Option Char) (t : Text) :
    (strictFrom lists i q before t).map Prod.fst = (strictFrom lists j q before t).map Prod.fst := by
  fun_induction strictFrom lists i q before t generalizing j with
  | case1 => rfl
  | case2 i q before c skipped => rw [strictFrom, if_pos skipped]
  | case3 i q before c taken =>
    rw [strictFrom, if_neg taken]
    rfl
  | case4 i q before c n rest held ih =>
    rw [strictFrom, if_pos held, List.map_cons, List.map_cons, ih (j + 1)]
  | case5 i q before c n rest free blank ih =>
    rw [strictFrom, if_neg free, if_pos blank, ih (j + 1)]
  | case6 i q before c n rest free solid starts ih =>
    rw [strictFrom, if_neg free, if_neg solid, if_pos starts]
    simp only [List.map_cons, ih (j + 2)]
  | case7 i q before c n rest free solid ordinary ih =>
    rw [strictFrom, if_neg free, if_neg solid, if_neg ordinary, List.map_cons, List.map_cons,
      ih (j + 1)]

def kept (lists : Bool) (q : Quoting) (before : Option Char) (t : Text) : Text :=
  (strictFrom lists 0 q before t).map Prod.fst

section Kept

variable {lists : Bool} {q : Quoting} {before : Option Char} {c : Char} {t : Text}

theorem kept_held (held : q.holds c = true) :
    kept lists q before (c :: t) = c :: kept lists (q.after c) (some c) t := by
  cases t with
  | nil => simp [kept, strictFrom, held]
  | cons n rest => simp [kept, strictFrom, held, fst_strictFrom lists 1 0]

theorem kept_blank (free : q.holds c = false) (blank : isBlank c = true) :
    kept lists q before (c :: t) = kept lists (q.after c) (some c) t := by
  cases t with
  | nil => simp [kept, strictFrom, free, blank]
  | cons n rest => simp [kept, strictFrom, free, blank, fst_strictFrom lists 1 0]

theorem kept_solid (free : q.holds c = false) (solid : isBlank c = false)
    (ordinary : startsIn before c t = false) :
    kept lists q before (c :: t) = c :: kept lists (q.after c) (some c) t := by
  cases t with
  | nil => simp [kept, strictFrom, solid]
  | cons n rest => simp [kept, strictFrom, free, solid, ordinary, fst_strictFrom lists 1 0]

theorem kept_startsIn {n : Char} (free : q.holds c = false) (solid : isBlank c = false)
    (starts : startsIn before c (n :: t) = true) :
    kept true q before (c :: n :: t) =
      '-' :: '>' :: kept true ((q.after c).after n) (some n) t := by
  simp [kept, strictFrom, free, solid, starts, fst_strictFrom true 2 0]

theorem kept_strings (covered : q.Outside (fun _ => False) t) (before : Option Char)
    (rest : Text) :
    ∃ last, kept lists q before (t ++ rest) = t ++ kept lists (q.afterText t) last rest := by
  induction t generalizing q before with
  | nil => exact ⟨before, rfl⟩
  | cons c t ih =>
    obtain ⟨held, later⟩ := Quoting.outside_cons.1 covered
    obtain ⟨last, inner⟩ := ih later (some c)
    refine ⟨last, ?_⟩
    rw [List.cons_append, kept_held (by simpa using held), inner]
    rfl

end Kept

/-! The operator `in` begins with two letters, and letters are found in words only. -/

theorem after_of_isAlpha {c : Char} (alpha : c.isAlpha = true) : ({} : Quoting).after c = {} := by
  refine Quoting.after_outside (isQuote_of_isAlpha alpha) ?_
  rintro rfl
  exact absurd alpha (by decide)

theorem startsIn_inv {before : Option Char} {c : Char} {t : Text}
    (starts : startsIn before c t = true) :
    (∃ b, before = some b ∧ isBlank b = true) ∧ c.toLower = 'i' ∧
      ∃ n after rest, t = n :: after :: rest ∧ n.toLower = 'n' ∧
        (isBlank after = true ∨ after = '(') := by
  unfold startsIn at starts
  split at starts
  · rename_i b n after rest
    simp only [Bool.and_eq_true, Bool.or_eq_true, decide_eq_true_eq] at starts
    obtain ⟨⟨⟨blank, first⟩, second⟩, bounded⟩ := starts
    exact ⟨⟨b, rfl, blank⟩, first, n, after, rest, rfl, second, bounded⟩
  · cases starts

theorem startsIn_behind {b c : Char} {t : Text} (solid : isBlank b = false) :
    startsIn (some b) c t = false := by
  by_contra starts
  obtain ⟨⟨_, same, blank⟩, _⟩ := startsIn_inv (by simpa using starts)
  cases same
  simp [solid] at blank

theorem startsIn_sign {before : Option Char} {c : Char} {t : Text} (sign : c.isAlpha = false) :
    startsIn before c t = false := by
  by_contra starts
  obtain ⟨_, first, _⟩ := startsIn_inv (by simpa using starts)
  have alpha : c.isAlpha = true := isAlpha_of_toLower (by rw [first]; rfl)
  simp [sign] at alpha

theorem Word.startsIn_eq_false (w : Word) {before : Option Char} {c : Char} {tail rest : Text}
    (cut : w.text = c :: tail) (bounded : rest.head?.any Char.isAlpha = false) :
    startsIn before c (tail ++ rest) = false := by
  by_contra starts
  obtain ⟨_, first, n, after, beyond, same, second, bound⟩ := startsIn_inv (by simpa using starts)
  -- The two letters reach beyond the word, or are the word, or are followed by more of the word.
  match tail, same with
  | [], same =>
    have alpha : n.isAlpha = true := isAlpha_of_toLower (by rw [second]; rfl)
    rw [List.nil_append] at same
    simp [same, alpha] at bounded
  | [_], same =>
    cases same
    have operator := w.ordinary
    simp [cut, Text.sameIgnoringCase, first, second] at operator
  | _ :: _ :: _, same =>
    cases same
    have plain := w.plain after (by simp [cut])
    rcases bound with blank | rfl
    · simp [isWordChar, blank] at plain
    · simp [isWordChar] at plain

def isSolid (c : Char) : Bool := !isBlank c && !isQuote c && c ≠ '\\'

theorem isSolid_of_isWordChar {c : Char} (plain : isWordChar c = true) : isSolid c = true := by
  simp_all [isWordChar, isSolid]

theorem after_of_isSolid {c : Char} (solid : isSolid c = true) : ({} : Quoting).after c = {} := by
  simp only [isSolid, Bool.and_eq_true, Bool.not_eq_true', decide_eq_true_eq] at solid
  exact Quoting.after_outside solid.1.2 solid.2

theorem kept_solidText {lists : Bool} {t : Text} (solid : ∀ c ∈ t, isSolid c = true)
    (before : Option Char) (rest : Text)
    (ordinary : ∀ c tail, t = c :: tail → startsIn before c (tail ++ rest) = false) :
    ∃ last, kept lists {} before (t ++ rest) = t ++ kept lists {} last rest := by
  induction t generalizing before with
  | nil => exact ⟨before, rfl⟩
  | cons c t ih =>
    have here := solid c List.mem_cons_self
    simp only [isSolid, Bool.and_eq_true, Bool.not_eq_true', decide_eq_true_eq] at here
    obtain ⟨⟨blank, quote⟩, slash⟩ := here
    obtain ⟨last, inner⟩ := ih (fun found member => solid found (List.mem_cons_of_mem _ member))
      (some c) (fun _ _ _ => startsIn_behind blank)
    refine ⟨last, ?_⟩
    rw [List.cons_append, kept_solid (by rw [Quoting.holds_outside, quote]) blank
      (ordinary c t rfl), Quoting.after_outside quote slash, inner]
    rfl

theorem isQuote_of_isBlank {c : Char} (blank : isBlank c = true) : isQuote c = false := by
  by_contra found
  simp only [isQuote, Bool.or_eq_true, decide_eq_true_eq, Bool.not_eq_false] at found
  rcases found with rfl | rfl <;> exact absurd blank (by decide)

theorem ne_backslash_of_isBlank {c : Char} (blank : isBlank c = true) : c ≠ '\\' := by
  rintro rfl
  exact absurd blank (by decide)

theorem kept_white {lists : Bool} {c : Char} (white : isBlank c = true) (before : Option Char)
    (t : Text) : kept lists {} before (c :: t) = kept lists {} (some c) t := by
  have quote := isQuote_of_isBlank white
  rw [kept_blank (by rw [Quoting.holds_outside, quote]) white,
    Quoting.after_outside quote (ne_backslash_of_isBlank white)]

/-! Two words never touch in a sentence, so that each is read for itself. -/

def Lexeme.isWord : Lexeme → Bool
  | operand (.word _) => true
  | _ => false

def Apart (first second : Lexeme) : Prop := first.isWord = true → second.isWord = false

theorem Lexeme.head_text (lexeme : Lexeme) (plain : lexeme.isWord = false) :
    ∃ c tail, lexeme.text = c :: tail ∧ c.isAlpha = false := by
  match lexeme with
  | operand (.negative w _) => exact ⟨'-', w.text, rfl, rfl⟩
  | operand (.string q) =>
    refine ⟨q.quote, _, rfl, ?_⟩
    have quote := q.isQuote
    simp only [isQuote, Bool.or_eq_true, decide_eq_true_eq] at quote
    rcases quote with same | same <;> rw [same] <;> rfl
  | comparator c => cases c <;> exact ⟨_, _, rfl, rfl⟩
  | connective c => cases c <;> exact ⟨_, _, rfl, rfl⟩
  | opening | closing | comma => exact ⟨_, _, rfl, rfl⟩

theorem isAlpha_of_isBlank {c : Char} (white : isBlank c = true) : c.isAlpha = false := by
  by_contra alpha
  rw [isBlank_of_isAlpha (by simpa using alpha)] at white
  cases white

theorem Layout.head_text {lexemes : List Lexeme} {t : Text} (layout : Layout lexemes t)
    (plain : ∀ lexeme, lexemes.head? = some lexeme → lexeme.isWord = false) :
    t.head?.any Char.isAlpha = false := by
  cases layout with
  | stop => rfl
  | blank white rest => exact isAlpha_of_isBlank white
  | @next t lexeme lexemes rest =>
    obtain ⟨c, tail, begins, sign⟩ := lexeme.head_text (plain lexeme rfl)
    rw [begins]
    exact sign
  | wordIn white first second bounded rest => exact isAlpha_of_isBlank white

theorem Lexeme.solid_text (lexeme : Lexeme) (bare : ∀ q, lexeme ≠ .operand (.string q)) :
    ∀ c ∈ lexeme.text, isSolid c = true := by
  match lexeme with
  | operand (.word w) => exact fun c member => isSolid_of_isWordChar (w.plain c member)
  | operand (.negative w _) =>
    intro c member
    rcases List.mem_cons.1 member with rfl | member
    · decide
    · exact isSolid_of_isWordChar (w.plain c member)
  | operand (.string q) => exact absurd rfl (bare q)
  | comparator c => cases c <;> exact List.all_eq_true.1 rfl
  | connective c => cases c <;> exact List.all_eq_true.1 rfl
  | opening | closing | comma => exact List.all_eq_true.1 rfl

theorem afterText_of_isSolid {t : Text} (solid : ∀ c ∈ t, isSolid c = true) :
    ({} : Quoting).afterText t = {} := by
  induction t with
  | nil => rfl
  | cons c t ih =>
    rw [List.forall_mem_cons] at solid
    show (({} : Quoting).after c).afterText t = {}
    rw [after_of_isSolid solid.1]
    exact ih solid.2

theorem Operand.afterText_text (operand : Operand) : ({} : Quoting).afterText operand.text = {} := by
  match operand with
  | .string q => exact q.afterText_text
  | .word w =>
    exact afterText_of_isSolid (Lexeme.solid_text (.operand (.word w)) nofun)
  | .negative w number =>
    exact afterText_of_isSolid (Lexeme.solid_text (.operand (.negative w number)) nofun)

theorem kept_lexeme (lexeme : Lexeme) (before : Option Char) (rest : Text)
    (bounded : lexeme.isWord = true → rest.head?.any Char.isAlpha = false) :
    ∃ last, kept true {} before (lexeme.text ++ rest) =
      lexeme.text ++ kept true {} last rest := by
  -- Strings are kept because they are quoted, all else because it holds no blank.
  by_cases string : ∃ q, lexeme = .operand (.string q)
  · obtain ⟨q, rfl⟩ := string
    have inner : ∃ last, kept true {} before (q.text ++ rest) = _ :=
      kept_strings (q.outside_text _) before rest
    rwa [q.afterText_text] at inner
  · refine kept_solidText (lexeme.solid_text fun q same => string ⟨q, same⟩) before rest ?_
    intro c tail begins
    cases word : lexeme.isWord with
    | true =>
      obtain ⟨w, rfl⟩ : ∃ w, lexeme = .operand (.word w) := by
        unfold Lexeme.isWord at word
        split at word
        · exact ⟨_, rfl⟩
        · cases word
      exact w.startsIn_eq_false begins (bounded word)
    | false =>
      obtain ⟨first, _, found, sign⟩ := lexeme.head_text word
      rw [found] at begins
      cases begins
      exact startsIn_sign sign

theorem kept_layout {lexemes : List Lexeme} {t : Text} (layout : Layout lexemes t)
    (apart : lexemes.IsChain Apart) (before : Option Char) :
    kept true {} before t = spelled lexemes := by
  induction layout generalizing before with
  | stop => rfl
  | blank white rest ih => rw [kept_white white, ih apart]
  | @next t lexeme lexemes rest ih =>
    have bounded : lexeme.isWord = true → t.head?.any Char.isAlpha = false := by
      intro word
      refine rest.head_text ?_
      intro follower found
      exact apart.rel_head? found word
    obtain ⟨last, inner⟩ := kept_lexeme lexeme before t bounded
    rw [inner, ih apart.tail]
    rfl
  | @wordIn b i n t lexemes white first second bounded rest ih =>
    have alphaI : i.isAlpha = true := isAlpha_of_toLower (by rw [first]; rfl)
    have alphaN : n.isAlpha = true := isAlpha_of_toLower (by rw [second]; rfl)
    have starts : startsIn (some b) i (n :: t) = true := by
      cases t with
      | nil => simp at bounded
      | cons c t => simpa [startsIn, first, second, white] using bounded
    rw [kept_white white, kept_startsIn (by rw [Quoting.holds_outside, isQuote_of_isAlpha alphaI])
      (isBlank_of_isAlpha alphaI) starts, after_of_isAlpha alphaI, after_of_isAlpha alphaN,
      ih apart.tail]
    rfl

theorem isChain_through {before after : List Lexeme} (sign : Lexeme) (plain : sign.isWord = false)
    (first : before.IsChain Apart) (second : after.IsChain Apart) :
    (before ++ sign :: after).IsChain Apart := by
  refine first.append (second.cons ?_) ?_
  · intro follower _ word
    rw [plain] at word
    cases word
  · intro last _ follower found _
    cases found
    exact plain

theorem isChain_parenthesized {inner : List Lexeme} (apart : inner.IsChain Apart) :
    (.opening :: inner ++ [.closing] : List Lexeme).IsChain Apart :=
  isChain_through .opening rfl .nil (isChain_through .closing rfl apart .nil)

theorem isChain_moreLexemes {before : List Lexeme} (apart : before.IsChain Apart)
    (more : List Item) : (before ++ moreLexemes more).IsChain Apart := by
  induction more generalizing before with
  | nil => simpa [moreLexemes] using apart
  | cons item more ih =>
    have extended := isChain_through .comma rfl apart (.singleton (.operand item.operand))
    simpa [moreLexemes] using ih extended

mutual

theorem Phrase.apart : ∀ phrase : Phrase, phrase.lexemes.IsChain Apart
  | .compare column comparator _ operand => by
    have right : [Lexeme.operand operand].IsChain Apart := .singleton _
    exact isChain_through (.comparator comparator) rfl (.singleton (.operand (.word column))) right
  | .member column first more => by
    have items : (.operand first.operand :: moreLexemes more).IsChain Apart :=
      isChain_moreLexemes (.singleton _) more
    exact isChain_through (.comparator .inList) rfl (.singleton (.operand (.word column)))
      (isChain_parenthesized items)
  | .group inner => isChain_parenthesized inner.apart

theorem Sentence.apart : ∀ sentence : Sentence, sentence.lexemes.IsChain Apart
  | .single phrase => phrase.apart
  | .extend front connective last =>
    isChain_through (.connective connective) rfl front.apart last.apart

end

theorem normalizeStrict_sentence (sentence : Sentence) {t : Text}
    (layout : Layout sentence.lexemes t) :
    (normalizeStrict true t).chars = spelled sentence.lexemes :=
  kept_layout layout sentence.apart none

end FilterQuery.Filter
