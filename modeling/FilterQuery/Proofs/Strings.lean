import FilterQuery.Filter.Compile
import FilterQuery.Proofs.Quotation
import FilterQuery.Sql.Lexer

/-!
Strings in SQL texts. A body is what may stand between two quotes: a backslash takes the next character
with it, and all else is no quote. Every way in which a filter writes a string gives a body, and the
reader of strings takes exactly the body and gives back what it stands for.
-/

namespace FilterQuery.Sql

open Text (Quotation isQuote isEscapedAfter)

/-- What the characters between two quotes stand for. -/
def unescaped : Text → Text
  | '\\' :: c :: t => unescape c :: unescaped t
  | c :: t => c :: unescaped t
  | [] => []

theorem unescaped_cons {c : Char} (plain : c ≠ '\\') (t : Text) :
    unescaped (c :: t) = c :: unescaped t := by
  rw [unescaped]
  intro _ _ slash
  exact absurd slash plain

inductive Body (quote : Char) : Text → Prop where
  | nil : Body quote []
  | escape {c : Char} {t : Text} (rest : Body quote t) : Body quote ('\\' :: c :: t)
  | plain {c : Char} {t : Text} (unquoted : c ≠ quote) (unescaped : c ≠ '\\')
      (rest : Body quote t) : Body quote (c :: t)

theorem Body.append {quote : Char} {s t : Text} (first : Body quote s) (second : Body quote t) :
    Body quote (s ++ t) := by
  induction first with
  | nil => exact second
  | escape _ ih => exact .escape ih
  | plain unquoted unescaped _ ih => exact .plain unquoted unescaped ih

theorem Body.unescaped_append {quote : Char} {s : Text} (body : Body quote s) (t : Text) :
    unescaped (s ++ t) = unescaped s ++ unescaped t := by
  induction body with
  | nil => rfl
  | escape _ ih => simp [unescaped, ih]
  | plain _ slash _ ih => rw [List.cons_append, unescaped_cons slash, unescaped_cons slash, ih]; rfl

theorem Body.readString {quote : Char} {t : Text} (body : Body quote t) (letter : quote ≠ '\\')
    {rest : Text} (single : rest.head? ≠ some quote) :
    readString quote true (t ++ quote :: rest) = some (unescaped t, rest) := by
  induction body with
  | nil =>
    cases rest with
    | nil => simp [Sql.readString, unescaped]
    | cons d rest =>
      have different : d ≠ quote := by simpa using single
      simp [Sql.readString, different, unescaped]
  | escape _ ih =>
    simp [Sql.readString, letter.symm, ih, unescaped]
  | @plain c t unquoted slash _ ih =>
    -- The reader looks one character ahead, so that one has to be seen to be there.
    obtain ⟨d, tail, begins⟩ : ∃ d tail, t ++ quote :: rest = d :: tail := by
      cases t <;> exact ⟨_, _, rfl⟩
    rw [List.cons_append, begins, Sql.readString, ← begins, ih]
    simp [unquoted, slash, unescaped_cons]

/-! Strings that were typed. -/

theorem body_of_quotation (q : Quotation) {front t : Text} (cut : q.body = front ++ t)
    (free : isEscapedAfter front = false) : Body q.quote t := by
  -- A backslash is taken together with the next character, so the recursion never stops between them.
  match t with
  | [] => exact .nil
  | [c] =>
    have ends := q.complete
    rw [cut, Text.isEscapedAfter_snoc, free] at ends
    have slash : c ≠ '\\' := by simpa using ends
    refine .plain ?_ slash .nil
    intro same
    subst same
    rw [q.guarded front [] cut] at free
    cases free
  | c :: d :: t =>
    by_cases slash : c = '\\'
    · subst slash
      have next : isEscapedAfter (front ++ ['\\', d]) = false := by
        have split : front ++ ['\\', d] = (front ++ ['\\']) ++ [d] := by simp
        rw [split, Text.isEscapedAfter_snoc, Text.isEscapedAfter_snoc, free]
        simp
      exact .escape (body_of_quotation q (by rw [cut]; simp) next)
    · have next : isEscapedAfter (front ++ [c]) = false := by
        simp [Text.isEscapedAfter_snoc, slash]
      refine .plain ?_ slash (body_of_quotation q (by rw [cut]; simp) next)
      intro same
      subst same
      rw [q.guarded front (d :: t) cut] at free
      cases free

theorem Body.of_quotation (q : Quotation) : Body q.quote q.body :=
  body_of_quotation q (q.body.nil_append).symm rfl

theorem body_of_plain {quote : Char} {t : Text} (plain : ∀ c ∈ t, c ≠ quote ∧ c ≠ '\\') :
    Body quote t := by
  induction t with
  | nil => exact .nil
  | cons c t ih =>
    rw [List.forall_mem_cons] at plain
    exact .plain plain.1.1 plain.1.2 (ih plain.2)

/-! Strings whose apostrophes were escaped. -/

/-- Behind a wildcard at the end, even a backslash that nothing follows has something to take. -/
theorem body_escapeApostrophesFrom (t : Text) :
    Body '\'' (Filter.escapeApostrophesFrom false t ++ ['%']) ∧
      Body '\'' ('\\' :: Filter.escapeApostrophesFrom true t ++ ['%']) := by
  -- Both halves at once: the second is the state behind a backslash that is still open.
  induction t with
  | nil => exact ⟨.plain (by decide) (by decide) .nil, .escape .nil⟩
  | cons c t ih =>
    constructor
    · by_cases quote : c = '\''
      · subst quote
        exact .escape ih.1
      · by_cases slash : c = '\\'
        · subst slash
          exact ih.2
        · simpa [Filter.escapeApostrophesFrom, quote, slash] using .plain quote slash ih.1
    · have kept : Filter.escapeApostrophesFrom true (c :: t) =
          c :: Filter.escapeApostrophesFrom false t := by simp [Filter.escapeApostrophesFrom]
      rw [kept]
      exact .escape ih.1

theorem body_wrapLike (t : Text) :
    Body '\'' ('%' :: Filter.escapeApostrophes t ++ ['%']) :=
  .plain (by decide) (by decide) (body_escapeApostrophesFrom t).1

theorem Body.escapeApostrophes {quote : Char} {t : Text} (body : Body quote t) :
    Body '\'' (Filter.escapeApostrophes t) ∧
      unescaped (Filter.escapeApostrophes t) = unescaped t := by
  unfold Filter.escapeApostrophes
  induction body with
  | nil => exact ⟨.nil, rfl⟩
  | @escape c t _ ih =>
    have kept : Filter.escapeApostrophesFrom false ('\\' :: c :: t) =
        '\\' :: c :: Filter.escapeApostrophesFrom false t := by simp [Filter.escapeApostrophesFrom]
    rw [kept, unescaped, unescaped, ih.2]
    exact ⟨.escape ih.1, rfl⟩
  | @plain c t _ slash _ ih =>
    by_cases apostrophe : c = '\''
    · subst apostrophe
      have added : Filter.escapeApostrophesFrom false ('\'' :: t) =
          '\\' :: '\'' :: Filter.escapeApostrophesFrom false t := by simp [Filter.escapeApostrophesFrom]
      rw [added, unescaped, unescaped_cons slash, ih.2]
      exact ⟨.escape ih.1, rfl⟩
    · have kept : Filter.escapeApostrophesFrom false (c :: t) =
          c :: Filter.escapeApostrophesFrom false t := by
        simp [Filter.escapeApostrophesFrom, apostrophe, slash]
      rw [kept, unescaped_cons slash, unescaped_cons slash, ih.2]
      exact ⟨.plain apostrophe slash ih.1, rfl⟩

/-! Strings that were merged in. -/

theorem body_escapeChar (c : Char) :
    Body '\'' (Filter.escapeChar c) ∧ unescaped (Filter.escapeChar c) = [c] := by
  unfold Filter.escapeChar
  split
  · exact ⟨.escape .nil, rfl⟩
  · exact ⟨.escape .nil, rfl⟩
  · exact ⟨.escape .nil, rfl⟩
  · exact ⟨.escape .nil, rfl⟩
  · exact ⟨.escape .nil, rfl⟩
  · exact ⟨.escape .nil, rfl⟩
  · exact ⟨.escape .nil, rfl⟩
  · rename_i slash quote _ _ _ _ _
    refine ⟨.plain quote slash .nil, ?_⟩
    rw [unescaped_cons slash]
    rfl

theorem body_escapeSpecial (t : Text) :
    Body '\'' (Filter.escapeSpecial t) ∧ unescaped (Filter.escapeSpecial t) = t := by
  induction t with
  | nil => exact ⟨.nil, rfl⟩
  | cons c t ih =>
    obtain ⟨body, stands⟩ := body_escapeChar c
    have first : Filter.escapeSpecial (c :: t) = Filter.escapeChar c ++ Filter.escapeSpecial t := rfl
    rw [first, body.unescaped_append, stands, ih.2]
    exact ⟨body.append ih.1, rfl⟩

theorem escapeSpecial_isEmpty (t : Text) : (Filter.escapeSpecial t).isEmpty = t.isEmpty := by
  cases t with
  | nil => rfl
  | cons c t =>
    -- An empty text could not stand for one that is not.
    by_contra differ
    have empty : Filter.escapeSpecial (c :: t) = [] := by simpa using differ
    have stands := (body_escapeSpecial (c :: t)).2
    rw [empty] at stands
    cases stands

end FilterQuery.Sql

namespace FilterQuery.Filter

open Sql (Body unescaped)

/-- The text that a merged string stands for. A pattern matches the text of the value anywhere. -/
def mergedContent (comparator : Comparator) (value : Value) : Text :=
  let content := value.canonicalText
  if comparator = .like && !content.isEmpty then '%' :: content ++ ['%'] else content

theorem mergedText_string {comparator : Comparator} {value : Value}
    (string : comparator = .like ∨ ∃ t, value = .text t) :
    ∃ body, mergedText comparator value = '\'' :: body ++ ['\''] ∧ Body '\'' body ∧
      unescaped body = mergedContent comparator value := by
  obtain ⟨body, stands⟩ := Sql.body_escapeSpecial value.canonicalText
  have empty := Sql.escapeSpecial_isEmpty value.canonicalText
  by_cases like : comparator = .like
  · cases blank : value.canonicalText.isEmpty with
    | true =>
      have none : value.canonicalText = [] := by simpa using blank
      refine ⟨[], ?_, .nil, ?_⟩
      · simp [mergedText, like, empty, blank]
      · simp [mergedContent, none, unescaped]
    | false =>
      have wrapped : Body '\'' ('%' :: escapeSpecial value.canonicalText ++ ['%']) :=
        .plain (by decide) (by decide)
          (body.append (.plain (by decide) (by decide) .nil))
      refine ⟨_, ?_, wrapped, ?_⟩
      · simp [mergedText, like, empty, blank, wrapLike]
      · rw [List.cons_append, Sql.unescaped_cons (by decide), body.unescaped_append, stands]
        simp [mergedContent, like, blank, unescaped]
  · obtain ⟨t, rfl⟩ := string.resolve_left like
    refine ⟨escapeSpecial t, ?_, body, ?_⟩
    · simp [mergedText, like, Value.canonicalText]
    · simpa [mergedContent, like, Value.canonicalText] using stands

end FilterQuery.Filter
