import FilterQuery.Proofs.Acceptance
import FilterQuery.Proofs.Lexing
import FilterQuery.Proofs.Spelling

/-!
The items of lists as SQL strings. Between its apostrophes an item has each apostrophe escaped, but a
backslash at its end, if it is not escaped itself, takes the closing apostrophe with it. Such an item is
no string: the reader runs on into the next item.
-/

namespace FilterQuery.Sql

open Text (Quoting isEscapedAfter)

theorem readString_append {quote : Char} {s : Text} (body : Body quote s) (letter : quote ≠ '\\')
    {t : Text} (filled : t ≠ []) :
    readString quote true (s ++ t) =
      (readString quote true t).map fun found => (unescaped s ++ found.1, found.2) := by
  induction body with
  | nil => simp [unescaped]
  | escape _ ih =>
    rw [List.cons_append, List.cons_append, readString, if_neg letter.symm, if_pos (by simp), ih]
    simp [unescaped, Function.comp_def]
  | @plain c s unquoted slash _ ih =>
    obtain ⟨d, tail, begins⟩ : ∃ d tail, s ++ t = d :: tail := List.exists_cons_of_ne_nil (by simp [filled])
    rw [List.cons_append, begins, readString, ← begins, ih, if_neg unquoted, if_neg (by simp [slash]),
      unescaped_cons slash]
    simp [Function.comp_def]

/-- A body, behind which a backslash is still open if `pending` says so. -/
def Ends (pending : Bool) (t : Text) : Prop :=
  if pending then ∃ body, Body '\'' body ∧ t = body ++ ['\\'] else Body '\'' t

section Ends

variable {pending : Bool} {c : Char} {t : Text}

theorem Ends.escape (ends : Ends pending t) : Ends pending ('\\' :: c :: t) := by
  cases pending with
  | false => exact Body.escape ends
  | true =>
    obtain ⟨body, closed, rfl⟩ := ends
    exact ⟨_, closed.escape, rfl⟩

theorem Ends.plain (ends : Ends pending t) (unquoted : c ≠ '\'') (slash : c ≠ '\\') :
    Ends pending (c :: t) := by
  cases pending with
  | false => exact Body.plain unquoted slash ends
  | true =>
    obtain ⟨body, closed, rfl⟩ := ends
    exact ⟨_, closed.plain unquoted slash, rfl⟩

end Ends

theorem ends_escapeApostrophesFrom (t : Text) (q : Quoting) :
    (q.escaped = false → Ends (q.afterText t).escaped (Filter.escapeApostrophesFrom false t)) ∧
      (q.escaped = true → Ends (q.afterText t).escaped ('\\' :: Filter.escapeApostrophesFrom true t)) := by
  -- Both halves at once: the second is the state behind a backslash that is still open.
  induction t generalizing q with
  | nil =>
    refine ⟨fun free => ?_, fun pending => ?_⟩
    · rw [Quoting.afterText, List.foldl_nil, free]
      exact Body.nil
    · rw [Quoting.afterText, List.foldl_nil, pending]
      exact ⟨[], .nil, rfl⟩
  | cons c t ih =>
    have step : q.afterText (c :: t) = (q.after c).afterText t := rfl
    rw [step]
    refine ⟨fun free => ?_, fun pending => ?_⟩
    · by_cases slash : c = '\\'
      · subst slash
        have next : (q.after '\\').escaped = true := by simp [Quoting.after, free]
        simpa [Filter.escapeApostrophesFrom] using (ih (q.after '\\')).2 next
      · have next : (q.after c).escaped = false := by simp [Quoting.after, slash]
        have later := (ih (q.after c)).1 next
        by_cases quote : c = '\''
        · subst quote
          simpa [Filter.escapeApostrophesFrom] using later.escape
        · simpa [Filter.escapeApostrophesFrom, quote, slash] using later.plain quote slash
    · have next : (q.after c).escaped = false := by simp [Quoting.after, pending]
      have kept : Filter.escapeApostrophesFrom true (c :: t) =
          c :: Filter.escapeApostrophesFrom false t := by simp [Filter.escapeApostrophesFrom]
      rw [kept]
      exact ((ih (q.after c)).1 next).escape

theorem ends_escapeApostrophes (t : Text) : Ends (isEscapedAfter t) (Filter.escapeApostrophes t) := by
  rw [← Quoting.escaped_afterText]
  exact (ends_escapeApostrophesFrom t {}).1 rfl

theorem readString_of_ends {t : Text} (ends : Ends true t) : readString '\'' true (t ++ ['\'']) = none := by
  obtain ⟨body, closed, rfl⟩ := ends
  rw [List.append_assoc, readString_append closed (by decide) (by simp)]
  rfl

end FilterQuery.Sql

namespace FilterQuery.Filter

open Text (isEscapedAfter stripQuotes)
open Sql (Body Lexes Token)

/-- A reader of SQL tokens that begins at the first character reads a string up to the last. -/
def IsLiteral (t : Text) : Prop := ∃ content, Sql.readToken t = some (.string '\'' content, [])

def itemContent (item : Text) : Text := Sql.unescaped (escapeApostrophes (stripQuotes item))

theorem body_requote {item : Text} (closed : isEscapedAfter (stripQuotes item) = false) :
    Body '\'' (escapeApostrophes (stripQuotes item)) := by
  have ends := Sql.ends_escapeApostrophes (stripQuotes item)
  rw [closed] at ends
  exact ends

theorem readToken_requote (item : Text) :
    Sql.readToken (requote item) =
      if isEscapedAfter (stripQuotes item) then none
      else some (.string '\'' (itemContent item), []) := by
  have reads : Sql.readToken (requote item) =
      (Sql.readString '\'' true (escapeApostrophes (stripQuotes item) ++ ['\''])).map
        fun found => (.string '\'' found.1, found.2) := rfl
  have ends := Sql.ends_escapeApostrophes (stripQuotes item)
  rw [reads]
  split
  case isTrue pending =>
    rw [pending] at ends
    rw [Sql.readString_of_ends ends]
    rfl
  case isFalse closed =>
    have body := body_requote (by simpa using closed)
    rw [body.readString (by decide) (by simp)]
    rfl

theorem isLiteral_requote_iff (item : Text) :
    IsLiteral (requote item) ↔ isEscapedAfter (stripQuotes item) = false := by
  simp [IsLiteral, readToken_requote]

theorem items_eq_of_mem {options : Options} {t : Text} {nodes : List Node} {raw : Text}
    {items : List Text} (accepted : parse options t = .ok nodes) (listed : .list raw items ∈ nodes) :
    items = (splitItems raw).map requote := by
  obtain ⟨_, each, _⟩ := scan_faithful (Source.scan_eq_ok accepted)
  obtain ⟨before, after, cut⟩ := List.append_of_mem listed
  exact (each before _ after cut).2

theorem itemTokens_requote (pieces : List Text) :
    itemTokens (pieces.map requote) =
      (pieces.map fun piece => .string '\'' (itemContent piece)).intersperse (.sign .comma) := by
  have one (piece : Text) : constantTokens (requote piece) = [.string '\'' (itemContent piece)] :=
    constantTokens_string rfl _
  induction pieces with
  | nil => rfl
  | cons piece pieces ih =>
    cases pieces with
    | nil => exact one piece
    | cons next pieces =>
      rw [List.map_cons, List.map_cons, itemTokens, one, ← List.map_cons, ih]
      · rfl
      · simp

/-- The items of a list, in every filter that is accepted, are the pieces of its text in order. An item is
a string of its own exactly if the piece, without its quotes, does not end with an unescaped backslash.
If no piece does, the list is written as that many strings, with commas between them and nothing else. -/
theorem items_literal_iff {options : Options} {t : Text} {nodes : List Node} {raw : Text}
    {items : List Text} (accepted : parse options t = .ok nodes) (listed : .list raw items ∈ nodes) :
    items.length = (splitItems raw).length ∧
    (∀ (k : Nat) piece item, (splitItems raw)[k]? = some piece → items[k]? = some item →
      (IsLiteral item ↔ isEscapedAfter (stripQuotes piece) = false)) ∧
    ((∀ piece ∈ splitItems raw, isEscapedAfter (stripQuotes piece) = false) →
      ∃ contents : List Text,
        List.Forall₂ (fun item content => Sql.readToken item = some (.string '\'' content, []))
          items contents ∧
        ∀ fields rest, Lexes (renderNode fields (.list raw items))
          (.sign .opening :: (contents.map (.string '\'')).intersperse (.sign .comma) ++
            [.sign .closing]) rest) := by
  obtain rfl := items_eq_of_mem accepted listed
  refine ⟨List.length_map .., ?_, ?_⟩
  · intro k piece item found here
    rw [List.getElem?_map, found] at here
    cases here
    exact isLiteral_requote_iff piece
  · intro closed
    refine ⟨(splitItems raw).map itemContent, ?_, fun fields rest => ?_⟩
    · rw [List.forall₂_map_left_iff, List.forall₂_map_right_iff]
      refine List.forall₂_same.2 fun piece member => ?_
      rw [readToken_requote, closed piece member]
      rfl
    · have strings : ∀ item ∈ (splitItems raw).map requote, IsString item := by
        intro item member
        obtain ⟨piece, here, rfl⟩ := List.mem_map.1 member
        exact .intro rfl (body_requote (closed piece here))
      have printable : Node.Printable fields (.list raw ((splitItems raw).map requote)) :=
        ⟨by simpa [splitItems] using splitItemsFrom_ne_nil {} raw, strings⟩
      have lexed := lexes_node printable rest
      rw [Node.tokens, itemTokens_requote] at lexed
      rw [List.map_map]
      exact lexed

/-- Of the two items of this list, only the first is a string. -/
theorem items_literal_mixed :
    parse ⟨.strict, true⟩ "a -> (\"it's\", x\\)".toList =
      .ok [.clause ⟨['a'], .inList, "\"it's\",x\\".toList⟩,
        .list "\"it's\",x\\".toList ["'it\\'s'".toList, "'x\\'".toList]] ∧
    IsLiteral "'it\\'s'".toList ∧ ¬ IsLiteral "'x\\'".toList := by
  refine ⟨rfl, ?_⟩
  obtain ⟨_, each, _⟩ := @items_literal_iff ⟨.strict, true⟩ "a -> (\"it's\", x\\)".toList _
    "\"it's\",x\\".toList ["'it\\'s'".toList, "'x\\'".toList] rfl (.tail _ (.head _))
  constructor
  · exact (each 0 _ _ rfl rfl).2 rfl
  · intro literal
    exact absurd ((each 1 _ _ rfl rfl).1 literal) (by decide)

/-- Two items, and one string: it begins with the first item and ends where the second begins, so that
the rest of the second is read as SQL. -/
theorem items_escape_literal :
    ∃ nodes, parse {} "a->(x\\,\")\tOR\t1=1#\")".toList = .ok nodes ∧
      Sql.tokens? (render .empty nodes) =
        some [.ofWord ['a'], .word "IN".toList (some .IN), .sign .opening,
          .string '\'' "x', ".toList, .sign .closing, .word "OR".toList (some .OR),
          .number ['1'], .sign .eq, .number ['1']] :=
  ⟨_, rfl, by decide +kernel⟩

/-!
Patterns and list items as SQL strings. The wildcards around a pattern close it off, so that a pattern is
one string whatever was typed. A string that was typed in quotes means the same when its quotes are
changed to apostrophes, and the same between two wildcards when it becomes a pattern.
-/

open Text (Quotation isQuote stripQuotes)
open Sql (Body unescaped)

theorem readToken_body {body : Text} (closed : Body '\'' body) :
    Sql.readToken ('\'' :: body ++ ['\'']) = some (.string '\'' (unescaped body), []) := by
  have reads : Sql.readToken ('\'' :: body ++ ['\'']) =
      (Sql.readString '\'' true (body ++ ['\''])).map fun found => (.string '\'' found.1, found.2) := rfl
  rw [reads, closed.readString (by decide) (by simp)]
  rfl

theorem stripQuotes_quotation (q : Quotation) : stripQuotes q.text = q.body := by
  rw [stripQuotes, Quotation.text, quoted?_string q.isQuote]
  rfl

theorem isMergeField_quotation (q : Quotation) : isMergeField q.text = false := by
  refine isMergeField_of_head fun dollar => ?_
  have quote : isQuote '$' = true := Option.some.inj dollar ▸ q.isQuote
  cases quote

theorem finalizeValue_like {raw : Text} (typed : isMergeField raw = false)
    (filled : stripQuotes raw ≠ []) :
    finalizeValue .like raw = '\'' :: ('%' :: escapeApostrophes (stripQuotes raw) ++ ['%']) ++ ['\''] := by
  simp [finalizeValue, typed, filled, wrapLike]

/-- A pattern is one string. A quoted text keeps its meaning as an item of a list, and between wildcards
as a pattern. -/
theorem literals_keep_meaning :
    (∀ raw, isMergeField raw = false → stripQuotes raw ≠ [] → IsLiteral (finalizeValue .like raw)) ∧
    ∀ q : Quotation,
      Sql.readToken (requote q.text) = some (.string '\'' (unescaped q.body), []) ∧
      (q.body ≠ [] → Sql.readToken (finalizeValue .like q.text) =
        some (.string '\'' ('%' :: unescaped q.body ++ ['%']), [])) := by
  refine ⟨fun raw typed filled => ?_, fun q => ?_⟩
  · rw [finalizeValue_like typed filled]
    exact ⟨_, readToken_body (Sql.body_wrapLike (stripQuotes raw))⟩
  · obtain ⟨closed, same⟩ := (Body.of_quotation q).escapeApostrophes
    have strip := stripQuotes_quotation q
    constructor
    · rw [requote, strip, readToken_body closed, same]
    · intro filled
      have wrapped := finalizeValue_like (isMergeField_quotation q) (strip.symm ▸ filled)
      rw [wrapped, strip, readToken_body (Sql.body_wrapLike q.body), List.cons_append,
        Sql.unescaped_cons (by decide), closed.unescaped_append, same]
      rfl

/-- An apostrophe and an escaped quote in double quotes, and a backslash that nothing follows. -/
theorem literals_keep_meaning_mixed :
    isMergeField ['\\'] = false ∧ stripQuotes ['\\'] ≠ [] ∧
    IsLiteral (finalizeValue .like ['\\']) ∧
    Sql.readToken (requote "\"it's\\\"n\"".toList) = some (.string '\'' "it's\"n".toList, []) ∧
    Sql.readToken (finalizeValue .like "\"it's\\\"n\"".toList) =
      some (.string '\'' "%it's\"n%".toList, []) := by
  have guarded : ∀ before after, "it's\\\"n".toList = before ++ '"' :: after →
      Text.isEscapedAfter before = true := by
    intro before after cut
    match before, cut with
    | ['i', 't', '\'', 's', '\\'], _ => rfl
    | [_, _, _, _, _, _], cut => simp at cut
    | _ :: _ :: _ :: _ :: _ :: _ :: _ :: rest, cut => simp at cut
  let string : Quotation := ⟨'"', rfl, "it's\\\"n".toList, guarded, rfl⟩
  obtain ⟨pattern, quoted⟩ := literals_keep_meaning
  obtain ⟨item, wrapped⟩ := quoted string
  exact ⟨rfl, by decide, pattern ['\\'] rfl (by decide), item, wrapped (List.cons_ne_nil _ _)⟩

end FilterQuery.Filter
