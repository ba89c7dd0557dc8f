import FilterQuery.Proofs.Acceptance
import FilterQuery.Proofs.Conditions

/-!
A rendered filter is read back as the condition that it stands for: from the terms of its derivation to
the whole statement that the condition completes.
-/

namespace FilterQuery.Filter

open Sql (Reads ReadsChain)

/-- The items of a list are those that its text splits into, put in quotes again. -/
def Node.IsSplit : Node → Prop
  | .list raw items => items = (splitItems raw).map requote
  | _ => True

theorem Node.Readable.printable {fields : Bindings} {node : Node} (readable : node.Readable fields)
    (split : node.IsSplit) : node.Printable fields := by
  cases node with
  | clause c => exact ⟨readable.1, fun plain => ((readable.2 plain).resolve plain).1⟩
  | list raw items =>
    rw [Node.IsSplit] at split
    subst split
    refine ⟨by simpa [splitItems] using splitItemsFrom_ne_nil {} raw, ?_⟩
    intro item member
    obtain ⟨typed, found, rfl⟩ := List.mem_map.1 member
    exact (requote_constant (readable typed found)).1
  | _ => trivial

mutual

theorem Term.reads (fields : Bindings) : (term : Term) →
    (∀ node ∈ term.nodes, node.Readable fields ∧ node.IsSplit) →
    Reads (term.nodes.flatMap (Node.tokens fields)) (term.condition fields)
  | .clause c plain, fine => by
    obtain ⟨⟨name, has⟩, _⟩ := fine (.clause c) List.mem_cons_self
    obtain ⟨constant, same⟩ := (has plain).resolve plain
    have reads := Sql.reads_clause name plain constant
    simpa [Term.nodes, Node.tokens, Term.condition, plain, same] using reads
  | .membership c awaits raw items, fine => by
    obtain ⟨⟨name, _⟩, _⟩ := fine (.clause c) List.mem_cons_self
    obtain ⟨readable, split⟩ := fine (.list raw items) (by simp [Term.nodes])
    obtain ⟨filled, strings⟩ := Node.Readable.printable readable split
    have reads := Sql.reads_membership name filled strings
    have same : items.map constantOf = (splitItems raw).map itemConstant := by
      rw [show items = _ from split, List.map_map]
      exact List.map_congr_left fun item member => (requote_constant (readable item member)).2
    rw [same] at reads
    simpa [Term.nodes, Node.tokens, Term.condition, awaits] using reads
  | .group inner, fine => by
    have chain := inner.reads fields (fun node member => fine node (by simp [Term.nodes, member]))
    simpa [Term.nodes, Node.tokens, Term.condition] using chain.group

theorem Chain.reads (fields : Bindings) : (chain : Chain) →
    (∀ node ∈ chain.nodes, node.Readable fields ∧ node.IsSplit) →
    ReadsChain (chain.nodes.flatMap (Node.tokens fields)) (chain.alternatives fields)
  | .single term, fine => (term.reads fields fine).chain
  | .extend front connective last, fine => by
    have before := front.reads fields (fun node member => fine node (by simp [Chain.nodes, member]))
    have term := last.reads fields (fun node member => fine node (by simp [Chain.nodes, member]))
    simpa [Chain.nodes, Node.tokens, Chain.alternatives] using before.extend connective term

end

end FilterQuery.Filter

namespace FilterQuery.Sql

def selectionTokens (table : Text) : List Token :=
  [.word "SELECT".toList (some .SELECT), .sign .star, .word "FROM".toList (some .FROM),
    .quotedName table, .word "WHERE".toList (some .WHERE)]

theorem lexes_statementText {table condition : Text} (unquoted : '`' ∉ table) {tokens : List Token}
    (lexes : Lexes condition tokens []) :
    Lexes (Predicate.statementText table condition) (selectionTokens table ++ tokens) [] := by
  have spaced {t : Text} {token : Token} (read : ∀ rest, Lexes t [token] (' ' :: rest))
      (rest : Text) : Lexes (t ++ [' ']) [token] rest :=
    (read rest).append (lexes_space rest)
  have select := lexes_word (t := "SELECT".toList) rfl (List.all_eq_true.1 rfl)
  have star (rest : Text) : Lexes "*".toList [.sign .star] (' ' :: rest) := lexes_plain rfl rfl
  have from_ := lexes_word (t := "FROM".toList) rfl (List.all_eq_true.1 rfl)
  have where_ := lexes_word (t := "WHERE".toList) rfl (List.all_eq_true.1 rfl)
  have keywords : Token.ofWord "SELECT".toList = .word "SELECT".toList (some .SELECT) ∧
      Token.ofWord "FROM".toList = .word "FROM".toList (some .FROM) ∧
      Token.ofWord "WHERE".toList = .word "WHERE".toList (some .WHERE) := ⟨rfl, rfl, rfl⟩
  rw [keywords.1] at select
  rw [keywords.2.1] at from_
  rw [keywords.2.2] at where_
  have whole := (spaced select _).append <| (spaced star _).append <| (spaced from_ _).append <|
    (spaced (lexes_quotedName unquoted) _).append <| (spaced where_ _).append lexes
  have front : "SELECT * FROM `".toList =
      "SELECT".toList ++ [' '] ++ ("*".toList ++ [' '] ++ ("FROM".toList ++ [' '] ++ ['`'])) := by
    simp
  have back : "` WHERE ".toList = ['`'] ++ [' '] ++ ("WHERE".toList ++ [' ']) := by simp
  unfold Predicate.statementText
  rw [front, back]
  simpa only [selectionTokens, List.append_assoc, List.cons_append, List.nil_append] using whole

theorem Below.queryHere_selection (b : Below) (table : Text) (ts : List Token) :
    b.queryHere (selectionTokens table ++ ts) =
      (clause (word .WHERE) b.expr (.word "WHERE".toList (some .WHERE) :: ts)).bind fun found => (do
        b.grouping
        let condition ← b.combination found.1
        b.ending
        return condition : Parser (Option Expr)) found.2 := by
  have selects : b.select (selectionTokens table ++ ts) =
      (clause (word .WHERE) b.expr (.word "WHERE".toList (some .WHERE) :: ts)).bind fun found =>
        (do b.grouping; return found.1 : Parser (Option Expr)) found.2 := rfl
  have body : b.body (selectionTokens table ++ ts) = b.select (selectionTokens table ++ ts) := rfl
  have other {key : Keyword} (different : Keyword.SELECT ≠ key) :
      accepts (word key) (selectionTokens table ++ ts) = some (false, selectionTokens table ++ ts) := by
    simp [selectionTokens, accepts, word, different]
  simp [queryHere, other, body, selects, Option.bind_assoc]

theorem query_selection (levels : Nat) (table : Text) {ts : List Token} {read : Option Expr}
    (condition : operand levels 0 ts = read.map fun e => (e, [])) :
    query (levels + 1) (selectionTokens table ++ ts) = read.map fun e => (some e, []) := by
  have behind : clause (word .WHERE) (below levels).expr (.word "WHERE".toList (some .WHERE) :: ts) =
      (operand levels 0 ts).bind fun found => some (some found.1, found.2) := rfl
  have here : query (levels + 1) (selectionTokens table ++ ts) =
      (below levels).queryHere (selectionTokens table ++ ts) := by
    rw [query]
    rfl
  rw [here, Below.queryHere_selection, behind, condition]
  cases read with
  | none => rfl
  | some e => rfl

theorem runnable_selection (levels : Nat) (table : Text) (ts : List Token) :
    runnable levels (selectionTokens table ++ ts) =
      (query levels (selectionTokens table ++ ts)).bind fun found =>
        some (.query found.1, found.2) := rfl

theorem statement_selection (table : Text) {ts : List Token} {read : Option Expr}
    (condition : operand (maxLevels - 2) 0 ts = read.map fun e => (e, [])) :
    statement (selectionTokens table ++ ts) = read.map fun e => (.query (some e), []) := by
  -- A query that cannot be read is no explanation either.
  have unexplained : explained (selectionTokens table ++ ts) = none := rfl
  have levels : maxLevels - 1 = maxLevels - 2 + 1 := rfl
  rw [statement, Parser.orElse_apply, levels, runnable_selection, query_selection _ _ condition]
  cases read with
  | none => simp [unexplained]
  | some e => rfl

theorem statements?_selection (table : Text) {ts : List Token} {read : Option Expr}
    (condition : operand (maxLevels - 2) 0 ts = read.map fun e => (e, [])) :
    statements? (selectionTokens table ++ ts) = read.map fun e => [.query (some e)] := by
  have first := statement_selection table condition
  rw [statements?]
  simp only [selectionTokens, List.cons_append, List.nil_append, List.length_cons] at first ⊢
  rw [statementsWithin, first]
  · cases read <;> rfl
  · nofun
  · rintro after same
    cases same

theorem Predicate.parse_selection {table condition : Text} (unquoted : '`' ∉ table)
    {tokens : List Token} {read : Option Expr} (lexes : Lexes condition tokens [])
    (operand : operand (maxLevels - 2) 0 tokens = read.map fun e => (e, [])) (p : Predicate) :
    Predicate.parse table condition = .ok p ↔ read = some p.condition := by
  have tokens := (lexes_statementText unquoted lexes).tokens?
  have statements := statements?_selection table operand
  simp only [Predicate.parse, tokens, Option.bind_some, statements]
  cases read with
  | none => simp
  | some e =>
    obtain ⟨condition⟩ := p
    simp

end FilterQuery.Sql

namespace FilterQuery.Filter

open Sql (Predicate maxLevels)

theorem parse_render_chain {fields : Bindings} {chain : Chain}
    (fine : ∀ node ∈ chain.nodes, node.Readable fields ∧ node.IsSplit) {table : Text}
    (unquoted : '`' ∉ table) (p : Predicate) :
    Predicate.parse table (render fields chain.nodes) = .ok p ↔
      p.condition = chain.condition fields ∧ p.condition.levels ≤ maxLevels - 2 := by
  have lexes := lexes_render fun node member => (fine node member).1.printable (fine node member).2
  have whole := (chain.reads fields fine).whole .done rfl (maxLevels - 2)
  have read : Sql.operand (maxLevels - 2) 0 (chain.nodes.flatMap (Node.tokens fields)) =
      (if (chain.condition fields).levels ≤ maxLevels - 2 then some (chain.condition fields)
        else none).map fun e => (e, []) := by
    rw [List.append_nil] at whole
    rw [whole, Chain.condition]
    split <;> rfl
  rw [Predicate.parse_selection unquoted lexes read]
  constructor
  · intro found
    split at found
    · rename_i flat
      have same := Option.some.inj found
      rw [← same]
      exact ⟨rfl, flat⟩
    · cases found
  · rintro ⟨same, flat⟩
    rw [same] at flat ⊢
    rw [if_pos flat]

/-- SQL reads a rendered filter as the condition that its derivation stands for, and it refuses only
filters that nest too deep and the empty one. The name of the table stands in backticks before the filter,
so it must have none of its own. -/
theorem predicate_parse_render (options : Options) (t : Text) (nodes : List Node)
    (parsed : parse options t = .ok nodes) (fields : Bindings)
    (readable : ∀ node ∈ nodes, node.Readable fields) (table : Text) (unquoted : '`' ∉ table)
    (p : Predicate) :
    Predicate.parse table (render fields nodes) = .ok p ↔
      ∃ chain : Chain, chain.nodes = nodes ∧ p.condition = chain.condition fields ∧
        p.condition.levels ≤ maxLevels - 2 := by
  obtain ⟨derived, each, _⟩ := scan_faithful (Source.scan_eq_ok parsed)
  -- That lists repeat the items of their text is what the scanner makes sure of.
  have fine : ∀ node ∈ nodes, node.Readable fields ∧ node.IsSplit := by
    intro node member
    refine ⟨readable node member, ?_⟩
    obtain ⟨before, after, cut⟩ := List.append_of_mem member
    have fits := each before node after cut
    cases node with
    | list raw items => exact fits.2
    | _ => trivial
  rcases derived with rfl | ⟨chain, rfl⟩
  · -- Without a condition behind it, the statement cannot be read.
    have lexes : Sql.Lexes (render fields []) [] [] := Sql.lexes_nil []
    have unread : Sql.operand (maxLevels - 2) 0 [] =
        (none : Option Sql.Expr).map fun e => (e, []) := rfl
    have refused := Predicate.parse_selection unquoted lexes unread p
    constructor
    · intro accepted
      simpa using refused.1 accepted
    · rintro ⟨chain, empty, _⟩
      obtain ⟨node, found, _⟩ := chain.last_node
      simp [empty] at found
  · constructor
    · intro accepted
      exact ⟨chain, rfl, (parse_render_chain fine unquoted p).1 accepted⟩
    · -- Any derivation of the nodes will do, since each decides what is read.
      rintro ⟨other, same, condition⟩
      rw [← same] at fine ⊢
      exact (parse_render_chain fine unquoted p).2 condition

/-- A negative number and a list in a group, and a text with an apostrophe bound to a field under
`LIKE`. -/
theorem predicate_parse_render_group :
    Predicate.parse "items".toList
        (render ⟨[("n".toList, .text "o'b".toList)], by simp⟩
          [.opening, .clause ⟨['a'], .le, "-7".toList⟩, .connective .or,
            .clause ⟨['b'], .inList, "'x,y',z".toList⟩,
            .list "'x,y',z".toList ["'x,y'".toList, "'z'".toList], .closing, .connective .and,
            .clause ⟨['c'], .like, "$n".toList⟩]) =
      .ok ⟨.binary .and
        (.nested (.binary .or
          (.binary (.compare .le) (.column ['a']) (.unary .minus (.literal (.number ['7']))))
          (.inList false (.column ['b']) [.literal (.text "x,y".toList), .literal (.text ['z'])])))
        (.like false (.column ['c']) (.literal (.text "%o'b%".toList)))⟩ := by
  have name (c : Char) (letter : c.isAlpha = true) (other : Sql.Keyword.ofWord? [c] = none) :
      IsColumnName [c] :=
    ⟨by simp [letter], by simp [Char.isAlphanum, letter], by simp [other]⟩
  refine (predicate_parse_render ⟨.strict, true⟩ "(a<=-7||b->('x,y',z))&&c%%$n".toList _ ?_ _ ?_ _
    (by decide) _).2 ?_
  · rfl
  · have guarded : ∀ before after, "x,y".toList = before ++ '\'' :: after →
        Text.isEscapedAfter before = true := by
      intro before after cut
      have member : '\'' ∈ "x,y".toList := by simp [cut]
      simp at member
    let string : Text.Quotation := ⟨'\'', rfl, "x,y".toList, guarded, rfl⟩
    have items : ∀ item ∈ splitItems "'x,y',z".toList, IsPlainItem item := by
      have split : splitItems "'x,y',z".toList = [string.text, ['z']] := rfl
      simp only [split, List.forall_mem_cons, List.not_mem_nil, false_imp_iff, implies_true, and_true]
      refine ⟨.inl ⟨string, rfl⟩, .inr ?_⟩
      intro c member
      cases List.mem_singleton.1 member
      decide
    simp only [List.forall_mem_cons, List.not_mem_nil, false_imp_iff, implies_true, and_true]
    exact ⟨trivial, ⟨name 'a' rfl (by decide +kernel), fun _ => .integer (-7) rfl⟩, trivial,
      ⟨name 'b' rfl (by decide +kernel), fun plain => absurd rfl plain⟩, items, trivial, trivial,
      name 'c' rfl (by decide +kernel), fun _ => .bound (.text "o'b".toList) rfl rfl rfl⟩
  · let inner : Chain := .extend (.single (.clause ⟨['a'], .le, "-7".toList⟩ (by decide))) .or
      (.membership ⟨['b'], .inList, "'x,y',z".toList⟩ rfl "'x,y',z".toList
        ["'x,y'".toList, "'z'".toList])
    exact ⟨.extend (.single (.group inner)) .and (.clause ⟨['c'], .like, "$n".toList⟩ (by decide)),
      rfl, rfl, by decide⟩

theorem Chain.eq_single_of_nodes {chain : Chain} {c : Clause} (same : chain.nodes = [.clause c]) :
    ∃ plain, chain = .single (.clause c plain) := by
  cases chain with
  | single term =>
    cases term with
    | clause c' plain =>
      cases same
      exact ⟨plain, rfl⟩
    | membership c' awaits raw items => cases same
    | group inner => cases same
  | extend front connective last =>
    have member : Node.connective connective ∈ [Node.clause c] := by
      rw [← same, Chain.nodes]
      simp
    simp at member

/-- A backtick in the name of the table ends the name. This name goes on with a condition of its own and the
sign of a comment, so that the filter `a == 1` is not read at all. -/
theorem parse_render_overruled :
    ∃ nodes, parse {} "a == 1".toList = .ok nodes ∧ (∀ node ∈ nodes, node.Readable .empty) ∧
      Predicate.parse "t` WHERE 1=1 #".toList (render .empty nodes) =
        .ok ⟨.binary (.compare .eq) (.literal (.number ['1'])) (.literal (.number ['1']))⟩ ∧
      ∀ chain : Chain, chain.nodes = nodes → chain.condition .empty =
        .binary (.compare .eq) (.column ['a']) (.literal (.number ['1'])) := by
  let nodes : List Node := [.clause ⟨['a'], .eq, ['1']⟩]
  refine ⟨nodes, rfl, ?_, ?_, ?_⟩
  · have name : IsColumnName ['a'] := ⟨rfl, by simp [Char.isAlphanum], by decide +kernel⟩
    intro node member
    cases List.mem_singleton.1 member
    exact ⟨name, fun _ => .integer 1 rfl⟩
  · have tokens : Sql.tokens? (Predicate.statementText "t` WHERE 1=1 #".toList (render .empty nodes)) =
        some (Sql.selectionTokens ['t'] ++ [.number ['1'], .sign .eq, .number ['1']]) := by decide +kernel
    have read : Sql.operand (maxLevels - 2) 0 [.number ['1'], .sign .eq, .number ['1']] =
        (some (.binary (.compare .eq) (.literal (.number ['1'])) (.literal (.number ['1'])))).map
          fun e => (e, []) := rfl
    rw [Predicate.parse, tokens, Option.bind_some, Sql.statements?_selection ['t'] read]
    rfl
  · intro chain same
    obtain ⟨plain, rfl⟩ := Chain.eq_single_of_nodes same
    rfl

end FilterQuery.Filter
