import FilterQuery.Proofs.Operands
import FilterQuery.Proofs.Spelling
import FilterQuery.Sql.Predicate

/-!
Reading rendered filters back. The tokens of a term are read as an operand, on which the operators
behind it go on, and the tokens of a chain bring the reader to the alternatives read off the chain.
Each of them is read exactly if there are levels enough.
-/

namespace FilterQuery.Sql

open FilterQuery.Filter (Comparator Connective constantTokens constantOf itemTokens IsConstant IsString
  IsColumnName reservedWords Alternatives)

theorem Expr.one_le_levels : ∀ e : Expr, 1 ≤ e.levels
  | .column _ | .literal _ | .unsupported => Nat.le_refl 1
  | .nested _ | .unary _ _ => Nat.le_add_left 1 _
  | .binary _ _ _ | .like _ _ _ | .inList _ _ _ =>
    Nat.le_trans (Nat.le_add_left 1 _) (Nat.le_max_right _ _)
  | .isNull _ operand => operand.one_le_levels

theorem Expr.exists_lower {e : Expr} {levels : Nat} (within : e.levels ≤ levels) :
    ∃ lower, levels = lower + 1 := by
  have positive := e.one_le_levels
  exact ⟨levels - 1, by omega⟩

/-! Tests behind a column. -/

theorem beginsName_constant {t : Text} (constant : IsConstant t) (rest : List Token) :
    beginsName (constantTokens t ++ rest) = false := by
  cases constant with
  | string string =>
    obtain ⟨isQuote, closed⟩ := string
    rw [Filter.constantTokens_string isQuote]
    rfl
  | number filled digits =>
    rw [(Filter.constantTokens_digits digits).1]
    rfl
  | negative filled digits =>
    rw [(Filter.constantTokens_digits digits).2]
    rfl

theorem infixPower_comparator (comparator : Comparator) (ts : List Token) :
    powerAnd < infixPower (comparator.token :: ts) := by
  cases comparator with
  | like => exact (by decide : powerAnd < powerLike)
  | _ => exact (by decide : powerAnd < powerCompare)

theorem infixed_constant {t : Text} (constant : IsConstant t) {comparator : Comparator}
    (plain : comparator ≠ .inList) (left : Expr) {rest : List Token} (stops : Stops rest)
    (levels : Nat) :
    (below levels).infixed left (comparator.token :: (constantTokens t ++ rest)) =
      if (constantOf t).levels ≤ levels then
        some (comparator.condition left (constantOf t), rest)
      else none := by
  have nameless := beginsName_constant constant rest
  have right (power : Nat) (strong : powerAnd ≤ power) :
      (below levels).operand power (constantTokens t ++ rest) =
        if (constantOf t).levels ≤ levels then some (constantOf t, rest) else none :=
    operand_constant constant stops levels (Nat.le_trans stops.infixPower strong)
  have compared (op : BinaryOp) :
      (below levels).rightOperand left op powerCompare (constantTokens t ++ rest) =
        if (constantOf t).levels ≤ levels then some (.binary op left (constantOf t), rest)
        else none := by
    simp [Below.rightOperand, accepts_oneOf_nameless nameless, right powerCompare (by decide)]
  have matched :
      (below levels).test false left (Comparator.like.token :: (constantTokens t ++ rest)) =
        if (constantOf t).levels ≤ levels then some (.like false left (constantOf t), rest)
        else none := by
    have unescaped : Below.escapeClause rest = some ((), rest) := by
      cases stops with
      | connective c ts => cases c <;> rfl
      | done | closing | comma => rfl
    by_cases deep : (constantOf t).levels ≤ levels <;>
      simp [Below.test, Comparator.token, optionally, accepts_word_nameless nameless,
        right powerLike (by decide), deep, unescaped]
  cases comparator with
  | inList => exact absurd rfl plain
  | like => exact matched
  | _ => exact compared _

/-! Terms. -/

/-- The tokens are read as `e` wherever they stand before something that ends a term and there are
levels enough; whether operators behind them are taken in is up to their power. -/
structure Reads (tokens : List Token) (e : Expr) : Prop where
  unquantified : ∀ rest, accepts (oneOf [.ANY, .ALL, .SOME]) (tokens ++ rest) =
    some (false, tokens ++ rest)
  single : ∀ rest, beginsQuery (tokens ++ rest) = false
  short : ∀ {levels power rest}, power ≤ powerAnd → Stops rest → levels < e.levels →
    operand levels power (tokens ++ rest) = none
  enough : ∀ {levels power rest}, power ≤ powerAnd → Stops rest → e.levels ≤ levels + 1 →
    ∃ fuel, rest.length ≤ fuel ∧
      operand (levels + 1) power (tokens ++ rest) = (below levels).climb power fuel e rest

theorem Reads.of_climb {tokens : List Token} {e : Expr} {needed : Nat}
    (depth : e.levels = needed + 1)
    (unquantified : ∀ rest, accepts (oneOf [.ANY, .ALL, .SOME]) (tokens ++ rest) =
      some (false, tokens ++ rest))
    (single : ∀ rest, beginsQuery (tokens ++ rest) = false)
    (climbed : ∀ {levels power rest}, power ≤ powerAnd → Stops rest → ∃ fuel, rest.length ≤ fuel ∧
      operand (levels + 1) power (tokens ++ rest) =
        if needed ≤ levels then (below levels).climb power fuel e rest else none) :
    Reads tokens e := by
  refine ⟨unquantified, single, ?_, ?_⟩
  · -- Without any level nothing is read at all.
    intro levels power rest weak stops deep
    cases levels with
    | zero => rfl
    | succ levels =>
      obtain ⟨fuel, _, read⟩ := @climbed levels power rest weak stops
      rw [read, if_neg (by omega)]
  · intro levels power rest weak stops flat
    obtain ⟨fuel, enough, read⟩ := @climbed levels power rest weak stops
    exact ⟨fuel, enough, by rw [read, if_pos (by omega)]⟩

theorem reads_test {column : Text} (name : IsColumnName column) (comparator : Comparator)
    {tested : List Token} {e : Expr} {needed : Nat} (depth : e.levels = needed + 1)
    (nameless : ∀ rest, beginsName (tested ++ rest) = false)
    (infixed : ∀ {rest levels}, Stops rest →
      (below levels).infixed (.column column) (comparator.token :: (tested ++ rest)) =
        if needed ≤ levels then some (e, rest) else none) :
    Reads (.ofWord column :: comparator.token :: tested) e := by
  have free : ∀ word ∈ reservedWords, Keyword.ofWord? column ≠ some word := name.free
  refine .of_climb depth ?_ ?_ ?_
  · intro rest
    refine accepts_oneOf_other column ?_ _
    intro choice member
    exact free choice ((by decide : [Keyword.ANY, .ALL, .SOME] ⊆ reservedWords) member)
  · intro rest
    exact beginsQuery_other column (free .SELECT (by decide)) (free .WITH (by decide)) _
  · intro levels power rest weak stops
    have primary := (below levels).primary_column column free comparator (nameless rest)
    have strong := Nat.lt_of_le_of_lt weak (infixPower_comparator comparator (tested ++ rest))
    refine ⟨(tested ++ rest).length, by simp, ?_⟩
    rw [operand_succ]
    simp only [List.cons_append, Token.ofWord, primary, Option.bind_some, List.length_cons]
    rw [Below.climb_step _ _ _ strong, infixed stops]
    split <;> rfl

theorem reads_clause {column t : Text} (name : IsColumnName column) {comparator : Comparator}
    (plain : comparator ≠ .inList) (constant : IsConstant t) :
    Reads (.ofWord column :: comparator.token :: constantTokens t)
      (comparator.condition (.column column) (constantOf t)) := by
  have depth : (comparator.condition (.column column) (constantOf t)).levels =
      (constantOf t).levels + 1 := by
    cases comparator with
    | inList => exact absurd rfl plain
    | _ => simp [Comparator.condition, Expr.levels]
  refine reads_test name comparator depth (beginsName_constant constant) ?_
  intro rest levels stops
  exact infixed_constant constant plain _ stops levels

section Lists

variable {α : Type} {item : Parser α} {a : α} {ts rest : List Token}

theorem commaSeparated_failed (failed : item ts = none) (fuel : Nat) :
    commaSeparated item fuel ts = none := by
  cases fuel with
  | zero => rfl
  | succ fuel => simp [commaSeparated, failed]

theorem commaSeparated_last (read : item ts = some (a, .sign .closing :: rest)) (fuel : Nat) :
    commaSeparated item (fuel + 1) ts = some ([a], .sign .closing :: rest) := by
  simp [commaSeparated, read, accepts, sign]

theorem commaSeparated_more (read : item ts = some (a, .sign .comma :: rest)) (fuel : Nat) :
    commaSeparated item (fuel + 1) ts =
      (commaSeparated item fuel rest).map fun found => (a :: found.1, found.2) := by
  simp [commaSeparated, read, accepts, sign]

end Lists

theorem levels_string {t : Text} (string : IsString t) : (constantOf t).levels = 1 := by
  obtain ⟨isQuote, closed⟩ := string
  rw [Filter.constantOf_string isQuote]
  rfl

theorem listLevels_strings {list : List Text} (filled : list ≠ [])
    (strings : ∀ item ∈ list, IsString item) : Expr.listLevels (list.map constantOf) = 1 := by
  induction list with
  | nil => exact absurd rfl filled
  | cons item list ih =>
    rw [List.forall_mem_cons] at strings
    cases list with
    | nil => simp [Expr.listLevels, levels_string strings.1]
    | cons next list =>
      rw [List.map_cons, Expr.listLevels, levels_string strings.1,
        ih (List.cons_ne_nil _ _) strings.2]
      rfl

theorem commaSeparated_strings {list : List Text} (filled : list ≠ [])
    (strings : ∀ item ∈ list, IsString item) (levels : Nat) (rest : List Token) {fuel : Nat}
    (enough : (itemTokens list ++ .sign .closing :: rest).length ≤ fuel) :
    commaSeparated (operand (levels + 1) 0) fuel (itemTokens list ++ .sign .closing :: rest) =
      some (list.map constantOf, .sign .closing :: rest) := by
  have read {item : Text} (string : IsString item) {after : List Token} (stops : Stops after)
      (weak : infixPower after ≤ 0) :
      operand (levels + 1) 0 (constantTokens item ++ after) = some (constantOf item, after) := by
    rw [operand_constant (.string string) stops _ weak, levels_string string, if_pos (by simp)]
  induction list generalizing fuel with
  | nil => exact absurd rfl filled
  | cons item list ih =>
    rw [List.forall_mem_cons] at strings
    cases fuel with
    | zero => simp at enough
    | succ fuel =>
      cases list with
      | nil => exact commaSeparated_last (read strings.1 (.closing rest) (Nat.zero_le _)) fuel
      | cons next list =>
        have first := read strings.1 (.comma (itemTokens (next :: list) ++ .sign .closing :: rest))
          (Nat.zero_le _)
        have shorter : (itemTokens (next :: list) ++ .sign .closing :: rest).length ≤ fuel := by
          simp only [itemTokens, List.append_assoc, List.cons_append, List.length_append,
            List.length_cons] at enough ⊢
          omega
        have later := commaSeparated_more first fuel
        rw [ih (List.cons_ne_nil _ _) strings.2 shorter] at later
        simpa [itemTokens] using later

theorem reads_membership {column : Text} (name : IsColumnName column) {list : List Text}
    (filled : list ≠ []) (strings : ∀ item ∈ list, IsString item) :
    Reads (.ofWord column :: Comparator.inList.token :: .sign .opening ::
        (itemTokens list ++ [.sign .closing]))
      (.inList false (.column column) (list.map constantOf)) := by
  have depth : (Expr.inList false (.column column) (list.map constantOf)).levels = 1 + 1 := by
    simp [Expr.levels, listLevels_strings filled strings]
  refine reads_test name .inList depth (fun rest => rfl) ?_
  intro rest levels stops
  have nameless : beginsName (itemTokens list ++ .sign .closing :: rest) = false := by
    obtain ⟨item, list, rfl⟩ := List.exists_cons_of_ne_nil filled
    have constant : IsConstant item := .string (strings item List.mem_cons_self)
    cases list with
    | nil => exact beginsName_constant constant _
    | cons next list => simpa [itemTokens] using beginsName_constant constant _
  have members : items (below levels).expr (itemTokens list ++ .sign .closing :: rest) =
      if 1 ≤ levels then some (list.map constantOf, .sign .closing :: rest) else none := by
    cases levels with
    | zero => exact commaSeparated_failed rfl _
    | succ levels => exact commaSeparated_strings filled strings levels rest (Nat.le_refl _)
  have infixed : (below levels).infixed (.column column) (Comparator.inList.token ::
        (.sign .opening :: (itemTokens list ++ [.sign .closing]) ++ rest)) =
      (below levels).membership false (.column column)
        (.sign .opening :: (itemTokens list ++ [.sign .closing]) ++ rest) := rfl
  rw [infixed]
  by_cases deep : 1 ≤ levels <;>
    simp [Below.membership, sign, beginsQuery_nameless nameless, members, deep]

/-! Chains. -/

/-- How the reading of a chain goes on behind the alternatives that have been read. The conjunction
behind the last `OR` is still being read one level further down. -/
def Resumes (a : Alternatives) (levels : Nat) (rest : List Token)
    (read : Option (Expr × List Token)) : Prop :=
  match a with
  | ⟨none, last⟩ => ∃ fuel, rest.length ≤ fuel ∧ read = (below levels).climb 0 fuel last rest
  | ⟨some earlier, last⟩ => ∃ lower inner outer, levels = lower + 1 ∧
      rest.length ≤ inner ∧ rest.length ≤ outer ∧
      read = ((below lower).climb powerOr inner last rest).bind fun found =>
        (below levels).climb 0 outer (.binary .or earlier found.1) found.2

structure ReadsChain (tokens : List Token) (a : Alternatives) : Prop where
  single : ∀ rest, beginsQuery (tokens ++ rest) = false
  short : ∀ {levels rest}, Stops rest → levels < a.expr.levels →
    operand levels 0 (tokens ++ rest) = none
  enough : ∀ {levels rest}, Stops rest → a.expr.levels ≤ levels + 1 →
    Resumes a levels rest (operand (levels + 1) 0 (tokens ++ rest))

theorem Reads.chain {tokens : List Token} {e : Expr} (reads : Reads tokens e) :
    ReadsChain tokens ⟨none, e⟩ where
  single := reads.single
  short := reads.short (Nat.zero_le _)
  enough := reads.enough (Nat.zero_le _)

theorem climb_connective {tokens : List Token} {e : Expr} (term : Reads tokens e)
    {connective : Connective} {op : BinaryOp} {above power : Nat}
    (stands : binaryOp? connective.token = some (op, above)) (strong : power < above)
    (levels : Nat) (left : Expr) (rest : List Token) {fuel : Nat}
    (enough : (connective.token :: (tokens ++ rest)).length ≤ fuel) :
    ∃ fewer, rest.length ≤ fewer ∧
      (below levels).climb power fuel left (connective.token :: (tokens ++ rest)) =
        (operand levels above (tokens ++ rest)).bind fun found =>
          (below levels).climb power fewer (.binary op left found.1) found.2 := by
  cases fuel with
  | zero => simp at enough
  | succ fuel =>
    have infixed : (below levels).infixed left (connective.token :: (tokens ++ rest)) =
        (below levels).rightOperand left op above (tokens ++ rest) := by
      cases connective <;> cases stands <;> rfl
    have joined : (below levels).rightOperand left op above (tokens ++ rest) =
        (operand levels above (tokens ++ rest)).map fun found =>
          (.binary op left found.1, found.2) := by
      simp [Below.rightOperand, term.unquantified, below]
    have power : infixPower (connective.token :: (tokens ++ rest)) = above := by
      cases connective <;> cases stands <;> rfl
    refine ⟨fuel, ?_, ?_⟩
    · simp only [List.length_cons, List.length_append] at enough
      omega
    · rw [Below.climb_step _ _ _ (by omega), infixed, joined, Option.bind_map]
      rfl

theorem Reads.operand_and {tokens : List Token} {e : Expr} (term : Reads tokens e)
    {rest : List Token} (stops : Stops rest) (levels : Nat) :
    operand levels powerAnd (tokens ++ rest) =
      if e.levels ≤ levels then some (e, rest) else none := by
  by_cases deep : e.levels ≤ levels
  · obtain ⟨lower, rfl⟩ := Expr.exists_lower deep
    obtain ⟨fuel, _, read⟩ := term.enough (Nat.le_refl _) stops deep
    rw [read, Below.climb_stop _ _ _ stops.infixPower, if_pos deep]
  · rw [if_neg deep]
    exact term.short (Nat.le_refl _) stops (by omega)

theorem Resumes.alternative {a : Alternatives} {levels : Nat} {rest : List Token}
    {read : Option (Expr × List Token)} (resumes : Resumes a levels rest read)
    (weak : infixPower rest ≤ powerOr) :
    ∃ fuel, rest.length ≤ fuel ∧ read = (below levels).climb 0 fuel a.expr rest := by
  obtain ⟨_ | earlier, last⟩ := a
  · exact resumes
  · obtain ⟨lower, inner, outer, rfl, _, enough, rfl⟩ := resumes
    refine ⟨outer, enough, ?_⟩
    rw [Below.climb_stop _ _ _ weak]
    rfl

/-- What one more term does: an `AND` puts it into the conjunction that is being read, and an `OR` begins
a new one. -/
theorem Resumes.extend {a : Alternatives} {levels : Nat} {tokens rest : List Token} {e : Expr}
    {connective : Connective} {read : Option (Expr × List Token)}
    (resumes : Resumes a levels (connective.token :: (tokens ++ rest)) read)
    (term : Reads tokens e) (stops : Stops rest) (within : a.expr.levels ≤ levels + 1) :
    (levels + 1 < (a.extend e connective).expr.levels → read = none) ∧
      ((a.extend e connective).expr.levels ≤ levels + 1 →
        Resumes (a.extend e connective) levels rest read) := by
  cases connective with
  | and =>
    -- The conjunction is all there is so far, or it stands one level down behind the last `OR`.
    obtain ⟨_ | earlier, last⟩ := a
    · obtain ⟨fuel, enough, rfl⟩ := resumes
      obtain ⟨fewer, remains, climbed⟩ :=
        climb_connective term rfl (by decide : 0 < powerAnd) levels last rest enough
      have depth : (Alternatives.extend ⟨none, last⟩ e .and).expr.levels =
          max last.levels (e.levels + 1) := rfl
      have shallow : last.levels ≤ levels + 1 := within
      rw [climbed, term.operand_and stops, depth]
      constructor
      · intro deep
        rw [if_neg (by omega)]
        rfl
      · intro flat
        rw [if_pos (by omega)]
        exact ⟨fewer, remains, rfl⟩
    · obtain ⟨lower, inner, outer, rfl, innerEnough, outerEnough, rfl⟩ := resumes
      obtain ⟨fewer, remains, climbed⟩ :=
        climb_connective term rfl (by decide : powerOr < powerAnd) lower last rest innerEnough
      have depth : (Alternatives.extend ⟨some earlier, last⟩ e .and).expr.levels =
          max earlier.levels (max last.levels (e.levels + 1) + 1) := rfl
      have shallow : max earlier.levels (last.levels + 1) ≤ lower + 1 + 1 := within
      rw [climbed, term.operand_and stops, depth]
      constructor
      · intro deep
        rw [if_neg (by omega)]
        rfl
      · intro flat
        rw [if_pos (by omega)]
        refine ⟨lower, fewer, outer, rfl, remains, ?_, rfl⟩
        simp only [List.length_cons, List.length_append] at outerEnough
        omega
  | or =>
    -- Back at the level of the chain, all before the `OR` is its left operand.
    obtain ⟨fuel, enough, rfl⟩ := resumes.alternative (Nat.le_refl _)
    obtain ⟨fewer, remains, climbed⟩ :=
      climb_connective term rfl (by decide : 0 < powerOr) levels a.expr rest enough
    have depth : (a.extend e .or).expr.levels = max a.expr.levels (e.levels + 1) := rfl
    rw [climbed, depth]
    constructor
    · intro deep
      rw [term.short (by decide) stops (by omega)]
      rfl
    · intro flat
      have within : e.levels ≤ levels := by omega
      obtain ⟨lower, rfl⟩ := Expr.exists_lower within
      obtain ⟨inner, innerEnough, began⟩ :=
        term.enough (by decide : powerOr ≤ powerAnd) stops within
      rw [began]
      exact ⟨lower, inner, fewer, rfl, innerEnough, remains, rfl⟩

theorem levels_extend (a : Alternatives) (e : Expr) (connective : Connective) :
    a.expr.levels ≤ (a.extend e connective).expr.levels := by
  obtain ⟨_ | earlier, last⟩ := a <;> cases connective <;>
    simp only [Alternatives.extend, Alternatives.expr, Expr.levels] <;> omega

theorem ReadsChain.extend {front tokens : List Token} {a : Alternatives} {e : Expr}
    (chain : ReadsChain front a) (connective : Connective) (term : Reads tokens e) :
    ReadsChain (front ++ connective.token :: tokens) (a.extend e connective) := by
  have regroup (rest : List Token) : front ++ connective.token :: tokens ++ rest =
      front ++ connective.token :: (tokens ++ rest) := by simp
  have grows := levels_extend a e connective
  refine ⟨?_, ?_, ?_⟩
  · intro rest
    rw [regroup]
    exact chain.single _
  · intro levels rest stops deep
    rw [regroup]
    -- Either the front nests too deep already, or it is the last term that does.
    by_cases within : a.expr.levels ≤ levels
    · obtain ⟨lower, rfl⟩ := Expr.exists_lower within
      exact ((chain.enough (.connective connective _) within).extend term stops within).1 deep
    · exact chain.short (.connective connective _) (by omega)
  · intro levels rest stops flat
    rw [regroup]
    have within := Nat.le_trans grows flat
    exact ((chain.enough (.connective connective _) within).extend term stops within).2 flat

theorem ReadsChain.whole {tokens : List Token} {a : Alternatives} (chain : ReadsChain tokens a)
    {rest : List Token} (stops : Stops rest) (ends : infixPower rest = 0) (levels : Nat) :
    operand levels 0 (tokens ++ rest) =
      if a.expr.levels ≤ levels then some (a.expr, rest) else none := by
  by_cases deep : a.expr.levels ≤ levels
  · obtain ⟨lower, rfl⟩ := Expr.exists_lower deep
    obtain ⟨fuel, _, read⟩ := (chain.enough stops deep).alternative (by omega)
    rw [read, Below.climb_stop _ _ _ (Nat.le_of_eq ends), if_pos deep]
  · rw [if_neg deep]
    exact chain.short stops (by omega)

theorem ReadsChain.inParentheses {tokens : List Token} {a : Alternatives}
    (chain : ReadsChain tokens a) (levels : Nat) {rest : List Token} (stops : Stops rest) :
    (below levels).inParentheses (tokens ++ .sign .closing :: rest) =
      if a.expr.levels ≤ levels then some (.nested a.expr, rest) else none := by
  have inner : (below levels).expr (tokens ++ .sign .closing :: rest) =
      if a.expr.levels ≤ levels then some (a.expr, .sign .closing :: rest) else none :=
    chain.whole (.closing rest) rfl levels
  have unnamed := stops.ne_period
  by_cases deep : a.expr.levels ≤ levels
  · rw [if_pos deep] at inner
    have filled : (tokens ++ .sign .closing :: rest).length =
        tokens.length + rest.length + 1 := by
      rw [List.length_append, List.length_cons]
      omega
    have only : items (below levels).expr (tokens ++ .sign .closing :: rest) =
        some ([a.expr], .sign .closing :: rest) := by
      rw [items, filled]
      exact commaSeparated_last inner _
    simp [Below.inParentheses, chain.single, only, deep, sign]
  · rw [if_neg deep] at inner
    have failed : items (below levels).expr (tokens ++ .sign .closing :: rest) = none :=
      commaSeparated_failed inner _
    simp [Below.inParentheses, chain.single, failed, deep]

theorem ReadsChain.group {tokens : List Token} {a : Alternatives} (chain : ReadsChain tokens a) :
    Reads (.sign .opening :: (tokens ++ [.sign .closing])) (.nested a.expr) := by
  have regroup (rest : List Token) : .sign .opening :: (tokens ++ [.sign .closing]) ++ rest =
      Token.sign .opening :: (tokens ++ .sign .closing :: rest) := by simp
  refine .of_climb rfl (fun rest => rfl) (fun rest => rfl) ?_
  intro levels power rest weak stops
  have untyped : (below levels).untyped (.sign .opening :: (tokens ++ .sign .closing :: rest)) =
      if a.expr.levels ≤ levels then some (.nested a.expr, rest) else none :=
    chain.inParentheses levels stops
  refine ⟨rest.length, Nat.le_refl _, ?_⟩
  rw [regroup, operand_succ, (below levels).primary_untyped rfl stops untyped]
  split <;> rfl

end FilterQuery.Sql
