import FilterQuery.Proofs.Pieces
import FilterQuery.Proofs.Selection
import FilterQuery.Proofs.TypedNumbers

/-!
Lists against equalities. A column of whole numbers is asked for some numbers, in a list or one by one.
The rows are the same as long as the doubles tell the numbers apart.
-/

namespace FilterQuery.Filter

open Sql (Expr)

/-! The two filters as they are typed, and as sentences. -/

/-- `column -> (j1,j2,...)` -/
def memberText (column : Text) (numerals : List Numeral) : Text :=
  column ++ (" -> (".toList ++ (Text.join [','] (numerals.map Numeral.text) ++ [')']))

/-- `column == j1 || column == j2 ...` -/
def equalsText (column : Text) (numerals : List Numeral) : Text :=
  Text.join " || ".toList (numerals.map fun n => column ++ (" == ".toList ++ n.text))

def memberPhrase (column : Word) (first : Numeral) (more : List Numeral) : Phrase :=
  .member column first.item (more.map Numeral.item)

def equalsPhrase (column : Word) (n : Numeral) : Phrase := .compare column .eq nofun n.operand

def equalsAny (column : Word) (front : Sentence) (more : List Numeral) : Sentence :=
  more.foldl (fun front n => .extend front .or (equalsPhrase column n)) front

theorem spacedText_append (first second : List Lexeme) :
    spacedText (first ++ second) = spacedText first ++ spacedText second :=
  List.flatMap_append

theorem spacedText_moreLexemes (more : List Numeral) :
    spacedText (moreLexemes (more.map Numeral.item)) = more.flatMap fun n => ',' :: n.text := by
  induction more with
  | nil => rfl
  | cons n more ih =>
    show ',' :: (n.operand.text ++ spacedText (moreLexemes (more.map Numeral.item))) = _
    rw [n.text_operand, ih]
    rfl

theorem spacedText_member (column : Word) (first : Numeral) (more : List Numeral) :
    spacedText (memberPhrase column first more).lexemes = memberText column.text (first :: more) := by
  show column.text ++ (" -> ".toList ++ ('(' :: (first.operand.text ++
    spacedText (moreLexemes (more.map Numeral.item) ++ [.closing])))) = _
  rw [first.text_operand, spacedText_append, spacedText_moreLexemes, memberText, List.map_cons,
    Text.join_cons]
  simp [List.flatMap_map, spacedText, Lexeme.spaced, Lexeme.isOperator, Lexeme.text]

theorem spacedText_equals (column : Word) (n : Numeral) :
    spacedText (equalsPhrase column n).lexemes = column.text ++ (" == ".toList ++ n.text) := by
  show column.text ++ (" == ".toList ++ (n.operand.text ++ [])) = _
  rw [n.text_operand, List.append_nil]

theorem spacedText_extended (column : Word) (front : Sentence) (more : List Numeral) :
    spacedText (equalsAny column front more).lexemes = spacedText front.lexemes ++
      more.flatMap fun n => " || ".toList ++ (column.text ++ (" == ".toList ++ n.text)) := by
  induction more generalizing front with
  | nil => simp [equalsAny]
  | cons n more ih =>
    have extended : spacedText (Sentence.extend front .or (equalsPhrase column n)).lexemes =
        spacedText front.lexemes ++ (" || ".toList ++ (column.text ++ (" == ".toList ++ n.text))) := by
      rw [← spacedText_equals]
      exact spacedText_append front.lexemes _
    rw [equalsAny, List.foldl_cons, List.flatMap_cons, ← List.append_assoc, ← extended]
    exact ih _

theorem spacedText_equalsAny (column : Word) (first : Numeral) (more : List Numeral) :
    spacedText (equalsAny column (.single (equalsPhrase column first)) more).lexemes =
      equalsText column.text (first :: more) := by
  rw [spacedText_extended, Sentence.lexemes, spacedText_equals, equalsText, List.map_cons,
    Text.join_cons, List.flatMap_map]

/-! What SQL is given: numbers behind the equalities, and texts in the list. -/

theorem levels_constantOf (i : Int) : (constantOf (Text.ofInt i)).levels ≤ 2 := by
  have digits (n : Nat) := constantOf_digits fun c => @Decimal.isDigit_of_mem_ofNat n c
  cases i with
  | ofNat n =>
    rw [Text.ofInt, (digits n).1]
    simp [Expr.levels]
  | negSucc n =>
    rw [Text.ofInt, (digits (n + 1)).2]
    simp [Expr.levels]

theorem listLevels_texts (texts : List Text) :
    Expr.listLevels (texts.map fun t => .literal (.text t)) ≤ 1 := by
  induction texts with
  | nil => simp [Expr.listLevels]
  | cons t texts ih => exact Nat.max_le.2 ⟨by simp [Expr.levels], ih⟩

theorem condition_equals (fields : Bindings) (column : Word) (n : Numeral) :
    (Sentence.single (equalsPhrase column n)).chain.condition fields =
      .binary (.compare .eq) (.column column.text) (constantOf (Text.ofInt n.value.toInt)) := by
  have value : finalizeValue .eq n.operand.text = Text.ofInt n.value.toInt := by
    rw [n.text_operand, n.finalizeValue (by decide)]
  have constant : Clause.constant fields ⟨column.text, .eq, Text.ofInt n.value.toInt⟩ =
      constantOf (Text.ofInt n.value.toInt) := by
    simp [Clause.constant, (isConstant_ofInt n.value.toInt).isMergeField]
  show Expr.binary _ _ (Clause.constant fields ⟨column.text, .eq, _⟩) = _
  rw [value, constant]

theorem levels_equals (fields : Bindings) (column : Word) (n : Numeral) :
    ((Sentence.single (equalsPhrase column n)).chain.condition fields).levels ≤ 3 := by
  rw [condition_equals, Expr.levels, Expr.levels]
  exact Nat.max_le.2 ⟨by decide, Nat.succ_le_succ (levels_constantOf n.value.toInt)⟩

theorem splitItems_numerals (first : Numeral) (more : List Numeral) :
    splitItems (listText (first.item :: more.map Numeral.item)) = (first :: more).map Numeral.text := by
  rw [splitItems_listText, ← List.map_cons (f := Numeral.item), List.map_map]
  exact List.map_congr_left fun n _ => n.text_operand

theorem condition_member (fields : Bindings) (column : Word) (first : Numeral) (more : List Numeral) :
    (Sentence.single (memberPhrase column first more)).chain.condition fields =
      .inList false (.column column.text)
        (((first :: more).map Numeral.text).map fun t => .literal (.text t)) := by
  show Expr.inList _ _ ((splitItems _).map itemConstant) = _
  rw [splitItems_numerals]
  simp only [List.map_map]
  congr 1
  exact List.map_congr_left fun n _ => n.itemConstant

/-! Both filters are typed without strings and without the letters of an arrow. -/

theorem bare_equals (column : Word) (n : Numeral) :
    ∀ lexeme ∈ (equalsPhrase column n).lexemes, lexeme.Bare := by
  simp only [equalsPhrase, Phrase.lexemes, List.forall_mem_cons]
  exact ⟨nofun, nofun, n.bare_operand, nofun⟩

theorem bare_member (column : Word) (first : Numeral) (more : List Numeral) :
    ∀ lexeme ∈ (memberPhrase column first more).lexemes, lexeme.Bare := by
  have items : ∀ lexeme ∈ moreLexemes (more.map Numeral.item), lexeme.Bare := by
    intro lexeme member
    obtain ⟨item, among, here⟩ := List.mem_flatMap.1 member
    obtain ⟨n, _, rfl⟩ := List.mem_map.1 among
    rcases List.mem_pair.1 here with rfl | rfl
    · nofun
    · exact n.bare_operand
  simp only [memberPhrase, Phrase.lexemes, List.forall_mem_cons, List.forall_mem_append]
  exact ⟨⟨nofun, nofun, nofun, first.bare_operand, items⟩, nofun, nofun⟩

theorem arrowFree_spelled {column rest : Text} (name : IsColumnName column)
    (free : ¬ "IN".toList <:+: column) (other : 'N' ∉ rest) {lexemes : List Lexeme}
    (bare : ∀ lexeme ∈ lexemes, lexeme.Bare) (typed : spacedText lexemes = column ++ rest) :
    ArrowFree (spelled lexemes) := by
  have solid : column.filter (· ≠ ' ') = column := by
    refine List.filter_eq_self.2 fun c member => decide_eq_true ?_
    rintro rfl
    exact absurd (name.letters ' ' member) (by decide)
  rw [← filter_spacedText bare, typed, List.filter_append, solid]
  exact (arrowFree_of_absent free).append_other fun member => other (List.mem_filter.1 member).1

section Column

variable {column : Text} (name : IsColumnName column)
  (ordinary : Text.sameIgnoringCase column "in".toList = false)
  (free : ¬ "IN".toList <:+: column) {t : Table} {index : Nat}
  (held : t.schema.indexOf? column = some index) (fields : Bindings)
include free held

theorem selects_equals {n : Numeral} (negatable : n.value ≠ Int64.minValue) :
    (Sentence.single (equalsPhrase (name.word ordinary) n)).Selects fields t
      (fun row => (row.cell index).same (.integer n.value)) where
  bare := bare_equals _ n
  free := by
    have number : 'N' ∉ n.text := n.not_mem_text rfl (by decide) (by decide)
    have other : 'N' ∉ " == ".toList ++ n.text := by simp [number]
    exact arrowFree_spelled name free other (bare_equals _ n) (spacedText_equals _ n)
  readable := by
    refine List.forall_mem_singleton.2 ⟨⟨name, fun _ => .integer n.value.toInt ?_⟩, trivial⟩
    show finalizeValue .eq n.operand.text = _
    rw [n.text_operand, n.finalizeValue (by decide)]
  flat := Nat.le_trans (levels_equals fields _ n) (by decide)
  decides row member := by
    rw [condition_equals]
    exact Sql.decides_equals held (Sql.evaluate_constantOf _ row negatable)

theorem selects_equalsAny {front : Sentence} {keep : Row → Bool}
    (selects : front.Selects fields t keep) {more : List Numeral}
    (negatable : ∀ n ∈ more, n.value ≠ Int64.minValue) :
    (equalsAny (name.word ordinary) front more).Selects fields t
      (fun row => keep row || more.any fun n => (row.cell index).same (.integer n.value)) := by
  induction more generalizing front keep with
  | nil => simpa [equalsAny] using selects
  | cons n more ih =>
    rw [List.forall_mem_cons] at negatable
    have extended := selects.or (selects_equals name ordinary free held fields negatable.1)
      (Nat.lt_of_le_of_lt (levels_equals fields _ n) (by decide))
    simpa [equalsAny, Bool.or_assoc] using ih extended negatable.2

theorem selects_member (first : Numeral) (more : List Numeral) :
    (Sentence.single (memberPhrase (name.word ordinary) first more)).Selects fields t
      (fun row => (first :: more).any fun n => (row.cell index).same (.text n.text)) where
  bare := bare_member _ first more
  free := by
    have number (n : Numeral) : 'N' ∉ n.text := n.not_mem_text rfl (by decide) (by decide)
    have other : 'N' ∉ " -> (".toList ++
        (Text.join [','] ((first :: more).map Numeral.text) ++ [')']) := by
      simp [Text.join_cons, number]
    exact arrowFree_spelled name free other (bare_member _ first more)
      (spacedText_member _ first more)
  readable := by
    refine List.forall_mem_cons.2 ⟨⟨⟨name, fun plain => absurd rfl plain⟩, trivial⟩, ?_⟩
    refine List.forall_mem_singleton.2 ⟨?_, ?_⟩
    · intro item member
      rw [splitItems_numerals] at member
      obtain ⟨n, _, rfl⟩ := List.mem_map.1 member
      exact .inr fun c member => (n.solid member).2
    · show List.map _ _ = (splitItems _).map requote
      rw [splitItems_listText, List.map_map]
      rfl
  flat := by
    rw [condition_member, Expr.levels, Expr.levels]
    exact Nat.max_le.2 ⟨by decide, Nat.le_trans (Nat.succ_le_succ (listLevels_texts _)) (by decide)⟩
  decides row member := by
    have decided : Sql.Decides t.schema row _ _ :=
      Sql.decides_inList held ((first :: more).map Numeral.text)
    rw [List.any_map] at decided
    rw [condition_member]
    exact decided

variable {s : MemoryStore} {r : Request} (found : s.find? r.table = some t)
  (unquoted : '`' ∉ r.table) (typed : r.raw = false)
include found unquoted typed name ordinary

theorem fetch_member (mode : Normalization) {numerals : List Numeral} (filled : numerals ≠ []) :
    (r.withFilter (memberText column numerals)).fetch ⟨mode, true⟩ s =
      r.answerWith s t (t.rows.filter fun row =>
        numerals.any fun n => (row.cell index).same (.text n.text)) := by
  obtain ⟨first, more, rfl⟩ := List.exists_cons_of_ne_nil filled
  have selects := selects_member name ordinary free held r.fields first more
  have fetched := selects.fetch found unquoted typed mode
  rwa [Sentence.lexemes, spacedText_member] at fetched

theorem fetch_equals (mode : Normalization) {numerals : List Numeral} (filled : numerals ≠ [])
    (negatable : ∀ n ∈ numerals, n.value ≠ Int64.minValue) :
    (r.withFilter (equalsText column numerals)).fetch ⟨mode, true⟩ s =
      r.answerWith s t (t.rows.filter fun row =>
        numerals.any fun n => (row.cell index).same (.integer n.value)) := by
  obtain ⟨first, more, rfl⟩ := List.exists_cons_of_ne_nil filled
  rw [List.forall_mem_cons] at negatable
  have selects := selects_equalsAny name ordinary free held r.fields
    (selects_equals name ordinary free held r.fields negatable.1) negatable.2
  have fetched := selects.fetch found unquoted typed mode
  rwa [spacedText_equalsAny] at fetched

end Column

/-- A column of whole numbers is asked for some numbers. The list selects the rows that have the double
of one of them, the equalities those that have one of them; so the answers are the same unless two
numbers of more than 53 bits meet. -/
theorem fetch_member_equals (mode : Normalization) (s : MemoryStore) (r : Request) (t : Table)
    (found : s.find? r.table = some t) (unquoted : '`' ∉ r.table) (typed : r.raw = false)
    (column : Text) (name : IsColumnName column)
    (ordinary : Text.sameIgnoringCase column "in".toList = false)
    (free : ¬ "IN".toList <:+: column) (index : Nat) (held : t.schema.indexOf? column = some index)
    (whole : ∀ row ∈ t.rows, (row.cell index).IsWhole) (numerals : List Numeral)
    (filled : numerals ≠ []) (negatable : ∀ n ∈ numerals, n.value ≠ Int64.minValue) :
    (r.withFilter (memberText column numerals)).fetch ⟨mode, true⟩ s =
        r.answerWith s t (t.rows.filter fun row =>
          numerals.any fun n => (row.cell index).same n.double) ∧
      (r.withFilter (equalsText column numerals)).fetch ⟨mode, true⟩ s =
        r.answerWith s t (t.rows.filter fun row =>
          numerals.any fun n => (row.cell index).same (.integer n.value)) ∧
      ((∀ row ∈ t.rows, ∀ i, row.cell index = .integer i → ∀ n ∈ numerals,
          i.toInt.natAbs < 2 ^ 53 ∨ n.value.toInt.natAbs < 2 ^ 53) →
        (r.withFilter (memberText column numerals)).fetch ⟨mode, true⟩ s =
          (r.withFilter (equalsText column numerals)).fetch ⟨mode, true⟩ s) := by
  have member : (r.withFilter (memberText column numerals)).fetch ⟨mode, true⟩ s =
      r.answerWith s t (t.rows.filter fun row =>
        numerals.any fun n => (row.cell index).same n.double) := by
    rw [fetch_member name ordinary free held found unquoted typed mode filled]
    refine congrArg _ (List.filter_congr fun row among => ?_)
    exact List.any_congr rfl fun n => (whole row among).same_text n
  have equals := fetch_equals name ordinary free held found unquoted typed mode filled negatable
  refine ⟨member, equals, fun small => ?_⟩
  rw [member, equals]
  refine congrArg _ (List.filter_congr fun row among => ?_)
  rw [Bool.eq_iff_iff, List.any_eq_true, List.any_eq_true]
  refine exists_congr fun n => and_congr_right fun listed => ?_
  rw [(whole row among).same_integer fun i cell => small row among i cell n listed]

/-- The numbers are typed with a sign and a zero before them, and one row holds no number. -/
theorem fetch_member_equals_signed :
    let t : Table := { name := "t".toList, schema := ⟨[{ name := "id".toList }]⟩,
                       rows := [[.integer 5], [.null], [.integer (-7)]] }
    let fetch (filter : String) := Request.fetch ⟨.strict, true⟩ ({ tables := [t] } : MemoryStore)
      { table := "t".toList, filter := some filter.toList }
    fetch "id -> (-07,+2)" = fetch "id == -07 || id == +2" ∧
      (fetch "id -> (-07,+2)").1.toOption.map (·.rows.length) = some 1 := by
  intro t fetch
  have name : IsColumnName "id".toList := ⟨rfl, List.all_eq_true.1 rfl, by decide +kernel⟩
  have whole : ∀ row ∈ t.rows, (row.cell 0).IsWhole := by
    simp only [t, List.forall_mem_cons]
    exact ⟨.integer 5, .null, .integer (-7), nofun⟩
  let numerals : List Numeral := [⟨"-07".toList, -7, by decide⟩, ⟨"+2".toList, 2, by decide⟩]
  have small : ∀ n ∈ numerals, n.value.toInt.natAbs < 2 ^ 53 := by decide
  have answers := fetch_member_equals .strict { tables := [t] } { table := "t".toList } t rfl
    (by decide) rfl "id".toList name (by decide) (by decide) 0 rfl whole numerals nofun (by decide)
  exact ⟨answers.2.2 fun _ _ _ _ n listed => .inr (small n listed), by decide +kernel⟩

/-- Two numbers that differ have the same double, so that one is found in the list of the other. A backtick
in the name of the table ends the name: of two such names, one makes both filters unreadable, and the other
brings a condition of its own, so that both find a number that they do not ask for. -/
theorem fetch_member_ne_equals :
    let count (name filter : String) :=
      let t : Table := { name := name.toList, schema := ⟨[{ name := "id".toList }]⟩,
                         rows := [[.integer 9007199254740993]] }
      (Request.fetch ⟨.legacy, true⟩ ({ tables := [t] } : MemoryStore)
        { table := name.toList, filter := some filter.toList }).1.toOption.map (·.rows.length)
    (count "t" "id -> (9007199254740992)" = some 1 ∧ count "t" "id == 9007199254740992" = some 0) ∧
      (count "a`b" "id -> (9007199254740993)" = none ∧ count "a`b" "id == 9007199254740993" = none) ∧
      count "t` WHERE 1=1 #" "id -> (5)" = some 1 ∧ count "t` WHERE 1=1 #" "id == 5" = some 1 := by
  decide +kernel

end FilterQuery.Filter
