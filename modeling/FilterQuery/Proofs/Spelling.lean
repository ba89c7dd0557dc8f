import Mathlib.Data.List.Forall2
import FilterQuery.Proofs.Moves

/-!
What a scanner has read is what its nodes spell. A run keeps three facts: the nodes and the clause
under construction are written by the characters read so far, the nodes are the beginning of a
derivation, and each node is complete and stands where it belongs. At the end of an accepted text the
three say that the nodes are a derivation whose spelling is the text.
-/

namespace FilterQuery.Filter

/-! Values are never empty, whatever form they are brought into. -/

theorem ofInt_ne_nil (i : Int) : Text.ofInt i ≠ [] := by
  cases i with
  | ofNat n => exact Nat.toDigits_ne_nil
  | negSucc n => exact List.cons_ne_nil _ _

theorem plainText_ne_nil (d : Decimal.Digits) : d.plainText ≠ [] := by
  unfold Decimal.Digits.plainText
  split
  · exact List.cons_ne_nil _ _
  · exact List.cons_ne_nil _ _
  · rename_i n nonzero point
    have positive : n ≠ 0 := fun zero => nonzero (by rw [zero])
    split
    · intro empty
      simp only [List.append_eq_nil_iff, List.replicate_eq_nil_iff] at empty
      rw [empty.1] at empty
      exact positive (by simpa using empty.2)
    · simp

theorem floatText_ne_nil (x : Float) : Value.floatLayout.text x ≠ [] := by
  simp only [Decimal.Layout.text, Decimal.Layout.digitsText, Value.floatLayout, ↓reduceIte]
  split
  · exact List.cons_ne_nil _ _
  · split
    · exact List.cons_ne_nil _ _
    · split
      · exact List.cons_ne_nil _ _
      · split
        · exact List.cons_ne_nil _ _
        · simp [plainText_ne_nil]

theorem coerceBare_ne_nil {raw : Text} (filled : raw ≠ []) : coerceBare raw ≠ [] := by
  unfold coerceBare
  extract_lets number
  have numeric : ∀ t, number = some t → t ≠ [] := by
    intro t found
    simp only [number] at found
    split at found
    · cases found
    · split at found
      · obtain ⟨x, _, rfl⟩ := Option.map_eq_some_iff.1 found
        exact floatText_ne_nil x
      · obtain ⟨i, _, rfl⟩ := Option.map_eq_some_iff.1 found
        exact ofInt_ne_nil _
  clear_value number
  cases number with
  | some t => exact numeric t rfl
  | none =>
    dsimp only
    split
    · exact List.cons_ne_nil _ _
    · split
      · exact List.cons_ne_nil _ _
      · exact filled

theorem finalizeValue_ne_nil (comparator : Comparator) {raw : Text} (filled : raw ≠ []) :
    finalizeValue comparator raw ≠ [] := by
  unfold finalizeValue
  split
  · exact filled
  · split
    · dsimp only
      split
      · exact filled
      · exact List.cons_ne_nil _ _
    · split
      · exact filled
      · exact coerceBare_ne_nil filled

/-! What is said of each node and the one before it. -/

def EachAfter (P : Option Node → Node → Prop) (nodes : List Node) : Prop :=
  ∀ before node after, nodes = before ++ node :: after → P before.getLast? node

theorem eachAfter_nil (P : Option Node → Node → Prop) : EachAfter P [] := by
  intro before node after cut
  simp at cut

theorem EachAfter.snoc {P : Option Node → Node → Prop} {nodes : List Node} {node : Node}
    (each : EachAfter P nodes) (last : P nodes.getLast? node) : EachAfter P (nodes ++ [node]) := by
  intro before found after cut
  -- The node in question is the new one or one of those before it.
  rcases List.eq_nil_or_concat after with rfl | ⟨inner, end_, rfl⟩
  · obtain ⟨rfl, same⟩ := List.append_inj' cut rfl
    cases same
    exact last
  · have split : nodes ++ [node] = (before ++ found :: inner) ++ [end_] := by simpa using cut
    obtain ⟨rfl, _⟩ := List.append_inj' split rfl
    exact each before found inner rfl

/-- Clauses are complete, with lists only where they are allowed, and a list repeats the value of the
clause before it and divides it into its items. -/
def Node.Fits (lists : Bool) (previous : Option Node) : Node → Prop
  | .clause c => c.column ≠ [] ∧ c.value ≠ [] ∧ (c.comparator = .inList → lists = true)
  | .list raw items =>
    (∃ c, previous = some (.clause c) ∧ c.comparator = .inList ∧ c.value = raw) ∧
      items = (splitItems raw).map requote
  | _ => True

/-! How nodes are written. -/

def Node.WrittenAs : Node → Text → Prop
  | .clause c, t =>
    if c.comparator = .inList then t = c.column ++ "->".toList
    else ∃ typed, t = c.column ++ c.comparator.spelling ++ typed ∧
      finalizeValue c.comparator typed = c.value
  | .connective c, t => t = [c.mark, c.mark]
  | .opening, t => t = ['(']
  | .closing, t => t = [')']
  | .list raw _, t => t = '(' :: raw ++ [')']

/-- The text consists of the spellings of the nodes, in their order. -/
def Written (nodes : List Node) (t : Text) : Prop :=
  ∃ pieces, List.Forall₂ Node.WrittenAs nodes pieces ∧ pieces.flatten = t

theorem written_nil : Written [] [] := ⟨[], .nil, rfl⟩

theorem Written.snoc {nodes : List Node} {t piece : Text} {node : Node}
    (written : Written nodes t) (last : node.WrittenAs piece) :
    Written (nodes ++ [node]) (t ++ piece) := by
  obtain ⟨pieces, each, rfl⟩ := written
  exact ⟨pieces ++ [piece], List.rel_append each (.cons last .nil), by simp⟩

def Draft.spelling : Draft → Text
  | idle => []
  | column _ name => name
  | value _ name comparator typed => name ++ comparator.spelling ++ typed
  | list _ name _ raw => name ++ "->".toList ++ '(' :: raw

def Draft.Sound (lists : Bool) : Draft → Prop
  | idle => True
  | column _ name => name ≠ []
  | value _ name comparator _ => name ≠ [] ∧ (comparator = .inList → lists = true)
  | list _ name _ _ => name ≠ [] ∧ lists = true

namespace Scanner

theorem accept_spelling (s : Scanner) (c : Char) :
    (s.accept c).draft.spelling = s.draft.spelling ++ [c] := by
  unfold accept
  split <;> simp_all [Draft.spelling]

theorem accept_sound {lists : Bool} {s : Scanner} (c : Char) (sound : s.draft.Sound lists) :
    (s.accept c).draft.Sound lists := by
  unfold accept
  split <;> simp_all [Draft.Sound]

/-! The nodes are the beginning of a derivation. -/

def Viable (s : Scanner) : Prop := Awaiting s.depth s.nodes ∨ Ended s.depth s.nodes

theorem Viable.awaiting {s : Scanner} {node : Node} (viable : s.Viable)
    (free : obstacle s.nodes.getLast? node = none)
    (begins : node.kind = .clause ∨ node.kind = .opening) : Awaiting s.depth s.nodes := by
  rcases viable with awaiting | ended
  · exact awaiting
  · rcases (ended.obstacle_iff node).1 free with kind | kind <;> simp [kind] at begins

theorem Viable.nodes_ne_nil {s : Scanner} (viable : s.Viable) (inside : s.depth ≠ 0) :
    s.nodes ≠ [] := by
  intro empty
  rcases viable with awaiting | ended
  · rcases awaiting.last with ⟨zero, _⟩ | found | ⟨_, found⟩
    · exact inside zero
    · simp [empty] at found
    · simp [empty] at found
  · obtain ⟨node, found, _⟩ := ended.last
    simp [empty] at found

theorem Completes.viable {s ended : Scanner} (completes : s.Completes ended) (viable : s.Viable) :
    ended.Viable := by
  cases completes with
  | idle draft => exact viable
  | clause draft filled plain free =>
    exact .inr ((viable.awaiting free (.inl rfl)).ended (.clause _ plain))

theorem Completes.depth {s ended : Scanner} (completes : s.Completes ended) :
    ended.depth = s.depth := by
  cases completes <;> rfl

theorem Completes.index {s ended : Scanner} (completes : s.Completes ended) :
    ended.index = s.index := by
  cases completes <;> rfl

theorem Completes.draft {s ended : Scanner} (completes : s.Completes ended) : ended.draft = .idle := by
  cases completes with
  | idle draft => exact draft
  | clause => rfl

theorem Move.viable {lists : Bool} {s moved : Scanner} {c : Char} {next : Option Char}
    (move : Move lists s c next moved) (viable : s.Viable) : moved.Viable := by
  cases move with
  | pass | openList | compare => exact viable
  | take => simpa [Viable] using viable
  | openGroup first mark draft free =>
    exact .inl (viable.awaiting free (.inr rfl)).opened
  | closeList first mark unquoted draft filled free =>
    exact .inr ((viable.awaiting free (.inl rfl)).ended (.membership _ rfl _ _))
  | @closeGroup ended first mark inside completes free =>
    rw [← completes.depth] at inside
    obtain ⟨depth, deeper⟩ := Nat.exists_eq_succ_of_ne_zero inside
    rcases completes.viable viable with awaiting | done
    · -- Where a term is due only an empty sequence lets it pass, and that has no group to close.
      have empty : ended.nodes = [] := by simpa [Node.kind] using (awaiting.obstacle_iff _).1 free
      have viable : ended.Viable := .inl awaiting
      exact absurd empty (viable.nodes_ne_nil inside)
    · rw [deeper] at done
      refine .inr ?_
      simpa [deeper] using done.closed
  | connect first mark doubled completes free =>
    rcases completes.viable viable with awaiting | done
    · have := (awaiting.obstacle_iff _).1 free
      simp [Node.kind] at this
    · exact .inl (done.connected _)

/-! Every node is complete and stands where it belongs. -/

def Orderly (lists : Bool) (s : Scanner) : Prop :=
  EachAfter (Node.Fits lists) s.nodes ∧ s.draft.Sound lists

theorem Completes.orderly {lists : Bool} {s ended : Scanner} (completes : s.Completes ended)
    (orderly : s.Orderly lists) : ended.Orderly lists := by
  obtain ⟨each, sound⟩ := orderly
  cases completes with
  | idle draft => exact ⟨each, sound⟩
  | clause draft filled plain free =>
    rw [draft] at sound
    refine ⟨each.snoc ⟨sound.1, finalizeValue_ne_nil _ filled, ?_⟩, trivial⟩
    exact fun list => absurd list plain

theorem Move.orderly {lists : Bool} {s moved : Scanner} {c : Char} {next : Option Char}
    (move : Move lists s c next moved) (orderly : s.Orderly lists) : moved.Orderly lists := by
  obtain ⟨each, sound⟩ := orderly
  cases move with
  | pass => exact ⟨each, sound⟩
  | take => exact ⟨by simpa using each, accept_sound c sound⟩
  | openGroup first mark draft free => exact ⟨each.snoc trivial, sound⟩
  | openList first mark draft =>
    rw [draft] at sound
    exact ⟨each, sound.1, sound.2 rfl⟩
  | closeGroup first mark inside completes free =>
    obtain ⟨each, sound⟩ := completes.orderly ⟨each, sound⟩
    exact ⟨each.snoc trivial, sound⟩
  | @closeList start name opened raw first mark unquoted draft filled free =>
    rw [draft] at sound
    have clauseFits : EachAfter (Node.Fits lists) (s.nodes ++ [.clause ⟨name, .inList, raw⟩]) :=
      each.snoc ⟨sound.1, filled, fun _ => sound.2⟩
    have listFits := clauseFits.snoc
      (show Node.Fits lists _ (.list raw ((splitItems raw).map requote)) from
        ⟨⟨_, List.getLast?_concat, rfl, rfl⟩, rfl⟩)
    exact ⟨by simpa using listFits, trivial⟩
  | compare first draft written allowed =>
    rw [draft] at sound
    exact ⟨each, sound, allowed⟩
  | connect first mark doubled completes free =>
    obtain ⟨each, sound⟩ := completes.orderly ⟨each, sound⟩
    exact ⟨each.snoc trivial, sound⟩

/-! No character is lost. An operator of two characters is accounted for when the first is read, so
half way through it the second, which is the next character, is owed. -/

def Accounts (s : Scanner) (consumed : Text) (next : Option Char) : Prop :=
  (s.halfway = true → next.isSome = true) ∧
    ∃ t, Written s.nodes t ∧
      t ++ s.draft.spelling = consumed ++ if s.halfway then next.toList else []

theorem accounts_settled {s : Scanner} {t consumed : Text} {next : Option Char}
    (settled : s.halfway = false) (written : Written s.nodes t)
    (total : t ++ s.draft.spelling = consumed) : s.Accounts consumed next :=
  ⟨by simp [settled], t, written, by simp [settled, total]⟩

theorem accounts_owing {s : Scanner} {t consumed : Text} {second : Char}
    (owing : s.halfway = true) (written : Written s.nodes t)
    (total : t ++ s.draft.spelling = consumed ++ [second]) : s.Accounts consumed (some second) :=
  ⟨by simp, t, written, by simp [owing, total]⟩

theorem Accounts.total {s : Scanner} {consumed : Text} {next : Option Char}
    (accounts : s.Accounts consumed next) (settled : s.halfway = false) :
    ∃ t, Written s.nodes t ∧ t ++ s.draft.spelling = consumed := by
  obtain ⟨_, t, written, total⟩ := accounts
  exact ⟨t, written, by simpa [settled] using total⟩

theorem Accounts.settled {s : Scanner} {consumed : Text} (accounts : s.Accounts consumed none) :
    s.halfway = false := by
  by_contra owing
  simpa using accounts.1 (by simpa using owing)

theorem Completes.accounts {s ended : Scanner} (completes : s.Completes ended) {t : Text}
    (written : Written s.nodes t) :
    Written ended.nodes (t ++ s.draft.spelling) ∧ ended.draft = .idle := by
  cases completes with
  | idle draft => exact ⟨by simpa [draft, Draft.spelling] using written, draft⟩
  | @clause start name comparator typed draft filled plain free =>
    refine ⟨?_, rfl⟩
    rw [draft]
    refine written.snoc ?_
    simp only [Node.WrittenAs, plain, ↓reduceIte]
    exact ⟨typed, rfl, rfl⟩

theorem Completes.halfway {s ended : Scanner} (completes : s.Completes ended) :
    ended.halfway = s.halfway := by
  cases completes <;> rfl

/-- The cases are those of one character: what it adds to the draft or to the nodes is its spelling. -/
theorem Move.accounts {lists : Bool} {s moved : Scanner} {c : Char} {next : Option Char}
    {consumed : Text} (move : Move lists s c next moved) (accounts : s.Accounts consumed (some c)) :
    Accounts { moved with halfway := !s.halfway && moved.halfway } (consumed ++ [c]) next := by
  cases move with
  | pass second =>
    -- The second half of an operator settles what was owed since the first.
    obtain ⟨_, t, written, total⟩ := accounts
    exact accounts_settled (by simp [second]) written (by simpa [second] using total)
  | take first =>
    obtain ⟨t, written, rfl⟩ := accounts.total first
    refine accounts_settled (by simp [first]) (by simpa using written) ?_
    simp [accept_spelling]
  | openGroup first mark draft free =>
    obtain ⟨t, written, rfl⟩ := accounts.total first
    subst mark
    exact accounts_settled (by simp [first]) (written.snoc rfl) (by simp [draft, Draft.spelling])
  | openList first mark draft =>
    obtain ⟨t, written, rfl⟩ := accounts.total first
    subst mark
    refine accounts_settled (by simp [first]) written ?_
    simp [draft, Draft.spelling, Comparator.spelling]
  | closeGroup first mark inside completes free =>
    obtain ⟨t, written, rfl⟩ := accounts.total first
    obtain ⟨written, idle⟩ := completes.accounts written
    subst mark
    refine accounts_settled (by simp [first, completes.halfway]) (written.snoc rfl) ?_
    simp [idle, Draft.spelling]
  | @closeList start name opened raw first mark unquoted draft filled free =>
    obtain ⟨t, written, rfl⟩ := accounts.total first
    subst mark
    have clauseWritten : Written (s.nodes ++ [.clause ⟨name, .inList, raw⟩])
        (t ++ (name ++ "->".toList)) := written.snoc (by simp [Node.WrittenAs])
    have listWritten := clauseWritten.snoc
      (show (Node.list raw ((splitItems raw).map requote)).WrittenAs ('(' :: raw ++ [')']) from rfl)
    refine accounts_settled (by simp [first]) (by simpa using listWritten) ?_
    simp [draft, Draft.spelling]
  | compare first draft comparatorWritten allowed =>
    obtain ⟨t, written, rfl⟩ := accounts.total first
    rcases comparatorWritten with alone | ⟨second, found, double⟩
    · exact accounts_settled (by simp [alone]) written (by simp [draft, Draft.spelling, alone])
    · subst found
      exact accounts_owing (by simp [first, double]) written
        (by simp [draft, Draft.spelling, double])
  | connect first mark doubled completes free =>
    obtain ⟨t, written, rfl⟩ := accounts.total first
    obtain ⟨written, idle⟩ := completes.accounts written
    subst mark doubled
    exact accounts_owing (by simp [first]) (written.snoc rfl) (by simp [idle, Draft.spelling])

structure Faithful (lists : Bool) (s : Scanner) (consumed : Text) (next : Option Char) : Prop where
  viable : s.Viable
  orderly : s.Orderly lists
  accounts : s.Accounts consumed next

theorem faithful_start (lists : Bool) (next : Option Char) : Faithful lists {} [] next where
  viable := .inl awaiting_nil
  orderly := ⟨eachAfter_nil _, trivial⟩
  accounts := accounts_settled rfl written_nil rfl

theorem step_faithful {lists : Bool} (s : Scanner) (consumed : Text) (c : Char)
    (next : Option Char) (after : Scanner) (faithful : Faithful lists s consumed (some c))
    (stepped : s.step lists c next = .ok after) :
    Faithful lists after (consumed ++ [c]) next := by
  obtain ⟨moved, move, rfl⟩ := step_inv stepped
  exact ⟨move.viable faithful.viable, move.orderly faithful.orderly,
    move.accounts faithful.accounts⟩

end Scanner

theorem scan_faithful {lists : Bool} {t : Text} {nodes : List Node}
    (accepted : scan lists t = .ok nodes) :
    (nodes = [] ∨ ∃ chain : Chain, chain.nodes = nodes) ∧ EachAfter (Node.Fits lists) nodes ∧
      Written nodes t := by
  obtain ⟨s, ran, finished⟩ := bind_eq_ok accepted
  have start : Scanner.Faithful lists {} [] (t.head?.or none) := Scanner.faithful_start _ _
  have faithful : Scanner.Faithful lists s ([] ++ t) none :=
    Scanner.run_keeps Scanner.step_faithful start ran
  obtain ⟨ended, completes, top, closed, rfl⟩ := Scanner.finish_inv finished
  have settled := faithful.accounts.settled
  refine ⟨?_, (completes.orderly faithful.orderly).1, ?_⟩
  · rcases completes.viable faithful.viable with awaiting | done
    · -- At the top a term is due before everything or behind a connective, and the end refuses that.
      rw [top] at awaiting
      rcases awaiting.top with empty | ⟨connective, found⟩
      · exact .inl empty
      · exact absurd found (closed connective)
    · rw [top] at done
      exact .inr done.derivation
  · obtain ⟨before, written, total⟩ := faithful.accounts.total settled
    have whole := (completes.accounts written).1
    rwa [total] at whole

theorem Source.scan_eq_ok {source : Source} {lists : Bool} {nodes : List Node}
    (accepted : source.scan lists = .ok nodes) : Filter.scan lists source.chars = .ok nodes := by
  unfold Source.scan at accepted
  cases result : Filter.scan lists source.chars with
  | error e => simp [result, Except.mapError] at accepted
  | ok found => simpa [result, Except.mapError] using accepted

/-- An accepted source gives no nodes or a derivation. Its clauses are complete, a list belongs to the
`IN` clause before it and repeats its value, and where lists are switched off there are none. The
characters of the source are the spellings of the nodes one after the other. -/
theorem scan_sound (source : Source) (lists : Bool) (nodes : List Node)
    (accepted : source.scan lists = .ok nodes) :
    (nodes = [] ∨ ∃ chain : Chain, chain.nodes = nodes) ∧
    (∀ c, .clause c ∈ nodes → c.column ≠ [] ∧ c.value ≠ []) ∧
    (∀ before raw items after, nodes = before ++ .list raw items :: after →
      ∃ c, before.getLast? = some (.clause c) ∧ c.comparator = .inList ∧ c.value = raw) ∧
    (lists = false → ∀ c, .clause c ∈ nodes → c.comparator ≠ .inList) ∧
    Written nodes source.chars := by
  obtain ⟨derived, each, written⟩ := scan_faithful (Source.scan_eq_ok accepted)
  have clauses : ∀ c, .clause c ∈ nodes → Node.Fits lists none (.clause c) := by
    intro c member
    obtain ⟨before, after, cut⟩ := List.append_of_mem member
    exact each before (.clause c) after cut
  refine ⟨derived, ?_, ?_, ?_, written⟩
  · intro c member
    exact ⟨(clauses c member).1, (clauses c member).2.1⟩
  · intro before raw items after cut
    exact (each before (.list raw items) after cut).1
  · rintro rfl c member list
    simpa using (clauses c member).2.2 list

/-- A group with a list whose first item holds a comma, a negative number, and a text of operators. -/
theorem scan_sound_nested :
    Written
      [.opening, .clause ⟨['a'], .inList, "'x,y',z".toList⟩,
        .list "'x,y',z".toList ["'x,y'".toList, "'z'".toList], .connective .or,
        .clause ⟨['b'], .le, "-7".toList⟩, .closing, .connective .and,
        .clause ⟨['c'], .ne, "'(&&'".toList⟩]
      "(a->('x,y',z)||b<=-07)&&c!='(&&'".toList :=
  (scan_sound ⟨"(a->('x,y',z)||b<=-07)&&c!='(&&'".toList, [], 0⟩ true _ rfl).2.2.2.2

end FilterQuery.Filter
