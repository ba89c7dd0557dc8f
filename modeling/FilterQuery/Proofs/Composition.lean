import FilterQuery.Filter.Compile
import FilterQuery.Proofs.Acceptance
import FilterQuery.Proofs.Offsets

/-!
Filters are compiled piece by piece. A scanner reads a filter behind other nodes as it reads the filter
alone, if a term is due behind them and if what follows the filter does not belong to it; so connectives
and parentheses around filters put the compiled texts together.
-/

namespace FilterQuery.Filter

open Text (Quoting isQuote)

/-- Where the first computation gives a result, the second gives one that is related to it. -/
def Leads {α β ε : Type} (R : α → β → Prop) (first : Except ε α) (second : Except ε β) : Prop :=
  ∀ a, first = .ok a → ∃ b, second = .ok b ∧ R a b

section Leading

variable {α α' β β' ε : Type} {R : α → β → Prop} {S : α' → β' → Prop}

theorem leads_ok {a : α} {b : β} (related : R a b) :
    Leads R (.ok a : Except ε α) (.ok b) := by
  intro found same
  cases same
  exact ⟨b, rfl, related⟩

theorem leads_error {e : ε} {second : Except ε β} : Leads R (.error e) second := nofun

theorem Leads.bind {first : Except ε α} {second : Except ε β} {next : α → Except ε α'}
    {next' : β → Except ε β'} (leads : Leads R first second)
    (continued : ∀ a b, first = .ok a → R a b → Leads S (next a) (next' b)) :
    Leads S (first >>= next) (second >>= next') := by
  intro found reached
  obtain ⟨a, done, reached⟩ := bind_eq_ok reached
  obtain ⟨b, done', related⟩ := leads a done
  rw [done']
  exact continued a b done related found reached

end Leading

inductive Draft.Alike : Draft → Draft → Prop where
  | idle : Alike .idle .idle
  | column {i j : Nat} {name : Text} : Alike (.column i name) (.column j name)
  | value {i j : Nat} {name : Text} {comparator : Comparator} {typed : Text} :
      Alike (.value i name comparator typed) (.value j name comparator typed)
  | list {i j k l : Nat} {name raw : Text} : Alike (.list i name k raw) (.list j name l raw)

/-- The characters that come next make no difference: they are the same, or the first text ends and the
second goes on with a character that does not belong to an operator or a number before it. -/
def Ahead (next next' : Option Char) : Prop :=
  next' = next ∨ next = none ∧ next' ≠ some '=' ∧ next'.any Char.isDigit = false

namespace Scanner

/-- The second scanner is where the first is, but behind other nodes and inside other parentheses. -/
structure Behind (context : List Node) (depth : Nat) (s s' : Scanner) : Prop where
  nodes : s'.nodes = context ++ s.nodes
  depth : s'.depth = depth + s.depth
  alike : s.draft.Alike s'.draft
  halfway : s'.halfway = s.halfway
  quoting : s'.quoting = s.quoting

/-! One lemma for each function of the scanner, in the order in which they call each other. Where the first
scanner stops nothing is said of the second, so only the branches that go on are compared. -/

section Simulation

variable {context : List Node} {depth : Nat} {lists : Bool} {s s' : Scanner} {next next' : Option Char}

theorem push_behind (node : Node) {i j : Nat} (awaiting : Awaiting depth context)
    (behind : Behind context depth s s') (fits : node.kind ≠ .closing ∨ s.nodes ≠ []) :
    Leads (Behind context depth) (s.push node i) (s'.push node j) := by
  intro after pushed
  obtain ⟨free, rfl⟩ := push_inv pushed
  have free' : obstacle s'.nodes.getLast? node = none := by
    rw [behind.nodes]
    by_cases empty : s.nodes = []
    · rw [empty] at free
      rw [empty, List.append_nil, awaiting.obstacle_iff]
      rcases (awaiting_nil.obstacle_iff node).1 free with kind | kind | ⟨kind, _⟩
      · exact .inl kind
      · exact .inr (.inl kind)
      · exact absurd empty (fits.resolve_left (absurd kind))
    · rwa [List.getLast?_append_of_ne_nil _ empty]
  exact ⟨_, push_eq j free', by simp [behind.nodes], behind.depth, behind.alike, behind.halfway,
    behind.quoting⟩

theorem endClause_behind (awaiting : Awaiting depth context) (behind : Behind context depth s s') :
    Leads (Behind context depth) s.endClause s'.endClause := by
  have alike := behind.alike
  unfold endClause
  generalize s.draft = draft at alike ⊢
  generalize s'.draft = draft' at alike ⊢
  cases alike with
  | idle => exact leads_ok behind
  | column => exact leads_error
  | value =>
    dsimp only
    split
    · exact leads_error
    · split
      · exact leads_error
      · exact push_behind _ awaiting { behind with alike := .idle } (.inl nofun)
  | list => exact leads_ok behind

theorem openGroup_behind (awaiting : Awaiting depth context) (behind : Behind context depth s s') :
    Leads (Behind context depth) s.openGroup s'.openGroup := by
  have alike := behind.alike
  unfold openGroup
  generalize s.draft = draft at alike ⊢
  generalize s'.draft = draft' at alike ⊢
  cases alike with
  | idle =>
    apply (push_behind .opening awaiting behind (.inl nofun)).bind
    intro pushed pushed' _ behind
    exact leads_ok { behind with depth := by simp [behind.depth, Nat.add_assoc] }
  | column => exact leads_error
  | @value _ _ _ comparator typed =>
    cases comparator <;> cases typed <;> first
      | exact leads_error
      | exact leads_ok { behind with alike := .list }
  | list => exact leads_error

theorem closeGroup_behind (awaiting : Awaiting depth context) (behind : Behind context depth s s')
    (viable : s.Viable) (outside : s.draft.isList = false) :
    Leads (Behind context depth) s.closeGroup s'.closeGroup := by
  unfold closeGroup
  by_cases top : s.depth = 0
  · rw [if_pos top]
    exact leads_error
  · have inside : s'.depth ≠ 0 := by
      rw [behind.depth]
      omega
    rw [if_neg top, if_neg inside]
    apply (endClause_behind awaiting behind).bind
    intro ended ended' completed behind
    have completes := endClause_inv outside completed
    have deep : ended.depth ≠ 0 := by rwa [completes.depth]
    -- Inside parentheses there is a node already, and the closing one comes after that.
    have filled : ended.nodes ≠ [] := (completes.viable viable).nodes_ne_nil deep
    apply (push_behind .closing awaiting behind (.inr filled)).bind
    intro pushed pushed' grown behind
    obtain ⟨_, rfl⟩ := push_inv grown
    have depth : pushed'.depth = _ + ended.depth := behind.depth
    exact leads_ok { behind with depth := by simp only [depth]; omega }

theorem closeList_behind {i j k l : Nat} {name raw : Text} (awaiting : Awaiting depth context)
    (behind : Behind context depth s s') :
    Leads (Behind context depth) (s.closeList i name k raw) (s'.closeList j name l raw) := by
  unfold closeList
  split
  · exact leads_error
  · have idle : Behind context depth { s with draft := .idle } { s' with draft := .idle } :=
      { behind with alike := .idle }
    apply (push_behind (.clause _) awaiting idle (.inl nofun)).bind
    intro pushed pushed' _ behind
    exact push_behind _ awaiting behind (.inl nofun)

theorem pair_ahead {comparator : Comparator} {c expected : Char} {i j : Nat}
    (ahead : Ahead next next') :
    Leads Eq (pair comparator c expected next i) (pair comparator c expected next' j) := by
  unfold pair
  rcases ahead with rfl | ⟨rfl, _⟩
  · split
    · exact leads_error
    · split
      · exact leads_ok rfl
      · exact leads_error
  · exact leads_error

theorem comparatorAt_ahead {c : Char} {i j : Nat} (ahead : Ahead next next') :
    Leads Eq (comparatorAt lists c next i) (comparatorAt lists c next' j) := by
  have narrow : (next = some '=') = (next' = some '=') := by
    rcases ahead with rfl | ⟨rfl, other, _⟩
    · rfl
    · simp [other]
  unfold comparatorAt
  split
  · simp only [narrow]
    exact leads_ok rfl
  · simp only [narrow]
    exact leads_ok rfl
  · exact pair_ahead ahead
  · exact pair_ahead ahead
  · exact pair_ahead ahead
  · apply (pair_ahead ahead).bind
    rintro comparator _ _ rfl
    cases lists with
    | true => exact leads_ok rfl
    | false => exact leads_error

theorem accept_behind {c : Char} (behind : Behind context depth s s') :
    Behind context depth (s.accept c) (s'.accept c) := by
  have alike := behind.alike
  unfold accept
  generalize s.draft = draft at alike ⊢
  generalize s'.draft = draft' at alike ⊢
  cases alike with
  | idle => exact { behind with alike := .column }
  | column => exact { behind with alike := .column }
  | value => exact { behind with alike := .value }
  | list => exact { behind with alike := .list }

theorem readComparator_behind {c : Char} (behind : Behind context depth s s')
    (ahead : Ahead next next') :
    Leads (Behind context depth) (s.readComparator lists c next) (s'.readComparator lists c next') := by
  have alike := behind.alike
  unfold readComparator
  generalize s.draft = draft at alike ⊢
  generalize s'.draft = draft' at alike ⊢
  cases alike with
  | idle => exact leads_error
  | column =>
    apply (comparatorAt_ahead ahead).bind
    rintro comparator _ _ rfl
    exact leads_ok { behind with alike := .value, halfway := rfl }
  | @value _ _ _ _ typed =>
    cases typed with
    | nil => exact leads_error
    | cons => exact leads_error
  | list => exact leads_error

theorem readConnective_behind {connective : Connective} (awaiting : Awaiting depth context)
    (behind : Behind context depth s s') (ahead : Ahead next next') :
    Leads (Behind context depth) (s.readConnective connective next)
      (s'.readConnective connective next') := by
  unfold readConnective
  by_cases doubled : next = some connective.mark
  · have same : next' = next := ahead.resolve_right fun ends => by simp [ends.1] at doubled
    rw [same, doubled, if_neg (by simp), if_neg (by simp)]
    apply (endClause_behind awaiting behind).bind
    intro ended ended' _ behind
    apply (push_behind (.connective connective) awaiting behind (.inl nofun)).bind
    intro pushed pushed' _ behind
    exact leads_ok { behind with halfway := rfl }
  · rw [if_pos doubled]
    exact leads_error

theorem startsNegative_behind (behind : Behind context depth s s') (ahead : Ahead next next') :
    s'.startsNegative next' = s.startsNegative next := by
  have digit : next'.any Char.isDigit = next.any Char.isDigit := by
    rcases ahead with rfl | ⟨rfl, _, other⟩
    · rfl
    · exact other
  have alike := behind.alike
  unfold startsNegative
  generalize s.draft = draft at alike ⊢
  generalize s'.draft = draft' at alike ⊢
  cases alike with
  | @value _ _ _ _ typed =>
    cases typed with
    | nil => exact digit
    | cons => rfl
  | _ => rfl

theorem readPlain_behind {c : Char} (awaiting : Awaiting depth context)
    (behind : Behind context depth s s') (ahead : Ahead next next') (viable : s.Viable)
    (outside : s.draft.isList = false) :
    Leads (Behind context depth) (s.readPlain lists c next) (s'.readPlain lists c next') := by
  unfold readPlain
  split
  · exact openGroup_behind awaiting behind
  · exact closeGroup_behind awaiting behind viable outside
  · exact readConnective_behind awaiting behind ahead
  · exact readConnective_behind awaiting behind ahead
  · rw [startsNegative_behind behind ahead]
    split
    · exact leads_ok (accept_behind behind)
    · exact readComparator_behind behind ahead
  · exact readComparator_behind behind ahead
  · exact readComparator_behind behind ahead
  · exact readComparator_behind behind ahead
  · exact readComparator_behind behind ahead
  · exact readComparator_behind behind ahead
  · exact leads_ok (accept_behind behind)

theorem read_behind {c : Char} (awaiting : Awaiting depth context)
    (behind : Behind context depth s s') (ahead : Ahead next next') (viable : s.Viable) :
    Leads (Behind context depth) (s.read lists c next) (s'.read lists c next') := by
  have alike := behind.alike
  unfold read
  rw [behind.halfway, behind.quoting]
  split
  · exact leads_ok behind
  · generalize found : s.draft = draft at alike ⊢
    generalize s'.draft = draft' at alike ⊢
    cases alike with
    | list =>
      dsimp only
      split
      · exact closeList_behind awaiting behind
      · exact leads_ok (accept_behind behind)
    | idle | column | value =>
      dsimp only
      split
      · exact leads_ok (accept_behind behind)
      · exact readPlain_behind awaiting behind ahead viable (by rw [found]; rfl)

theorem step_behind {c : Char} (awaiting : Awaiting depth context)
    (behind : Behind context depth s s') (ahead : Ahead next next') (viable : s.Viable) :
    Leads (Behind context depth) (s.step lists c next) (s'.step lists c next') := by
  unfold step
  apply (read_behind awaiting behind ahead viable).bind
  intro after after' _ moved
  exact leads_ok { moved with
    halfway := by simp only [behind.halfway, moved.halfway]
    quoting := by simp only [behind.quoting] }

theorem step_viable {c : Char} {after : Scanner} (viable : s.Viable)
    (stepped : s.step lists c next = .ok after) : after.Viable := by
  obtain ⟨moved, move, rfl⟩ := step_inv stepped
  exact move.viable viable

/-- The text is read behind the context as it is read alone. -/
theorem run_behind {t : Text} (awaiting : Awaiting depth context) (ahead : Ahead next next')
    (behind : Behind context depth s s') (viable : s.Viable) :
    Leads (Behind context depth) (s.run lists next t) (s'.run lists next' t) := by
  induction t generalizing s s' with
  | nil => exact leads_ok behind
  | cons c rest ih =>
    have here : Ahead (rest.head?.or next) (rest.head?.or next') := by
      cases rest with
      | nil => exact ahead
      | cons => exact .inl rfl
    apply (step_behind awaiting behind here viable).bind
    intro middle middle' stepped behind
    exact ih behind (step_viable viable stepped)

end Simulation

/-! Where an accepted text ends. -/

theorem Completes.outside {s ended : Scanner} (completes : s.Completes ended) :
    s.draft.isList = false := by
  cases completes with
  | idle draft | clause draft =>
    rw [draft]
    rfl

theorem Completes.rests {s ended : Scanner} (completes : s.Completes ended)
    (settled : s.halfway = false) (unquoted : s.quoting.opened = none) :
    s.Rests ended.nodes s.depth :=
  ⟨settled, unquoted, completes.outside, ended, completes.endClause_eq, rfl, completes.depth,
    completes.draft⟩

theorem finish_rests {s : Scanner} {nodes : List Node} (settled : s.halfway = false)
    (finished : s.finish = .ok nodes) : s.Rests nodes 0 := by
  obtain ⟨ended, completes, top, _, rfl⟩ := finish_inv finished
  have rests := completes.rests settled (finish_unquoted finished)
  rwa [← completes.depth, top] at rests

theorem Behind.rests {context nodes : List Node} {depth inner : Nat} {s s' : Scanner}
    (behind : Behind context depth s s') (awaiting : Awaiting depth context)
    (rests : s.Rests nodes inner) : s'.Rests (context ++ nodes) (depth + inner) := by
  obtain ⟨ended, completed, rfl, rfl, idle⟩ := rests.ended
  obtain ⟨ended', completed', beyond⟩ := endClause_behind awaiting behind ended completed
  have outside : s'.draft.isList = false := by
    have outside := rests.outside
    have alike := behind.alike
    generalize s.draft = draft at alike outside
    generalize s'.draft = draft' at alike ⊢
    cases alike <;> exact outside
  have idle' : ended'.draft = .idle := by
    have alike := beyond.alike
    rw [idle] at alike
    generalize ended'.draft = draft at alike ⊢
    cases alike
    rfl
  exact {
    settled := by rw [behind.halfway, rests.settled]
    unquoted := by rw [behind.quoting, rests.unquoted]
    outside := outside
    ended := ⟨ended', completed', beyond.nodes, beyond.depth, idle'⟩ }

theorem run_accepted {context nodes : List Node} {depth : Nat} {lists : Bool} {s : Scanner} {t : Text}
    {next : Option Char} (accepted : scan lists t = .ok nodes) (awaiting : Awaiting depth context)
    (ahead : Ahead none next) (behind : Behind context depth {} s) :
    ∃ after, s.run lists next t = .ok after ∧ after.Rests (context ++ nodes) depth := by
  obtain ⟨alone, ran, finished⟩ := bind_eq_ok accepted
  have faithful := run_keeps step_faithful (faithful_start lists (t.head?.or none)) ran
  obtain ⟨after, ran', behind⟩ :=
    run_behind awaiting ahead behind (.inl awaiting_nil) alone ran
  exact ⟨after, ran', behind.rests awaiting (finish_rests faithful.accounts.settled finished)⟩

theorem step_opening (lists : Bool) (next : Option Char) :
    ∃ after, Scanner.step lists {} '(' next = .ok after ∧ Behind [.opening] 1 {} after :=
  ⟨_, rfl, rfl, rfl, .idle, rfl, rfl⟩

theorem run_cons {lists : Bool} {s middle : Scanner} {c : Char} {rest : Text} {next : Option Char}
    (stepped : s.step lists c (rest.head?.or next) = .ok middle) :
    s.run lists next (c :: rest) = middle.run lists next rest := by
  rw [run, stepped]
  rfl

theorem run_append_ok {lists : Bool} {s middle : Scanner} {t rest : Text} {next : Option Char}
    (ran : s.run lists (rest.head?.or next) t = .ok middle) :
    s.run lists next (t ++ rest) = middle.run lists next rest := by
  rw [run_append, ran]
  rfl

theorem Idle.behind {nodes : List Node} {depth : Nat} {s : Scanner} (idle : Idle nodes depth s) :
    Behind nodes depth {} s where
  nodes := by rw [idle.nodes, List.append_nil]
  depth := idle.depth
  alike := by
    rw [idle.draft]
    exact .idle
  halfway := idle.settled
  quoting := idle.quoting

end Scanner

/-! Accepted texts put together. -/

section Scanning

variable {lists : Bool} {t t' : Text} {nodes nodes' : List Node}

theorem scan_eq_finish {s : Scanner} (ran : Scanner.run lists none {} t = .ok s) :
    scan lists t = s.finish := by
  rw [scan, ran]
  rfl

theorem ended_of_scan (accepted : scan lists t = .ok nodes) (filled : nodes ≠ []) : Ended 0 nodes := by
  rcases (scan_faithful accepted).1 with empty | ⟨chain, rfl⟩
  · exact absurd empty filled
  · exact ⟨[], chain, rfl, rfl⟩

theorem scan_connected (connective : Connective) (accepted : scan lists t = .ok nodes)
    (filled : nodes ≠ []) (accepted' : scan lists t' = .ok nodes') (filled' : nodes' ≠ []) :
    scan lists (t ++ connective.mark :: connective.mark :: t') =
      .ok (nodes ++ .connective connective :: nodes') := by
  have ended := ended_of_scan accepted filled
  have ended' := ended_of_scan accepted' filled'
  have ahead : Ahead none (some connective.mark) := .inr ⟨rfl, by cases connective <;> decide⟩
  have start : Scanner.Behind [] 0 {} {} := ⟨rfl, rfl, .idle, rfl, rfl⟩
  obtain ⟨s, ran, rests⟩ := Scanner.run_accepted accepted awaiting_nil ahead start
  have free := (ended.obstacle_iff (.connective connective)).2 (.inl rfl)
  obtain ⟨middle, first, owing⟩ := rests.connect lists free
  obtain ⟨between, second, idle⟩ := owing.step lists (t'.head?.or none)
    (Scanner.isSolid_mark connective)
  obtain ⟨s', ran', rests'⟩ :=
    Scanner.run_accepted accepted' (ended.connected connective) (.inl rfl) (Scanner.Idle.behind idle)
  have whole : Scanner.run lists none {} (t ++ connective.mark :: connective.mark :: t') = .ok s' :=
    calc
      _ = s.run lists none (connective.mark :: connective.mark :: t') := Scanner.run_append_ok ran
      _ = middle.run lists none (connective.mark :: t') := Scanner.run_cons first
      _ = between.run lists none t' := Scanner.run_cons second
      _ = .ok s' := ran'
  have closed (other : Connective) : ([] ++ nodes ++ [Node.connective connective] ++ nodes').getLast? ≠
      some (.connective other) := by
    rw [List.getLast?_append_of_ne_nil _ filled']
    exact ended'.not_connective
  rw [scan_eq_finish whole]
  simpa using rests'.finish closed

theorem scan_enclosed (accepted : scan lists t = .ok nodes) (filled : nodes ≠ []) :
    scan lists ('(' :: t ++ [')']) = .ok (.opening :: nodes ++ [.closing]) := by
  have ended := ended_of_scan accepted filled
  obtain ⟨opened, first, behind⟩ := Scanner.step_opening lists ((t ++ [')']).head?.or none)
  have ahead : Ahead none (some ')') := .inr ⟨rfl, by decide⟩
  obtain ⟨s, ran, rests⟩ := Scanner.run_accepted accepted awaiting_nil.opened ahead behind
  have free : obstacle ([Node.opening] ++ nodes).getLast? .closing = none := by
    rw [List.getLast?_append_of_ne_nil _ filled]
    exact (ended.obstacle_iff .closing).2 (.inr rfl)
  obtain ⟨after, last, idle⟩ := rests.close lists none free
  have whole : Scanner.run lists none {} ('(' :: t ++ [')']) = .ok after :=
    calc
      _ = opened.run lists none (t ++ [')']) := Scanner.run_cons first
      _ = s.run lists none [')'] := Scanner.run_append_ok ran
      _ = after.run lists none [] := Scanner.run_cons last
      _ = .ok after := rfl
  rw [scan_eq_finish whole]
  apply idle.rests.finish
  intro connective
  rw [List.getLast?_concat]
  nofun

end Scanning

/-! The legacy mode works piece by piece too. -/

theorem arrows_cons {c : Char} (other : c ≠ 'I') (t : Text) : arrows (c :: t) = c :: arrows t := by
  rw [arrows]
  rintro rest rfl
  exact absurd rfl other

theorem arrows_append {t rest : Text} (apart : rest.head? ≠ some 'N') :
    arrows (t ++ rest) = arrows t ++ arrows rest := by
  fun_induction arrows t with
  | case1 t ih =>
    rw [List.cons_append, List.cons_append, arrows, ih]
    rfl
  | case2 c t other ih =>
    rw [List.cons_append, List.cons_append, ← ih, arrows]
    -- No arrow begins with the character, not even with one from behind the text.
    intro later isFirst starts
    cases t with
    | nil =>
      apply apart
      rw [List.nil_append] at starts
      rw [starts]
      rfl
    | cons d t =>
      cases starts
      exact other t isFirst rfl
  | case3 => rfl

theorem legacy_append {c : Char} (lists : Bool) (t rest : Text) (solid : c ≠ ' ')
    (first : c ≠ 'I') (second : c ≠ 'N') :
    (normalizeLegacy lists (t ++ c :: rest)).chars =
      (normalizeLegacy lists t).chars ++ c :: (normalizeLegacy lists rest).chars := by
  have kept : (t ++ c :: rest).filter (· ≠ ' ') = t.filter (· ≠ ' ') ++ c :: rest.filter (· ≠ ' ') := by
    rw [List.filter_append, List.filter_cons_of_pos (by simpa using solid)]
  simp only [normalizeLegacy_chars, kept]
  cases lists with
  | true =>
    have apart : (c :: rest.filter (· ≠ ' ')).head? ≠ some 'N' := by simpa using second
    simp only [↓reduceIte, arrows_append apart, arrows_cons first]
  | false => rfl

theorem legacy_connected (connective : Connective) (lists : Bool) (t t' : Text) :
    (normalizeLegacy lists (t ++ connective.mark :: connective.mark :: t')).chars =
      (normalizeLegacy lists t).chars ++
        connective.mark :: connective.mark :: (normalizeLegacy lists t').chars := by
  have solid : connective.mark ≠ ' ' := by cases connective <;> decide
  have first : connective.mark ≠ 'I' := by cases connective <;> decide
  have second : connective.mark ≠ 'N' := by cases connective <;> decide
  have inner := legacy_append lists [] t' solid first second
  rw [legacy_append lists t _ solid first second]
  rw [List.nil_append] at inner
  rw [inner]
  cases lists <;> rfl

theorem legacy_enclosed (lists : Bool) (t : Text) :
    (normalizeLegacy lists ('(' :: t ++ [')'])).chars =
      '(' :: (normalizeLegacy lists t).chars ++ [')'] := by
  have last := legacy_append (c := ')') lists ('(' :: t) [] (by decide) (by decide) (by decide)
  have first := legacy_append (c := '(') lists [] t (by decide) (by decide) (by decide)
  rw [List.nil_append] at first
  rw [last, first]
  cases lists <;> rfl

/-! Compiled texts. -/

section Compiling

variable {options : Options} {fields : Bindings} {t sql : Text} {nodes : List Node}

theorem parse_eq_scan (accepted : scan options.inLists
    (normalize options.normalization options.inLists t).chars = .ok nodes) :
    parse options t = .ok nodes := by
  unfold parse Source.scan
  rw [accepted]
  rfl

theorem compile_eq (parsed : parse options t = .ok nodes) :
    compile options fields t = .ok (render fields nodes) := by
  rw [compile, parsed]
  rfl

theorem compile_inv (compiled : compile options fields t = .ok sql) :
    ∃ nodes, parse options t = .ok nodes ∧ render fields nodes = sql := by
  unfold compile at compiled
  cases parsed : parse options t with
  | error e =>
    rw [parsed] at compiled
    cases compiled
  | ok nodes =>
    rw [parsed] at compiled
    cases compiled
    exact ⟨nodes, rfl, rfl⟩

theorem parse_connected (connective : Connective) {lists : Bool} {t' : Text} {nodes' : List Node}
    (parsed : parse ⟨.legacy, lists⟩ t = .ok nodes) (filled : nodes ≠ [])
    (parsed' : parse ⟨.legacy, lists⟩ t' = .ok nodes') (filled' : nodes' ≠ []) :
    parse ⟨.legacy, lists⟩ (t ++ connective.mark :: connective.mark :: t') =
      .ok (nodes ++ .connective connective :: nodes') := by
  apply parse_eq_scan
  rw [normalize, legacy_connected]
  exact scan_connected connective (Source.scan_eq_ok parsed) filled (Source.scan_eq_ok parsed') filled'

theorem parse_enclosed {lists : Bool} (parsed : parse ⟨.legacy, lists⟩ t = .ok nodes)
    (filled : nodes ≠ []) :
    parse ⟨.legacy, lists⟩ ('(' :: t ++ [')']) = .ok (.opening :: nodes ++ [.closing]) := by
  apply parse_eq_scan
  rw [normalize, legacy_enclosed]
  exact scan_enclosed (Source.scan_eq_ok parsed) filled

end Compiling

/-- The compiled text of filters that are joined by a connective or put in parentheses is made of their
compiled texts, unless one of them has no nodes. -/
theorem compile_composed (lists : Bool) (fields : Bindings) (first second sql₁ sql₂ : Text)
    (compiled₁ : compile ⟨.legacy, lists⟩ fields first = .ok sql₁)
    (filled₁ : parse ⟨.legacy, lists⟩ first ≠ .ok [])
    (compiled₂ : compile ⟨.legacy, lists⟩ fields second = .ok sql₂)
    (filled₂ : parse ⟨.legacy, lists⟩ second ≠ .ok []) :
    compile ⟨.legacy, lists⟩ fields (first ++ "&&".toList ++ second) =
      .ok (sql₁ ++ "AND ".toList ++ sql₂) ∧
    compile ⟨.legacy, lists⟩ fields (first ++ "||".toList ++ second) =
      .ok (sql₁ ++ "OR ".toList ++ sql₂) ∧
    compile ⟨.legacy, lists⟩ fields ("(".toList ++ first ++ ")".toList) =
      .ok ("(".toList ++ sql₁ ++ ") ".toList) := by
  obtain ⟨nodes₁, parsed₁, rfl⟩ := compile_inv compiled₁
  obtain ⟨nodes₂, parsed₂, rfl⟩ := compile_inv compiled₂
  have filled₁ : nodes₁ ≠ [] := fun empty => filled₁ (by rw [parsed₁, empty])
  have filled₂ : nodes₂ ≠ [] := fun empty => filled₂ (by rw [parsed₂, empty])
  have joined (connective : Connective) :
      compile ⟨.legacy, lists⟩ fields (first ++ connective.mark :: connective.mark :: second) =
        .ok (render fields nodes₁ ++ (connective.sql ++ [' ']) ++ render fields nodes₂) := by
    rw [compile_eq (parse_connected connective parsed₁ filled₁ parsed₂ filled₂)]
    simp [render, renderNode]
  split_ands
  · simpa [Connective.mark, Connective.sql] using joined .and
  · simpa [Connective.mark, Connective.sql] using joined .or
  · have enclosed : compile ⟨.legacy, lists⟩ fields ('(' :: first ++ [')']) =
        .ok (render fields (.opening :: nodes₁ ++ [.closing])) :=
      compile_eq (parse_enclosed parsed₁ filled₁)
    simpa [render, renderNode] using enclosed

/-- A list with a comma in a string, a text that ends with a backslash, and a group with a merge field. -/
theorem compile_composed_lists :
    compile {} { entries := [("n".toList, .integer 7)] }
        ("b IN (1, 'p,q') || d == x\\".toList ++ "&&".toList ++ "(c >= $n)".toList) =
      .ok ("b IN ('1', 'p,q') OR d = x\\ ".toList ++ "AND ".toList ++ "(c >= 7 ) ".toList) :=
  (compile_composed true { entries := [("n".toList, .integer 7)] }
    "b IN (1, 'p,q') || d == x\\".toList "(c >= $n)".toList
    "b IN ('1', 'p,q') OR d = x\\ ".toList "(c >= 7 ) ".toList rfl nofun rfl nofun).1

end FilterQuery.Filter
