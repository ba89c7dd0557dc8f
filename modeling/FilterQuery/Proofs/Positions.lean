import FilterQuery.Filter.Compile
import FilterQuery.Proofs.Faults
import FilterQuery.Proofs.Offsets

/-!
Where errors stand. Every index that a scanner holds is that of a character it has read, so an error
stands at a character of the scanned text, and the cause says which one; the source carries the index
back to the typed text. The only character that the typed text may show in another form is the arrow of
the word `in`.
-/

namespace FilterQuery.Filter

open Text (Quoting isQuote)

def Cause.Names : Cause → Char → Prop
  | comparatorMismatch found _, c => c = found
  | singleLogical mark, c => c = mark
  | unexpectedCharacter found, c => c = found
  | unterminatedString quote, c => c = quote
  | unopenedGroup, c => c = ')'
  | leadingLogical, c => c = '&' ∨ c = '|'
  | inListsDisabled, c => c = '-'
  | _, _ => True

theorem obstacle_cases {previous : Option Node} {node : Node} {cause : Cause}
    (blocked : obstacle previous node = some cause) (apart : node.kind ≠ .list) :
    (∀ c, cause.Names c) ∨
      (previous = none ∧ cause = .leadingLogical ∧ node.kind = .connective) := by
  cases previous with
  | none =>
    cases node with
    | connective connective =>
      cases blocked
      exact .inr ⟨rfl, rfl, rfl⟩
    | list raw items => exact absurd rfl apart
    | _ => cases blocked
  | some previous =>
    left
    intro c
    cases node <;> cases previous <;> first
      | exact absurd rfl apart
      | cases blocked <;> trivial

theorem obstacle_unnamed {previous : Option Node} {node : Node} {cause : Cause}
    (blocked : obstacle previous node = some cause) (apart : node.kind ≠ .list)
    (other : node.kind ≠ .connective) : ∀ c, cause.Names c :=
  (obstacle_cases blocked apart).resolve_right fun leading => other leading.2.2

/-! What the errors of the scanner say about the text it reads. -/

/-- The character has been typed at the index, whatever text has been normalized: it is not part of an
arrow. -/
structure TypedAt (lists : Bool) (chars : Text) (index : Nat) (c : Char) : Prop where
  found : chars[index]? = some c
  first : c = '-' → lists = true → chars[index + 1]? ≠ some '>'
  second : c = '>' → ∀ before, index = before + 1 → chars[before]? ≠ some '-'

theorem typedAt_of_ne {lists : Bool} {chars : Text} {index : Nat} {c : Char}
    (found : chars[index]? = some c) (minus : c ≠ '-') (greater : c ≠ '>') :
    TypedAt lists chars index c where
  found := found
  first same := absurd same minus
  second same := absurd same greater

/-- The error blames a character of the text, or what is missing at a place in it. -/
inductive Blames (lists : Bool) (chars : Text) : CompileError → Prop where
  | unclosed {missing index : Nat} : Blames lists chars ⟨.unclosedGroup missing, index⟩
  | trailing {index : Nat} : Blames lists chars ⟨.trailingLogical, index⟩
  | incomplete {part : ClausePart} {index : Nat} (inside : index ≤ chars.length) :
      Blames lists chars ⟨.incompleteClause part, index⟩
  | unnamed {cause : Cause} {index : Nat} (inside : index < chars.length)
      (names : ∀ c, cause.Names c) : Blames lists chars ⟨cause, index⟩
  | typed {cause : Cause} {index : Nat} {c : Char} (typed : TypedAt lists chars index c)
      (names : cause.Names c) (leading : cause = .leadingLogical → index = 0) :
      Blames lists chars ⟨cause, index⟩
  | rewritten {index : Nat} {expected : Char} (first : chars[index]? = some '-')
      (second : chars[index + 1]? = some '>') :
      Blames lists chars ⟨.comparatorMismatch '-' expected, index⟩

def Draft.start? : Draft → Option Nat
  | idle => none
  | column start _ | value start _ _ _ | list start _ _ _ => some start

namespace Scanner

/-- Every index that the scanner holds is that of a character behind it. -/
structure Anchored (s : Scanner) (consumed : Text) : Prop where
  index : s.index = consumed.length
  quote : ∀ quote, s.quoting.opened = some quote →
    consumed[s.quoteStart]? = some quote ∧ isQuote quote = true
  start : ∀ start, s.draft.start? = some start → start < consumed.length

theorem anchored_start : Anchored {} [] where
  index := rfl
  quote := nofun
  start := nofun

theorem Move.start {lists : Bool} {s moved : Scanner} {c : Char} {next : Option Char} {start : Nat}
    (move : Move lists s c next moved) (begun : moved.draft.start? = some start) :
    start = s.index ∨ s.draft.start? = some start := by
  cases move with
  | pass | openGroup => exact .inr begun
  | take =>
    unfold accept at begun
    split at begun
    · cases begun
      exact .inl rfl
    all_goals
      rename_i draft
      rw [draft]
      exact .inr begun
  | openList first mark draft | compare first draft =>
    rw [draft]
    exact .inr begun
  | closeList => cases begun
  | closeGroup first mark inside completes | connect first mark doubled completes =>
    simp [completes.draft, Draft.start?] at begun

theorem step_anchored {lists : Bool} {s after : Scanner} {consumed : Text} {c : Char}
    {next : Option Char} (anchored : s.Anchored consumed)
    (stepped : s.step lists c next = .ok after) : after.Anchored (consumed ++ [c]) := by
  obtain ⟨moved, move, rfl⟩ := step_inv stepped
  constructor
  case index => simp [anchored.index]
  case quote =>
    intro quote opened
    cases before : s.quoting.opened with
    | some held =>
      -- The string was open already.
      have same : held = quote := by
        simp only [Quoting.after, before] at opened
        split at opened
        · cases opened
        · exact Option.some.inj opened
      subst same
      obtain ⟨found, isQuote⟩ := anchored.quote held before
      have inside := (List.getElem?_eq_some_iff.1 found).1
      exact ⟨by simpa [before, List.getElem?_append_left inside] using found, isQuote⟩
    | none =>
      simp only [Quoting.after, before] at opened
      split at opened
      · rename_i opens
        cases opened
        rw [Bool.and_eq_true] at opens
        exact ⟨by simp [before, Quoting.holds, opens.1, opens.2, anchored.index], opens.1⟩
      · cases opened
  case start =>
    intro start begun
    rw [List.length_append]
    rcases move.start begun with rfl | earlier
    · simp [anchored.index]
    · exact Nat.lt_add_right _ (anchored.start start earlier)

theorem Anchored.start_lt {s : Scanner} {consumed rest : Text} {start : Nat}
    (anchored : s.Anchored consumed) (begun : s.draft.start? = some start) :
    start < (consumed ++ rest).length := by
  rw [List.length_append]
  exact Nat.lt_add_right _ (anchored.start start begun)

theorem Unfinished.blames {lists : Bool} {s : Scanner} {consumed rest : Text} {e : CompileError}
    (unfinished : s.Unfinished e) (anchored : s.Anchored consumed) :
    Blames lists (consumed ++ rest) e := by
  have inside : s.index ≤ (consumed ++ rest).length := by simp [anchored.index]
  cases unfinished with
  | noComparator draft => exact .incomplete inside
  | noValue draft => exact .incomplete inside
  | noList draft filled => exact .unnamed (anchored.start_lt (by rw [draft]; rfl)) fun _ => trivial
  | blocked draft filled plain blocked =>
    exact .unnamed (anchored.start_lt (by rw [draft]; rfl)) (obstacle_unnamed blocked nofun nofun)

theorem Completes.consumed_eq_nil {lists : Bool} {s ended : Scanner} {consumed : Text}
    {next : Option Char} (completes : s.Completes ended) (settled : s.halfway = false)
    (faithful : Faithful lists s consumed next) (empty : ended.nodes = []) : consumed = [] := by
  obtain ⟨t, written, rfl⟩ := faithful.accounts.total settled
  obtain ⟨pieces, each, total⟩ := (completes.accounts written).1
  rw [empty, List.forall₂_nil_left_iff] at each
  subst each
  exact total.symm

/-- One case for each way of stopping: the scanner blames the character at which it stands, the one behind
that, or the one at which the clause begins. -/
theorem Fault.blames {lists : Bool} {s : Scanner} {c : Char} {consumed rest : Text} {e : CompileError}
    (fault : Fault lists s c rest.head? e) (settled : s.halfway = false)
    (anchored : s.Anchored consumed) (faithful : Faithful lists s consumed (some c)) :
    Blames lists (consumed ++ c :: rest) e := by
  have here : (consumed ++ c :: rest)[s.index]? = some c := by simp [anchored.index]
  have behind : (consumed ++ c :: rest)[s.index + 1]? = rest.head? := by
    rw [anchored.index, List.getElem?_append_right (Nat.le_succ _)]
    simp [List.head?_eq_getElem?]
  have inside := (List.getElem?_eq_some_iff.1 here).1
  cases fault with
  | openGroup mark draft blocked =>
    exact .unnamed inside (obstacle_unnamed blocked nofun nofun)
  | openInside mark pending =>
    subst mark
    exact .typed (typedAt_of_ne here (by decide) (by decide)) rfl nofun
  | unopened mark outside =>
    subst mark
    exact .typed (typedAt_of_ne here (by decide) (by decide)) rfl nofun
  | closeGroup mark depth completes blocked =>
    exact .unnamed inside (obstacle_unnamed blocked nofun nofun)
  | emptyList mark draft => exact .incomplete inside.le
  | closeList mark draft blocked =>
    exact .unnamed (anchored.start_lt (by rw [draft]; rfl)) (obstacle_unnamed blocked nofun nofun)
  | @single connective mark alone =>
    subst mark
    cases connective <;>
      exact .typed (typedAt_of_ne here (by decide) (by decide)) rfl nofun
  | @connect connective ended cause mark completes blocked =>
    rcases obstacle_cases blocked nofun with names | ⟨first, rfl, _⟩
    · exact .unnamed inside names
    · -- A connective is the first node only if its mark is the first character.
      have empty := completes.consumed_eq_nil settled faithful (List.getLast?_eq_none_iff.1 first)
      have zero : s.index = 0 := by rw [anchored.index, empty, List.length_nil]
      subst mark
      cases connective with
      | and => exact .typed (typedAt_of_ne here (by decide) (by decide)) (.inl rfl) fun _ => zero
      | or => exact .typed (typedAt_of_ne here (by decide) (by decide)) (.inr rfl) fun _ => zero
  | unfinished unfinished => exact unfinished.blames anchored
  | noColumn mark draft => exact .incomplete inside.le
  | noValue mark draft => exact .incomplete inside.le
  | duplicate mark draft filled => exact .unnamed inside fun _ => trivial
  | half draft narrow ends =>
    have last : (consumed ++ c :: rest)[s.index + 1]? ≠ some '>' := by simp [behind, ends]
    exact .typed ⟨here, fun _ _ => last, fun same => absurd same narrow⟩ rfl nofun
  | @mismatch start name found expected draft follows other arrow =>
    rw [follows] at behind
    by_cases rewritten : found = '-' ∧ (consumed ++ c :: rest)[s.index + 1 + 1]? = some '>'
    · obtain ⟨rfl, second⟩ := rewritten
      exact .rewritten behind second
    · have typed : TypedAt lists (consumed ++ c :: rest) (s.index + 1) found := by
        constructor
        case found => exact behind
        case first => exact fun same _ second => rewritten ⟨same, second⟩
        case second =>
          -- Behind a minus sign the other sign of the arrow is the expected one.
          rintro rfl before same minus
          cases same
          rw [here] at minus
          exact other (arrow (Option.some.inj minus)).symm
      exact .typed typed rfl nofun
  | listsOff draft off mark follows =>
    subst mark
    exact .typed ⟨here, fun _ on => absurd on (by simp [off]), nofun⟩ rfl nofun

theorem Dangling.blames {lists : Bool} {s : Scanner} {consumed : Text} {e : CompileError}
    (dangling : s.Dangling e) (anchored : s.Anchored consumed) : Blames lists consumed e := by
  cases dangling with
  | string opened =>
    obtain ⟨found, isQuote⟩ := anchored.quote _ opened
    apply Blames.typed (typedAt_of_ne found _ _)
    · rfl
    · nofun
    · rintro rfl
      cases isQuote
    · rintro rfl
      cases isQuote
  | list draft => exact .unclosed
  | unfinished unfinished =>
    have blames : Blames lists (consumed ++ []) e := unfinished.blames anchored
    rwa [List.append_nil] at blames
  | group completes inside => exact .unclosed
  | connective completes last => exact .trailing

structure Tracked (lists : Bool) (s : Scanner) (consumed : Text) (next : Option Char) : Prop where
  faithful : s.Faithful lists consumed next
  anchored : s.Anchored consumed

theorem tracked_start (lists : Bool) (next : Option Char) : Tracked lists {} [] next where
  faithful := faithful_start lists next
  anchored := anchored_start

theorem step_tracked {lists : Bool} (s : Scanner) (consumed : Text) (c : Char) (next : Option Char)
    (after : Scanner) (tracked : s.Tracked lists consumed (some c))
    (stepped : s.step lists c next = .ok after) : after.Tracked lists (consumed ++ [c]) next where
  faithful := step_faithful s consumed c next after tracked.faithful stepped
  anchored := step_anchored tracked.anchored stepped

end Scanner

theorem scan_blames {lists : Bool} {t : Text} {e : CompileError} (failed : scan lists t = .error e) :
    Blames lists t e := by
  have start := Scanner.tracked_start lists (t.head?.or none)
  rcases bind_eq_error failed with stopped | ⟨s, ran, failed⟩
  · obtain ⟨s, before, c, rest, rfl, tracked, failed⟩ :=
      Scanner.run_fault Scanner.step_tracked start stopped
    rw [Option.or_none] at failed
    obtain ⟨settled, fault⟩ := Scanner.step_fault failed
    exact fault.blames settled tracked.anchored tracked.faithful
  · have tracked := Scanner.run_keeps Scanner.step_tracked start ran
    exact (Scanner.finish_fault failed).blames tracked.anchored

/-! Back to the typed text. -/

/-- The error stands in the typed text where its cause says: at the end, at a character that it names, or
at the first of two letters that the scanner has seen as an arrow. -/
def CompileError.WellPlaced (word : Char → Char → Prop) (t : Text) (source : Source)
    (e : CompileError) : Prop :=
  match e.cause with
  | .unclosedGroup _ | .trailingLogical => e.position = t.length
  | .incompleteClause _ => e.position ≤ t.length
  | cause => ∃ c, t[e.position]? = some c ∧ (cause.Names c ∨
      (∃ expected, cause = .comparatorMismatch '-' expected) ∧ source.RewrittenAt word t e.position)

section Placing

variable {word : Char → Char → Prop} {t : Text} {source : Source} {index : Nat}

theorem Source.Follows.kept_eq {c : Char} (follows : source.Follows word t)
    (found : source.chars[index]? = some c) :
    source.kept[index]? = some (c, source.position index) := by
  apply List.getElem?_zip_eq_some.2
  constructor
  · exact found
  · have inside := (List.getElem?_eq_some_iff.1 found).1
    rw [← follows.length] at inside
    simp [Source.position, inside]

theorem Source.Follows.exists_typed (follows : source.Follows word t)
    (inside : index < source.chars.length) : ∃ c, t[source.position index]? = some c := by
  have kept := follows.kept_eq (List.getElem?_eq_getElem inside)
  rcases follows.traced.cases kept with typed | ⟨first, _, _, _, _, typed, _⟩ |
    ⟨_, _, second, _, _, _, typed⟩
  · exact ⟨_, typed⟩
  · exact ⟨first, typed⟩
  · exact ⟨second, typed⟩

theorem Source.Follows.position_le (follows : source.Follows word t)
    (inside : index ≤ source.chars.length) : source.position index ≤ t.length := by
  rcases Nat.lt_or_eq_of_le inside with within | atEnd
  · obtain ⟨c, typed⟩ := follows.exists_typed within
    exact (List.getElem?_eq_some_iff.1 typed).1.le
  · simp [Source.position, atEnd, ← follows.length, follows.stop]

theorem Source.Follows.not_mem_offsets (follows : source.Follows word t) :
    ∀ i < source.position 0, i ∉ source.offsets := by
  intro i earlier member
  have increasing := follows.increasing
  cases offsets : source.offsets with
  | nil => simp [offsets] at member
  | cons first rest =>
    rw [offsets] at member increasing
    rw [Source.position, offsets] at earlier
    rcases List.mem_cons.1 member with rfl | later
    · exact Nat.lt_irrefl i earlier
    · exact Nat.lt_asymm earlier (List.rel_of_pairwise_cons increasing later)

theorem Source.Follows.wellPlaced {cause : Cause} {c : Char} (follows : source.Follows word t)
    (found : t[source.position index]? = some c)
    (named : cause.Names c ∨ (∃ expected, cause = .comparatorMismatch '-' expected) ∧
      source.RewrittenAt word t (source.position index)) :
    (source.locate ⟨cause, index⟩).WellPlaced word t source := by
  cases cause with
  | unclosedGroup | trailingLogical => exact follows.stop
  | incompleteClause => exact (List.getElem?_eq_some_iff.1 found).1.le
  | _ => exact ⟨c, found, named⟩

theorem TypedAt.found_typed {mode : Normalization} {lists : Bool} {c : Char}
    (typed : TypedAt lists source.chars index c) (follows : source.Follows (Rewritable mode lists) t) :
    t[source.position index]? = some c := by
  rcases follows.traced.cases (follows.kept_eq typed.found) with found |
    ⟨_, _, _, minus, behind, _, _, rewritable⟩ | ⟨before, _, _, greater, next, first, _⟩
  · exact found
  · -- The first sign of an arrow has the second one behind it.
    have second := (List.getElem?_zip_eq_some.1 behind).1
    exact absurd second (typed.first minus rewritable.1)
  · have first := (List.getElem?_zip_eq_some.1 first).1
    exact absurd first (typed.second greater before next)

theorem Blames.wellPlaced {mode : Normalization} {lists : Bool} {e : CompileError}
    (blames : Blames lists source.chars e) (follows : source.Follows (Rewritable mode lists) t) :
    (source.locate e).WellPlaced (Rewritable mode lists) t source := by
  cases blames with
  | unclosed => exact follows.stop
  | trailing => exact follows.stop
  | incomplete inside => exact follows.position_le inside
  | unnamed inside names =>
    obtain ⟨c, found⟩ := follows.exists_typed inside
    exact follows.wellPlaced found (.inl (names c))
  | typed typed names => exact follows.wellPlaced (typed.found_typed follows) (.inl names)
  | @rewritten index expected first second =>
    rcases follows.traced.cases (follows.kept_eq first) with found |
      ⟨c, d, next, _, behind, found, ends, rewritable⟩ | ⟨_, _, _, greater, _⟩
    · exact follows.wellPlaced found (.inl rfl)
    · have rewritten : source.RewrittenAt (Rewritable mode lists) t (source.position index) :=
        ⟨index, c, d, next, follows.kept_eq first, behind, found, ends, rewritable⟩
      exact follows.wellPlaced found (.inr ⟨⟨expected, rfl⟩, rewritten⟩)
    · cases greater

theorem Blames.leading {lists : Bool} {chars : Text} (blames : Blames lists chars ⟨.leadingLogical, index⟩) :
    index = 0 := by
  cases blames with
  | unnamed inside names => rcases names ' ' with blank | blank <;> cases blank
  | typed typed names leading => exact leading rfl

end Placing

/-- A filter is refused with an error that shows the character at fault in the text as it was typed. What is
missing at the end is reported behind the last character, and everything else at a character of the text,
which is the one that the cause names. The sole exception is an arrow where another sign is expected: the
text may have the word `in` there. Before a connective that begins the filter, nothing has been kept. -/
theorem parse_error_wellPlaced (options : Options) (t : Text) (e : CompileError)
    (failed : parse options t = .error e) :
    let source := normalize options.normalization options.inLists t
    e.WellPlaced (Rewritable options.normalization options.inLists) t source ∧
      (e.cause = .leadingLogical → ∀ i < e.position, i ∉ source.offsets) := by
  intro source
  have follows := normalize_follows options.normalization options.inLists t
  unfold parse Source.scan at failed
  cases scanned : scan options.inLists source.chars with
  | ok nodes =>
    rw [scanned] at failed
    cases failed
  | error found =>
    rw [scanned] at failed
    cases failed
    have blames := scan_blames scanned
    constructor
    · exact blames.wellPlaced follows
    · intro leading
      obtain ⟨cause, index⟩ := found
      cases cause <;> cases leading
      rw [Source.locate, blames.leading]
      exact follows.not_mem_offsets

/-- The arrow that stops the comparator is typed as a word; two spaces are left out before the connective. -/
theorem parse_error_wellPlaced_word :
    (parse ⟨.strict, true⟩ "a= iN (1)".toList = .error ⟨.comparatorMismatch '-' '=', 3⟩ ∧
      CompileError.WellPlaced (Rewritable .strict true) "a= iN (1)".toList
        (normalize .strict true "a= iN (1)".toList) ⟨.comparatorMismatch '-' '=', 3⟩) ∧
    parse ⟨.legacy, false⟩ "  && a".toList = .error ⟨.leadingLogical, 2⟩ ∧
      ∀ i < 2, i ∉ (normalize .legacy false "  && a".toList).offsets := by
  have mismatch : parse ⟨.strict, true⟩ "a= iN (1)".toList =
      .error ⟨.comparatorMismatch '-' '=', 3⟩ := by decide
  have leading : parse ⟨.legacy, false⟩ "  && a".toList = .error ⟨.leadingLogical, 2⟩ := by decide
  exact ⟨⟨mismatch, (parse_error_wellPlaced _ _ _ mismatch).1⟩,
    leading, (parse_error_wellPlaced _ _ _ leading).2 rfl⟩

end FilterQuery.Filter
