import FilterQuery.Proofs.Composition
import FilterQuery.Proofs.Positions

/-!
The dialect without lists. Its scanner does what the one of the full dialect does, up to the first arrow
that is taken for a comparator; that is where it stops, and the full dialect goes on.
-/

namespace FilterQuery.Filter

namespace Scanner

/-- The full dialect takes the character `c` and the one behind it for the comparator of a list. -/
structure TakesArrow (s : Scanner) (c : Char) (next : Option Char) : Prop where
  mark : c = '-'
  follows : next = some '>'
  taken : ∃ start name after, s.draft = .column start name ∧ s.step true c next = .ok after ∧
    after.draft = .value start name .inList [] ∧ after.halfway = true

section Reading

variable (s : Scanner) (c : Char) (next : Option Char)

theorem comparatorAt_reduced (index : Nat) :
    comparatorAt false c next index = comparatorAt true c next index ∨
      comparatorAt false c next index = .error ⟨.inListsDisabled, index⟩ ∧ next = some '>' ∧
        comparatorAt true c next index = .ok .inList := by
  unfold comparatorAt
  split
  any_goals exact .inl rfl
  -- What remains is a character that begins no comparator but the arrow.
  cases paired : pair .inList c '>' next index with
  | error e => exact .inl rfl
  | ok comparator =>
    obtain ⟨rfl, follows⟩ := pair_inv paired
    exact .inr ⟨rfl, follows, rfl⟩

theorem readComparator_reduced :
    s.readComparator false c next = s.readComparator true c next ∨
      s.readComparator false c next = .error ⟨.inListsDisabled, s.index⟩ ∧ next = some '>' ∧
        ∃ start name, s.draft = .column start name ∧ s.readComparator true c next =
          .ok { s with draft := .value start name .inList [], halfway := true } := by
  unfold readComparator
  split
  · rename_i start name draft
    rcases comparatorAt_reduced c next s.index with same | ⟨refused, follows, taken⟩
    · rw [same]
      exact .inl rfl
    · rw [refused, taken]
      exact .inr ⟨rfl, follows, start, name, draft, rfl⟩
  all_goals exact .inl rfl

theorem readPlain_reduced :
    s.readPlain false c next = s.readPlain true c next ∨
      s.readPlain false c next = .error ⟨.inListsDisabled, s.index⟩ ∧ c = '-' ∧ next = some '>' ∧
        ∃ start name, s.draft = .column start name ∧ s.readPlain true c next =
          .ok { s with draft := .value start name .inList [], halfway := true } := by
  unfold readPlain
  split
  any_goals exact .inl rfl
  -- What remains is a minus sign, which may also begin a number.
  split
  · exact .inl rfl
  · rcases s.readComparator_reduced '-' next with same | ⟨refused, taken⟩
    · exact .inl same
    · exact .inr ⟨refused, rfl, taken⟩

theorem step_reduced :
    s.step false c next = s.step true c next ∨
      s.step false c next = .error ⟨.inListsDisabled, s.index⟩ ∧ s.TakesArrow c next := by
  rcases s.readPlain_reduced c next with same | ⟨refused, mark, follows, start, name, draft, taken⟩
  · rw [step, step, read, read, same]
    exact .inl rfl
  · have read (lists : Bool) : s.read lists c next =
        if s.halfway then .ok s
        else if s.quoting.holds c then .ok (s.accept c) else s.readPlain lists c next := by
      rw [Scanner.read, draft]
    -- The arrow counts only outside strings, and not as the second half of an operator.
    by_cases second : s.halfway = true
    · rw [step, step, read, read, if_pos second, if_pos second]
      exact .inl rfl
    · by_cases held : s.quoting.holds c = true
      · rw [step, step, read, read, if_neg second, if_neg second, if_pos held, if_pos held]
        exact .inl rfl
      · have off : s.read false c next = .error ⟨.inListsDisabled, s.index⟩ := by
          rw [read, if_neg second, if_neg held, refused]
        have on := (read true).trans ((if_neg second).trans ((if_neg held).trans taken))
        refine .inr ⟨by rw [step, off]; rfl, mark, follows, start, name, _, draft, step_eq on, rfl, ?_⟩
        simp [second]

/-- Both dialects read the text up to an arrow, and there only the full one goes on. -/
structure PartAfter (before : Text) (reached : Scanner) : Prop where
  reduced : s.run false (some '-') before = .ok reached
  full : s.run true (some '-') before = .ok reached
  arrow : reached.TakesArrow '-' (some '>')

/-- A run of the reduced dialect is one of the full dialect, or it stops at the arrow where they part. -/
theorem run_reduced (beyond : Option Char) (t : Text) :
    s.run false beyond t = s.run true beyond t ∨
      ∃ before rest reached, t = before ++ '-' :: rest ∧ rest.head?.or beyond = some '>' ∧
        s.PartAfter before reached ∧
        s.run false beyond t = .error ⟨.inListsDisabled, reached.index⟩ := by
  induction t generalizing s with
  | nil => exact .inl rfl
  | cons c rest ih =>
    rcases s.step_reduced c (rest.head?.or beyond) with same | ⟨refused, arrow⟩
    · cases stepped : s.step true c (rest.head?.or beyond) with
      | error e =>
        rw [run, run, same, stepped]
        exact .inl rfl
      | ok middle =>
        rw [stepped] at same
        rw [run_cons same, run_cons stepped]
        rcases ih middle with equal | ⟨before, behind, reached, rfl, follows, parting, stopped⟩
        · exact .inl equal
        · have ahead : (before ++ '-' :: behind).head?.or beyond = before.head?.or (some '-') := by
            cases before <;> rfl
          rw [ahead] at same stepped
          refine .inr ⟨c :: before, behind, reached, rfl, follows, ?_, stopped⟩
          exact {
            reduced := (run_cons same).trans parting.reduced
            full := (run_cons stepped).trans parting.full
            arrow := parting.arrow }
    · -- The scanner stops here, with nothing read before the arrow.
      obtain ⟨rfl, follows, taken⟩ := arrow
      rw [follows] at taken
      refine .inr ⟨[], rest, s, rfl, follows, ⟨rfl, rfl, rfl, rfl, taken⟩, ?_⟩
      rw [run, refused]
      rfl

end Reading

end Scanner

theorem scan_ne_listsOff (t : Text) (index : Nat) : scan true t ≠ .error ⟨.inListsDisabled, index⟩ := by
  intro failed
  rcases bind_eq_error failed with stopped | ⟨s, _, unfinished⟩
  · obtain ⟨_, _, _, _, _, _, stopped⟩ :=
      Scanner.run_fault Scanner.step_faithful (Scanner.faithful_start true _) stopped
    cases (Scanner.step_fault stopped).2.isOfCharacter
  · cases Scanner.finish_fault unfinished with
    | unfinished unfinished => cases unfinished.isOfNode

theorem scan_cases (t : Text) :
    scan false t = scan true t ∨
      ∃ before rest reached, t = before ++ '-' :: '>' :: rest ∧ Scanner.PartAfter {} before reached ∧
        reached.index = before.length ∧ scan false t = .error ⟨.inListsDisabled, before.length⟩ := by
  rcases Scanner.run_reduced {} none t with same | ⟨before, rest, reached, rfl, follows, parting, stopped⟩
  · rw [scan, scan, same]
    exact .inl rfl
  · have tracked := Scanner.run_keeps Scanner.step_tracked (Scanner.tracked_start true _) parting.full
    have index : reached.index = before.length := tracked.anchored.index
    rw [Option.or_none] at follows
    obtain ⟨behind, rfl⟩ := List.head?_eq_some_iff.1 follows
    refine .inr ⟨before, behind, reached, rfl, parting, index, ?_⟩
    rw [scan, stopped, index]
    rfl

/-- Without lists a source is read as with them, unless an arrow is refused. That is the first one to be
taken for a comparator: the text before it is read with and without lists, and with lists the scanner takes
the two characters of the arrow for the comparator of the column that it has read. -/
theorem scan_reduced (source : Source) :
    ((∃ position, source.scan false = .error ⟨.inListsDisabled, position⟩) ∨
      source.scan false = source.scan true) ∧
    ∀ index, scan false source.chars = .error ⟨.inListsDisabled, index⟩ →
      ∃ rest reached, source.chars.drop index = '-' :: '>' :: rest ∧
        Scanner.PartAfter {} (source.chars.take index) reached ∧ reached.index = index := by
  constructor
  · rcases scan_cases source.chars with same | ⟨before, _, _, _, _, _, refused⟩
    · right
      rw [Source.scan, Source.scan, same]
    · left
      refine ⟨source.position before.length, ?_⟩
      rw [Source.scan, refused]
      rfl
  · intro index failed
    rcases scan_cases source.chars with same | ⟨before, rest, reached, whole, parting, place, refused⟩
    · exact absurd (same.symm.trans failed) (scan_ne_listsOff _ _)
    · have here : before.length = index := by
        rw [refused] at failed
        cases failed
        rfl
      subst here
      refine ⟨rest, reached, ?_, ?_, place⟩
      · rw [whole, List.drop_left]
      · rwa [whole, List.take_left]

/-- An arrow in a string is no comparator, and the mistake behind it is found; the other arrow is the first
that counts, although the one behind it lacks its list. -/
theorem scan_reduced_arrows :
    (normalizeLegacy false "a=='->'&".toList).scan false =
      (normalizeLegacy false "a=='->'&".toList).scan true ∧
    scan false "a<1&&b->c->".toList = .error ⟨.inListsDisabled, 6⟩ ∧
      ∃ rest reached, "a<1&&b->c->".toList.drop 6 = '-' :: '>' :: rest ∧
        Scanner.PartAfter {} ("a<1&&b->c->".toList.take 6) reached ∧ reached.index = 6 := by
  have failed : scan false "a<1&&b->c->".toList = .error ⟨.inListsDisabled, 6⟩ := by decide
  have other : ¬ ∃ position, (normalizeLegacy false "a=='->'&".toList).scan false =
      .error ⟨.inListsDisabled, position⟩ := by
    rintro ⟨position, refused⟩
    cases refused
  exact ⟨(scan_reduced _).1.resolve_left other, failed,
    (scan_reduced ⟨"a<1&&b->c->".toList, [], 0⟩).2 6 failed⟩

end FilterQuery.Filter
