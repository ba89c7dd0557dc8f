import FilterQuery.Proofs.Composition
import FilterQuery.Proofs.Faults

/-!
How many closing parentheses are missing. Where a text ends inside groups, or inside a list inside groups,
the scanner reports their number. With as many parentheses behind it the text has no loose ones any more,
and no other number of them makes it a filter.
-/

namespace FilterQuery.Filter

open Text (Quoting isQuote)

def Cause.isUnmatched : Cause → Bool
  | unclosedGroup _ | unopenedGroup => true
  | _ => false

theorem Cause.isUnmatched_of_isOfNode {cause : Cause} (ofNode : cause.isOfNode = true) :
    cause.isUnmatched = false := by
  cases cause <;> first | rfl | cases ofNode

namespace Scanner

/-- All that is missing where the scanner stands are closing parentheses: that of the list which is being
read, if there is one, and those of the open groups. -/
inductive Lacks (s : Scanner) : Nat → Prop where
  | groups {nodes : List Node} {depth : Nat} (rests : s.Rests nodes depth) : Lacks s depth
  | list {start : Nat} {name : Text} {opened : Nat} {raw : Text} (settled : s.halfway = false)
      (unquoted : s.quoting.opened = none) (draft : s.draft = .list start name opened raw) :
      Lacks s (s.depth + 1)

section Closing

variable {lists : Bool} {s : Scanner} {missing depth : Nat} {nodes : List Node} {next : Option Char}

theorem Rests.depth_eq (rests : s.Rests nodes depth) : s.depth = depth := by
  obtain ⟨ended, completed, _, deep, _⟩ := rests.ended
  rw [← (endClause_inv rests.outside completed).depth, deep]

/-- What comes of a parenthesis that closes something: it is refused, but not for being alone, or the
scanner is between two terms and `depth` groups deep. -/
def Closes (depth : Nat) : Except CompileError Scanner → Prop
  | .error e => e.cause.isUnmatched = false
  | .ok after => after.draft = .idle ∧ after.depth = depth ∧ after.halfway = false

theorem Closes.bind {outer : Nat} {first : Except CompileError Scanner}
    {second : Scanner → Except CompileError Scanner} (closes : Closes depth first)
    (continued : ∀ after, Closes depth (.ok after) → Closes outer (second after)) :
    Closes outer (first >>= second) := by
  cases first with
  | error e => exact closes
  | ok after => exact continued after closes

theorem Closes.push {after : Scanner} (closes : Closes depth (.ok after)) (node : Node) (index : Nat) :
    Closes depth (after.push node index) := by
  cases pushed : after.push node index with
  | error e =>
    obtain ⟨cause, blocked, rfl⟩ := push_fault pushed
    exact Cause.isUnmatched_of_isOfNode (obstacle_isOfNode blocked)
  | ok grown =>
    obtain ⟨_, rfl⟩ := push_inv pushed
    exact closes

theorem Rests.closes (rests : s.Rests nodes (depth + 1)) : Closes depth s.closeGroup := by
  have inside : s.depth ≠ 0 := by
    rw [rests.depth_eq]
    exact Nat.succ_ne_zero depth
  obtain ⟨ended, completed, _, deep, idle⟩ := rests.ended
  have settled : ended.halfway = false := by
    rw [(endClause_inv rests.outside completed).halfway, rests.settled]
  have behind : Closes (depth + 1) (.ok ended) := ⟨idle, deep, settled⟩
  rw [closeGroup, if_neg inside, completed]
  apply (behind.push .closing ended.index).bind
  rintro after ⟨idle, deep, settled⟩
  exact ⟨idle, by simp [deep], settled⟩

theorem closeList_closes (settled : s.halfway = false) (start opened : Nat) (name raw : Text) :
    Closes s.depth (s.closeList start name opened raw) := by
  unfold closeList
  split
  · exact rfl
  · have before : Closes s.depth (.ok { s with draft := .idle }) := ⟨rfl, rfl, settled⟩
    apply (before.push _ start).bind
    intro after closes
    exact closes.push _ opened

theorem Lacks.step_close (lacks : s.Lacks (missing + 1)) :
    (∃ e, s.step lists ')' next = .error e ∧ e.cause.isUnmatched = false) ∨
      ∃ after, s.step lists ')' next = .ok after ∧ after.Lacks missing := by
  -- The parenthesis closes the list, or else the innermost group.
  have unquoted : s.quoting.opened = none := by
    cases lacks with
    | groups rests => exact rests.unquoted
    | list settled unquoted draft => exact unquoted
  have closes : Closes missing (s.read lists ')' next) := by
    cases lacks with
    | groups rests =>
      rw [read_sign _ rests.settled rests.unquoted rests.outside rfl]
      exact rests.closes
    | @list start name opened raw settled unquoted draft =>
      have read : s.read lists ')' next = s.closeList start name opened raw := by
        simp [read, settled, draft, unquoted]
      rw [read]
      exact closeList_closes settled start opened name raw
  cases read : s.read lists ')' next with
  | error e =>
    rw [read] at closes
    refine .inl ⟨e, ?_, closes⟩
    rw [step, read]
    rfl
  | ok after =>
    rw [read] at closes
    obtain ⟨idle, rfl, settled⟩ := closes
    refine .inr ⟨_, step_eq read, @Lacks.groups _ after.nodes _ (Idle.rests ?_)⟩
    exact {
      nodes := rfl
      depth := rfl
      draft := idle
      settled := by simp [settled]
      quoting := by simp [Quoting.after, unquoted, isQuote] }

theorem Lacks.step_surplus (lacks : s.Lacks 0) :
    s.step lists ')' next = .error ⟨.unopenedGroup, s.index⟩ := by
  cases lacks with
  | groups rests =>
    have plain : s.readPlain lists ')' next = s.closeGroup := rfl
    rw [step, read_sign _ rests.settled rests.unquoted rests.outside rfl, plain, closeGroup,
      if_pos rests.depth_eq]
    rfl

theorem Lacks.finish_ok (lacks : s.Lacks missing) (finished : s.finish = .ok nodes) : missing = 0 := by
  obtain ⟨ended, completes, top, _⟩ := finish_inv finished
  cases lacks with
  | groups rests => rw [← rests.depth_eq, ← completes.depth, top]
  | list settled unquoted draft =>
    have outside := completes.outside
    simp [draft, Draft.isList] at outside

theorem Lacks.finish_isUnmatched {e : CompileError} (lacks : s.Lacks 0)
    (failed : s.finish = .error e) : e.cause.isUnmatched = false := by
  cases lacks with
  | groups rests =>
    cases finish_fault failed with
    | string => rfl
    | list draft =>
      have outside := rests.outside
      simp [draft, Draft.isList] at outside
    | unfinished unfinished => exact Cause.isUnmatched_of_isOfNode unfinished.isOfNode
    | group completes inside =>
      have top := rests.depth_eq
      omega
    | connective => rfl

theorem Lacks.run_closings (lacks : s.Lacks missing) (count : Nat) :
    (∀ nodes, s.run lists none (List.replicate count ')') >>= finish = .ok nodes → count = missing) ∧
    (count = missing → ∀ e, s.run lists none (List.replicate count ')') >>= finish = .error e →
      e.cause.isUnmatched = false) := by
  induction count generalizing s missing with
  | zero =>
    constructor
    · intro nodes finished
      exact (lacks.finish_ok finished).symm
    · rintro rfl e failed
      exact lacks.finish_isUnmatched failed
  | succ count ih =>
    rw [List.replicate_succ, run]
    cases missing with
    | zero =>
      rw [lacks.step_surplus]
      constructor
      · intro nodes finished
        cases finished
      · intro same
        cases same
    | succ missing =>
      rcases lacks.step_close with ⟨refusal, refused, unmatched⟩ | ⟨after, closed, lacks⟩
      · rw [refused]
        constructor
        · intro nodes finished
          cases finished
        · intro _ e failed
          cases failed
          exact unmatched
      · rw [closed]
        obtain ⟨enough, clean⟩ := ih lacks
        constructor
        · intro nodes finished
          rw [enough nodes finished]
        · intro same
          exact clean (Nat.succ.inj same)

end Closing

theorem Behind.lacks {context : List Node} {depth missing : Nat} {s s' : Scanner}
    (behind : Behind context depth s s') (awaiting : Awaiting depth context) (lacks : s.Lacks missing) :
    s'.Lacks (depth + missing) := by
  cases lacks with
  | groups rests => exact .groups (behind.rests awaiting rests)
  | list settled unquoted draft =>
    have alike := behind.alike
    rw [draft] at alike
    generalize found : s'.draft = draft' at alike
    cases alike
    rw [← Nat.add_assoc, ← behind.depth]
    exact .list (by rw [behind.halfway, settled]) (by rw [behind.quoting, unquoted]) found

theorem lacks_of_finish {s : Scanner} {missing position : Nat} (settled : s.halfway = false)
    (failed : s.finish = .error ⟨.unclosedGroup missing, position⟩) : 1 ≤ missing ∧ s.Lacks missing := by
  have unquoted : s.quoting.opened = none := by
    cases opened : s.quoting.opened with
    | none => rfl
    | some quote =>
      simp only [finish, opened] at failed
      cases failed
  cases finish_fault failed with
  | list draft => exact ⟨Nat.le_add_left 1 _, .list settled unquoted draft⟩
  | unfinished unfinished => cases unfinished.isOfNode
  | group completes inside => exact ⟨inside, .groups (completes.rests settled unquoted)⟩

end Scanner

/-- Where parentheses are reported missing the scanner stands at the end of the text and lacks them. That
is also where it reads on if parentheses follow. -/
theorem exists_lacks {lists : Bool} {t : Text} {missing position : Nat}
    (failed : scan lists t = .error ⟨.unclosedGroup missing, position⟩) :
    1 ≤ missing ∧ ∃ s : Scanner, s.Lacks missing ∧
      ∀ count, scan lists (t ++ List.replicate (count + 1) ')') =
        s.run lists none (List.replicate (count + 1) ')') >>= Scanner.finish := by
  have start := Scanner.faithful_start lists (t.head?.or none)
  rcases bind_eq_error failed with stopped | ⟨s, ran, unclosed⟩
  · obtain ⟨_, _, _, _, _, _, stopped⟩ := Scanner.run_fault Scanner.step_faithful start stopped
    cases (Scanner.step_fault stopped).2.isOfCharacter
  · have faithful := Scanner.run_keeps Scanner.step_faithful start ran
    obtain ⟨positive, lacks⟩ := Scanner.lacks_of_finish faithful.accounts.settled unclosed
    -- The text is read as before where a parenthesis follows it.
    have ahead : Ahead none (some ')') := .inr ⟨rfl, by decide⟩
    obtain ⟨s', ran', behind⟩ := Scanner.run_behind awaiting_nil ahead
      (⟨rfl, rfl, .idle, rfl, rfl⟩ : Scanner.Behind [] 0 {} {}) (.inl awaiting_nil) s ran
    refine ⟨positive, s', by simpa using behind.lacks awaiting_nil lacks, fun count => ?_⟩
    rw [scan, Scanner.run_append_ok ran']

/-- Where closing parentheses are reported missing there is at least one of them. With as many behind the
text no parenthesis is alone any more, and with any other number the text is no filter. -/
theorem scan_unclosed (lists : Bool) (t : Text) (missing position : Nat)
    (failed : scan lists t = .error ⟨.unclosedGroup missing, position⟩) :
    1 ≤ missing ∧
    (∀ e, scan lists (t ++ List.replicate missing ')') = .error e → e.cause.isUnmatched = false) ∧
    ∀ count nodes, scan lists (t ++ List.replicate count ')') = .ok nodes → count = missing := by
  obtain ⟨positive, s, lacks, extended⟩ := exists_lacks failed
  refine ⟨positive, ?_, ?_⟩
  · obtain ⟨fewer, rfl⟩ := Nat.exists_eq_succ_of_ne_zero (Nat.one_le_iff_ne_zero.1 positive)
    rw [extended fewer]
    exact (lacks.run_closings (fewer + 1)).2 rfl
  · intro count nodes accepted
    cases count with
    | zero =>
      rw [List.replicate_zero, List.append_nil, failed] at accepted
      cases accepted
    | succ count =>
      rw [extended count] at accepted
      exact (lacks.run_closings (count + 1)).1 nodes accepted

/-- A list inside two groups, with a parenthesis in a string, and a group that must not end here. -/
theorem scan_unclosed_list :
    (scan true "((a->(1,')'".toList = .error ⟨.unclosedGroup 3, 11⟩ ∧
      ∀ count nodes, scan true ("((a->(1,')'".toList ++ List.replicate count ')') = .ok nodes → count = 3) ∧
    scan false "(a==1&&".toList = .error ⟨.unclosedGroup 1, 7⟩ ∧
      ∀ e, scan false ("(a==1&&".toList ++ [')']) = .error e → e.cause.isUnmatched = false := by
  have list : scan true "((a->(1,')'".toList = .error ⟨.unclosedGroup 3, 11⟩ := by decide
  have group : scan false "(a==1&&".toList = .error ⟨.unclosedGroup 1, 7⟩ := by decide
  exact ⟨⟨list, (scan_unclosed true _ _ _ list).2.2⟩, group, (scan_unclosed false _ _ _ group).2.1⟩

end FilterQuery.Filter
