import FilterQuery.Proofs.Spelling

/-!
What one character can do to a scanner that stops. Every way of stopping is a constructor of `Fault`, with
the conditions under which the scanner takes it and the error that it reports, as `Move` is for a scanner
that goes on.
-/

namespace FilterQuery.Filter

theorem bind_eq_error {α β ε : Type} {first : Except ε α} {next : α → Except ε β} {e : ε}
    (failed : first >>= next = .error e) :
    first = .error e ∨ ∃ a, first = .ok a ∧ next a = .error e := by
  cases first with
  | error other =>
    cases failed
    exact .inl rfl
  | ok a => exact .inr ⟨a, rfl, failed⟩

/-- The causes that lie in one node: it is incomplete, or it cannot stand behind the one before. -/
def Cause.isOfNode : Cause → Bool
  | incompleteClause _ | missingInList => true
  | unexpectedCharacter _ | leadingLogical | adjacentClauses | misplacedNode _ _ => true
  | _ => false

def Cause.isOfCharacter (lists : Bool) : Cause → Bool
  | unterminatedString _ | unclosedGroup _ | trailingLogical => false
  | inListsDisabled => !lists
  | _ => true

theorem Cause.isOfCharacter_of_isOfNode {lists : Bool} {cause : Cause} (ofNode : cause.isOfNode = true) :
    cause.isOfCharacter lists = true := by
  cases cause <;> first | rfl | cases ofNode

theorem obstacle_isOfNode {previous : Option Node} {node : Node} {cause : Cause}
    (blocked : obstacle previous node = some cause) : cause.isOfNode = true := by
  cases previous with
  | none => cases node <;> cases blocked <;> rfl
  | some previous =>
    cases node with
    | list raw items =>
      by_cases awaits : previous.awaitsList = true
      · simp [obstacle, Node.kind, awaits] at blocked
      · simp [obstacle, Node.kind, awaits] at blocked
        rw [← blocked]
        rfl
    | _ => cases previous <;> cases blocked <;> rfl

namespace Scanner

theorem push_fault {s : Scanner} {node : Node} {index : Nat} {e : CompileError}
    (failed : s.push node index = .error e) :
    ∃ cause, obstacle s.nodes.getLast? node = some cause ∧ e = ⟨cause, index⟩ := by
  rcases bind_eq_error failed with refused | ⟨nodes, _, done⟩
  · rw [push_eq] at refused
    split at refused
    · rename_i cause blocked
      cases refused
      exact ⟨cause, blocked, rfl⟩
    · cases refused
  · cases done

/-- Why a clause cannot end here. What is missing is reported where the scanner stands, and a clause that
is in the wrong place where it begins. -/
inductive Unfinished (s : Scanner) : CompileError → Prop where
  | noComparator {start : Nat} {name : Text} (draft : s.draft = .column start name) :
      Unfinished s ⟨.incompleteClause .comparator, s.index⟩
  | noValue {start : Nat} {name : Text} {comparator : Comparator}
      (draft : s.draft = .value start name comparator []) :
      Unfinished s ⟨.incompleteClause .value, s.index⟩
  | noList {start : Nat} {name typed : Text} (draft : s.draft = .value start name .inList typed)
      (filled : typed ≠ []) : Unfinished s ⟨.missingInList, start⟩
  | blocked {start : Nat} {name : Text} {comparator : Comparator} {typed : Text} {cause : Cause}
      (draft : s.draft = .value start name comparator typed) (filled : typed ≠ [])
      (plain : comparator ≠ .inList)
      (blocked : obstacle s.nodes.getLast?
        (.clause ⟨name, comparator, finalizeValue comparator typed⟩) = some cause) :
      Unfinished s ⟨cause, start⟩

theorem endClause_fault {s : Scanner} {e : CompileError} (failed : s.endClause = .error e) :
    s.Unfinished e := by
  unfold endClause at failed
  split at failed
  · cases failed
  · rename_i draft
    cases failed
    exact .noComparator draft
  · rename_i start name comparator typed draft
    split at failed
    · rename_i empty
      have empty : typed = [] := by simpa using empty
      subst empty
      cases failed
      exact .noValue draft
    · rename_i filled
      have filled : typed ≠ [] := by simpa using filled
      split at failed
      · rename_i isList
        subst isList
        cases failed
        exact .noList draft filled
      · rename_i plain
        obtain ⟨cause, blocked, rfl⟩ := push_fault failed
        exact .blocked draft filled plain blocked
  · cases failed

theorem Unfinished.isOfNode {s : Scanner} {e : CompileError} (unfinished : s.Unfinished e) :
    e.cause.isOfNode = true := by
  cases unfinished with
  | blocked draft filled plain blocked => exact obstacle_isOfNode blocked
  | _ => rfl

/-- The ways in which a scanner stops at the character `c` before `next`. -/
inductive Fault (lists : Bool) (s : Scanner) (c : Char) (next : Option Char) : CompileError → Prop where
  | openGroup {cause : Cause} (mark : c = '(') (draft : s.draft = .idle)
      (blocked : obstacle s.nodes.getLast? .opening = some cause) :
      Fault lists s c next ⟨cause, s.index⟩
  | openInside (mark : c = '(') (pending : s.draft ≠ .idle) :
      Fault lists s c next ⟨.unexpectedCharacter '(', s.index⟩
  | unopened (mark : c = ')') (outside : s.depth = 0) :
      Fault lists s c next ⟨.unopenedGroup, s.index⟩
  | closeGroup {ended : Scanner} {cause : Cause} (mark : c = ')') (inside : s.depth ≠ 0)
      (completes : s.Completes ended)
      (blocked : obstacle ended.nodes.getLast? .closing = some cause) :
      Fault lists s c next ⟨cause, s.index⟩
  | emptyList {start : Nat} {name : Text} {opened : Nat} (mark : c = ')')
      (draft : s.draft = .list start name opened []) :
      Fault lists s c next ⟨.incompleteClause .value, s.index⟩
  | closeList {start : Nat} {name : Text} {opened : Nat} {raw : Text} {cause : Cause} (mark : c = ')')
      (draft : s.draft = .list start name opened raw)
      (blocked : obstacle s.nodes.getLast? (.clause ⟨name, .inList, raw⟩) = some cause) :
      Fault lists s c next ⟨cause, start⟩
  | single {connective : Connective} (mark : c = connective.mark)
      (alone : next ≠ some connective.mark) :
      Fault lists s c next ⟨.singleLogical connective.mark, s.index⟩
  | connect {connective : Connective} {ended : Scanner} {cause : Cause} (mark : c = connective.mark)
      (completes : s.Completes ended)
      (blocked : obstacle ended.nodes.getLast? (.connective connective) = some cause) :
      Fault lists s c next ⟨cause, s.index⟩
  | unfinished {e : CompileError} (unfinished : s.Unfinished e) : Fault lists s c next e
  | noColumn (mark : isComparatorMark c = true) (draft : s.draft = .idle) :
      Fault lists s c next ⟨.incompleteClause .column, s.index⟩
  | noValue {start : Nat} {name : Text} {comparator : Comparator} (mark : isComparatorMark c = true)
      (draft : s.draft = .value start name comparator []) :
      Fault lists s c next ⟨.incompleteClause .value, s.index⟩
  | duplicate {start : Nat} {name : Text} {comparator : Comparator} {typed : Text}
      (mark : isComparatorMark c = true) (draft : s.draft = .value start name comparator typed)
      (filled : typed ≠ []) : Fault lists s c next ⟨.duplicateComparator, s.index⟩
  | half {start : Nat} {name : Text} (draft : s.draft = .column start name) (narrow : c ≠ '>')
      (ends : next = none) : Fault lists s c next ⟨.unexpectedCharacter c, s.index⟩
  | mismatch {start : Nat} {name : Text} {found expected : Char} (draft : s.draft = .column start name)
      (follows : next = some found) (other : found ≠ expected) (arrow : c = '-' → expected = '>') :
      Fault lists s c next ⟨.comparatorMismatch found expected, s.index + 1⟩
  | listsOff {start : Nat} {name : Text} (draft : s.draft = .column start name) (off : lists = false)
      (mark : c = '-') (follows : next = some '>') :
      Fault lists s c next ⟨.inListsDisabled, s.index⟩

section Reading

variable {lists : Bool} {s : Scanner} {c : Char} {next : Option Char} {e : CompileError}

theorem openGroup_fault (failed : s.openGroup = .error e) : Fault lists s '(' next e := by
  unfold openGroup at failed
  split at failed
  · rename_i draft
    rcases bind_eq_error failed with refused | ⟨pushed, _, done⟩
    · obtain ⟨cause, blocked, rfl⟩ := push_fault refused
      exact .openGroup rfl draft blocked
    · cases done
  · cases failed
  · rename_i notIdle _
    cases failed
    exact .openInside rfl notIdle

theorem closeGroup_fault (outside : s.draft.isList = false) (failed : s.closeGroup = .error e) :
    Fault lists s ')' next e := by
  unfold closeGroup at failed
  split at failed
  · rename_i top
    cases failed
    exact .unopened rfl top
  · rename_i inside
    rcases bind_eq_error failed with unfinished | ⟨ended, completed, failed⟩
    · exact .unfinished (endClause_fault unfinished)
    · have completes := endClause_inv outside completed
      rcases bind_eq_error failed with refused | ⟨pushed, _, done⟩
      · obtain ⟨cause, blocked, rfl⟩ := push_fault refused
        rw [completes.index]
        exact .closeGroup rfl inside completes blocked
      · cases done

theorem closeList_fault {start : Nat} {name : Text} {opened : Nat} {raw : Text}
    (draft : s.draft = .list start name opened raw)
    (failed : s.closeList start name opened raw = .error e) : Fault lists s ')' next e := by
  unfold closeList at failed
  split at failed
  · rename_i empty
    have empty : raw = [] := by simpa using empty
    subst empty
    cases failed
    exact .emptyList rfl draft
  · rcases bind_eq_error failed with refused | ⟨pushed, done, refused⟩
    · obtain ⟨cause, blocked, rfl⟩ := push_fault refused
      exact .closeList rfl draft blocked
    · -- The clause in front of the list is there by now, so the list is never refused.
      obtain ⟨_, rfl⟩ := push_inv done
      obtain ⟨cause, blocked, _⟩ := push_fault refused
      simp [obstacle, Node.kind, Node.awaitsList] at blocked

theorem pair_fault {comparator : Comparator} {expected : Char} {start : Nat} {name : Text}
    (draft : s.draft = .column start name) (narrow : c ≠ '>') (arrow : c = '-' → expected = '>')
    (failed : pair comparator c expected next s.index = .error e) : Fault lists s c next e := by
  unfold pair at failed
  split at failed
  · cases failed
    exact .half draft narrow rfl
  · split at failed
    · cases failed
    · rename_i other
      cases failed
      exact .mismatch draft rfl other arrow

theorem comparatorAt_fault {start : Nat} {name : Text} (mark : isComparatorMark c = true)
    (draft : s.draft = .column start name) (failed : comparatorAt lists c next s.index = .error e) :
    Fault lists s c next e := by
  simp only [isComparatorMark, Bool.or_eq_true, decide_eq_true_eq] at mark
  rcases mark with ((((rfl | rfl) | rfl) | rfl) | rfl) | rfl
  · cases failed
  · cases failed
  · have failed : pair .eq '=' '=' next s.index = .error e := failed
    exact pair_fault draft (by decide) (by decide) failed
  · have failed : pair .ne '!' '=' next s.index = .error e := failed
    exact pair_fault draft (by decide) (by decide) failed
  · have failed : pair .like '%' '%' next s.index = .error e := failed
    exact pair_fault draft (by decide) (by decide) failed
  · rcases bind_eq_error failed with failed | ⟨comparator, found, failed⟩
    · exact pair_fault draft (by decide) (fun _ => rfl) failed
    · obtain ⟨_, follows⟩ := pair_inv found
      cases lists with
      | true => cases failed
      | false =>
        cases failed
        exact .listsOff draft rfl rfl follows

theorem readComparator_fault (outside : s.draft.isList = false) (mark : isComparatorMark c = true)
    (failed : s.readComparator lists c next = .error e) : Fault lists s c next e := by
  unfold readComparator at failed
  split at failed
  · rename_i draft
    rcases bind_eq_error failed with failed | ⟨comparator, _, done⟩
    · exact comparatorAt_fault mark draft failed
    · cases done
  · rename_i draft
    cases failed
    exact .noValue mark draft
  · rename_i draft
    cases failed
    exact .duplicate mark draft (List.cons_ne_nil _ _)
  · rename_i notColumn notEmpty notFilled
    cases failed
    -- Neither a column nor a value is under way, and a list is read elsewhere.
    cases draft : s.draft with
    | idle => exact .noColumn mark draft
    | column start name => exact absurd draft (notColumn start name)
    | value start name comparator typed =>
      cases typed with
      | nil => exact absurd draft (notEmpty start name comparator)
      | cons d rest => exact absurd draft (notFilled start name comparator d rest)
    | list start name opened raw => simp [draft, Draft.isList] at outside

theorem readConnective_fault {connective : Connective} (outside : s.draft.isList = false)
    (failed : s.readConnective connective next = .error e) :
    Fault lists s connective.mark next e := by
  unfold readConnective at failed
  split at failed
  · rename_i alone
    cases failed
    exact .single rfl alone
  · rcases bind_eq_error failed with unfinished | ⟨ended, completed, failed⟩
    · exact .unfinished (endClause_fault unfinished)
    · have completes := endClause_inv outside completed
      rcases bind_eq_error failed with refused | ⟨pushed, _, done⟩
      · obtain ⟨cause, blocked, rfl⟩ := push_fault refused
        rw [completes.index]
        exact .connect rfl completes blocked
      · cases done

theorem readPlain_fault (outside : s.draft.isList = false)
    (failed : s.readPlain lists c next = .error e) : Fault lists s c next e := by
  unfold readPlain at failed
  split at failed
  · exact openGroup_fault failed
  · exact closeGroup_fault outside failed
  · have fault : Fault lists s Connective.and.mark next e := readConnective_fault outside failed
    exact fault
  · have fault : Fault lists s Connective.or.mark next e := readConnective_fault outside failed
    exact fault
  · split at failed
    · cases failed
    · exact readComparator_fault outside rfl failed
  all_goals first
    | exact readComparator_fault outside rfl failed
    | cases failed

theorem read_fault (failed : s.read lists c next = .error e) :
    s.halfway = false ∧ Fault lists s c next e := by
  unfold Scanner.read at failed
  split at failed
  · cases failed
  · rename_i first
    have first : s.halfway = false := by simpa using first
    apply And.intro first
    split at failed
    · rename_i draft
      split at failed
      · rename_i ends
        simp only [Bool.and_eq_true, decide_eq_true_eq] at ends
        obtain ⟨_, rfl⟩ := ends
        exact closeList_fault draft failed
      · cases failed
    · rename_i notList
      have outside : s.draft.isList = false := by
        cases draft : s.draft with
        | list start name opened raw => exact absurd draft (notList start name opened raw)
        | _ => rfl
      split at failed
      · cases failed
      · exact readPlain_fault outside failed

theorem step_fault (failed : s.step lists c next = .error e) :
    s.halfway = false ∧ Fault lists s c next e := by
  rcases bind_eq_error failed with failed | ⟨moved, _, done⟩
  · exact read_fault failed
  · cases done

theorem Fault.isOfCharacter (fault : Fault lists s c next e) : e.cause.isOfCharacter lists = true := by
  cases fault with
  | openGroup _ _ blocked | closeList _ _ blocked | connect _ _ blocked =>
    exact Cause.isOfCharacter_of_isOfNode (obstacle_isOfNode blocked)
  | closeGroup _ _ _ blocked => exact Cause.isOfCharacter_of_isOfNode (obstacle_isOfNode blocked)
  | unfinished unfinished => exact Cause.isOfCharacter_of_isOfNode unfinished.isOfNode
  | listsOff _ off =>
    rw [off]
    rfl
  | _ => rfl

/-- The ways in which a text cannot end where the scanner stands. -/
inductive Dangling (s : Scanner) : CompileError → Prop where
  | string {quote : Char} (opened : s.quoting.opened = some quote) :
      Dangling s ⟨.unterminatedString quote, s.quoteStart⟩
  | list {start : Nat} {name : Text} {opened : Nat} {raw : Text}
      (draft : s.draft = .list start name opened raw) :
      Dangling s ⟨.unclosedGroup (s.depth + 1), s.index⟩
  | unfinished {e : CompileError} (unfinished : s.Unfinished e) : Dangling s e
  | group {ended : Scanner} (completes : s.Completes ended) (inside : 0 < s.depth) :
      Dangling s ⟨.unclosedGroup s.depth, s.index⟩
  | connective {ended : Scanner} {connective : Connective} (completes : s.Completes ended)
      (last : ended.nodes.getLast? = some (.connective connective)) :
      Dangling s ⟨.trailingLogical, s.index⟩

theorem close_fault {nodes : List Node} {position : Nat} (failed : close nodes position = .error e) :
    e = ⟨.trailingLogical, position⟩ ∧ ∃ connective, nodes.getLast? = some (.connective connective) := by
  unfold close at failed
  split at failed
  · rename_i connective last
    cases failed
    exact ⟨rfl, connective, last⟩
  · cases failed

theorem finish_fault (failed : s.finish = .error e) : s.Dangling e := by
  cases opened : s.quoting.opened with
  | some quote =>
    simp only [finish, opened] at failed
    cases failed
    exact .string opened
  | none =>
    cases listed : s.draft.isList with
    | true =>
      cases draft : s.draft with
      | list start name position raw =>
        simp only [finish, opened, draft] at failed
        cases failed
        exact .list draft
      | _ => simp [draft, Draft.isList] at listed
    | false =>
      rw [finish_eq opened listed] at failed
      rcases bind_eq_error failed with unfinished | ⟨ended, completed, failed⟩
      · exact .unfinished (endClause_fault unfinished)
      · have completes := endClause_inv listed completed
        rw [completes.index] at failed
        split at failed
        · rename_i inside
          cases failed
          rw [completes.depth] at inside ⊢
          exact .group completes inside
        · rcases bind_eq_error failed with failed | ⟨_, _, done⟩
          · obtain ⟨rfl, connective, last⟩ := close_fault failed
            exact .connective completes last
          · cases done

end Reading

/-- A run that stops does so at one character, and everything that steps keep holds there. -/
theorem run_fault {lists : Bool} {beyond : Option Char} {P : Scanner → Text → Option Char → Prop}
    (keeps : ∀ s consumed c next after, P s consumed (some c) →
      s.step lists c next = .ok after → P after (consumed ++ [c]) next)
    {s : Scanner} {t consumed : Text} {e : CompileError} (holds : P s consumed (t.head?.or beyond))
    (failed : s.run lists beyond t = .error e) :
    ∃ reached before c rest, t = before ++ c :: rest ∧ P reached (consumed ++ before) (some c) ∧
      reached.step lists c (rest.head?.or beyond) = .error e := by
  induction t generalizing s consumed with
  | nil => cases failed
  | cons c rest ih =>
    rcases bind_eq_error failed with here | ⟨middle, stepped, later⟩
    · exact ⟨s, [], c, rest, rfl, by simpa using holds, here⟩
    · have kept := keeps s consumed c _ middle holds stepped
      obtain ⟨reached, before, d, rest', rfl, holds, failed⟩ := ih kept later
      exact ⟨reached, c :: before, d, rest', rfl, by simpa using holds, failed⟩

end Scanner

end FilterQuery.Filter
