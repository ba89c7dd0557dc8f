import FilterQuery.Filter.Scan
import FilterQuery.Proofs.Grammar

/-!
What one character can do to a scanner that goes on. Every way of going on is a constructor of `Move`,
with the conditions under which the scanner takes it, so that what holds of all runs is shown by cases
on moves and never by looking into the reader again.
-/

namespace FilterQuery.Filter

theorem bind_eq_ok {α β ε : Type} {first : Except ε α} {next : α → Except ε β} {b : β}
    (reached : first >>= next = .ok b) : ∃ a, first = .ok a ∧ next a = .ok b := by
  cases first with
  | error e => cases reached
  | ok a => exact ⟨a, rfl, reached⟩

theorem append_eq_append_cons {α : Type} {first second before after : List α} {a : α}
    (cut : first ++ second = before ++ a :: after) :
    (∃ inner, first = before ++ a :: inner ∧ after = inner ++ second) ∨
      ∃ inner, before = first ++ inner ∧ second = inner ++ a :: after := by
  rcases List.append_eq_append_iff.1 cut with ⟨inner, earlier, split⟩ | ⟨inner, earlier, split⟩
  · exact .inr ⟨inner, earlier, split⟩
  · rcases List.cons_eq_append_iff.1 split with ⟨rfl, found⟩ | ⟨inner, rfl, rest⟩
    · exact .inr ⟨[], by simp [earlier], found⟩
    · exact .inl ⟨inner, earlier, rest⟩

def Draft.isList : Draft → Bool
  | list _ _ _ _ => true
  | _ => false

/-- The comparator is written with `c` alone, or with `c` and the character behind it. -/
def Comparator.WrittenAt (comparator : Comparator) (c : Char) (next : Option Char) : Prop :=
  comparator.spelling = [c] ∨ ∃ second, next = some second ∧ comparator.spelling = [c, second]

def isComparatorMark (c : Char) : Bool :=
  c = '<' || c = '>' || c = '=' || c = '!' || c = '%' || c = '-'

namespace Scanner

theorem push_inv {s after : Scanner} {node : Node} {index : Nat}
    (pushed : s.push node index = .ok after) :
    obstacle s.nodes.getLast? node = none ∧ after = { s with nodes := s.nodes ++ [node] } := by
  obtain ⟨nodes, grown, done⟩ := bind_eq_ok pushed
  obtain ⟨free, rfl⟩ := push_ok grown
  cases done
  exact ⟨free, rfl⟩

@[simp] theorem accept_nodes (s : Scanner) (c : Char) : (s.accept c).nodes = s.nodes := by
  unfold accept
  split <;> rfl

@[simp] theorem accept_depth (s : Scanner) (c : Char) : (s.accept c).depth = s.depth := by
  unfold accept
  split <;> rfl

@[simp] theorem accept_halfway (s : Scanner) (c : Char) : (s.accept c).halfway = s.halfway := by
  unfold accept
  split <;> rfl

/-- A clause is complete once it has a value, and lists end elsewhere. -/
inductive Completes (s : Scanner) : Scanner → Prop where
  | idle (draft : s.draft = .idle) : Completes s s
  | clause {start : Nat} {name : Text} {comparator : Comparator} {typed : Text}
      (draft : s.draft = .value start name comparator typed) (filled : typed ≠ [])
      (plain : comparator ≠ .inList)
      (free : obstacle s.nodes.getLast?
        (.clause ⟨name, comparator, finalizeValue comparator typed⟩) = none) :
      Completes s { s with
        draft := .idle
        nodes := s.nodes ++ [.clause ⟨name, comparator, finalizeValue comparator typed⟩] }

theorem endClause_inv {s after : Scanner} (outside : s.draft.isList = false)
    (ended : s.endClause = .ok after) : s.Completes after := by
  unfold endClause at ended
  split at ended
  · rename_i draft
    cases ended
    exact .idle draft
  · cases ended
  · rename_i start name comparator typed draft
    split at ended
    · cases ended
    · rename_i filled
      split at ended
      · cases ended
      · rename_i plain
        obtain ⟨free, rfl⟩ := push_inv ended
        exact .clause draft (by simpa using filled) plain free
  · rename_i draft
    simp [draft, Draft.isList] at outside

theorem pair_inv {comparator found : Comparator} {c expected : Char} {next : Option Char}
    {index : Nat} (read : pair comparator c expected next index = .ok found) :
    found = comparator ∧ next = some expected := by
  unfold pair at read
  split at read
  · cases read
  · rename_i second
    split at read
    · rename_i same
      cases read
      exact ⟨rfl, by rw [same]⟩
    · cases read

theorem comparatorAt_inv {lists : Bool} {c : Char} {next : Option Char} {index : Nat}
    {comparator : Comparator} (mark : isComparatorMark c = true)
    (read : comparatorAt lists c next index = .ok comparator) :
    comparator.WrittenAt c next ∧ (comparator = .inList → lists = true) := by
  simp only [isComparatorMark, Bool.or_eq_true, decide_eq_true_eq] at mark
  -- Only the angle brackets may stand alone; every other mark needs its second character.
  rcases mark with ((((rfl | rfl) | rfl) | rfl) | rfl) | rfl
  · by_cases equal : next = some '='
    · have same : comparator = .le := by simpa [comparatorAt, equal] using read.symm
      subst same
      exact ⟨.inr ⟨'=', equal, rfl⟩, nofun⟩
    · have same : comparator = .lt := by simpa [comparatorAt, equal] using read.symm
      subst same
      exact ⟨.inl rfl, nofun⟩
  · by_cases equal : next = some '='
    · have same : comparator = .ge := by simpa [comparatorAt, equal] using read.symm
      subst same
      exact ⟨.inr ⟨'=', equal, rfl⟩, nofun⟩
    · have same : comparator = .gt := by simpa [comparatorAt, equal] using read.symm
      subst same
      exact ⟨.inl rfl, nofun⟩
  · obtain ⟨rfl, second⟩ := pair_inv (show pair .eq '=' '=' next index = _ from read)
    exact ⟨.inr ⟨_, second, rfl⟩, nofun⟩
  · obtain ⟨rfl, second⟩ := pair_inv (show pair .ne '!' '=' next index = _ from read)
    exact ⟨.inr ⟨_, second, rfl⟩, nofun⟩
  · obtain ⟨rfl, second⟩ := pair_inv (show pair .like '%' '%' next index = _ from read)
    exact ⟨.inr ⟨_, second, rfl⟩, nofun⟩
  · obtain ⟨found, paired, allowed⟩ := bind_eq_ok read
    obtain ⟨rfl, second⟩ := pair_inv paired
    cases lists with
    | false => cases allowed
    | true =>
      cases allowed
      exact ⟨.inr ⟨_, second, rfl⟩, fun _ => rfl⟩

/-- The ways in which a scanner goes on over the character `c` before `next`. -/
inductive Move (lists : Bool) (s : Scanner) (c : Char) (next : Option Char) : Scanner → Prop where
  | pass (second : s.halfway = true) : Move lists s c next s
  | take (first : s.halfway = false) : Move lists s c next (s.accept c)
  | openGroup (first : s.halfway = false) (mark : c = '(') (draft : s.draft = .idle)
      (free : obstacle s.nodes.getLast? .opening = none) :
      Move lists s c next { s with nodes := s.nodes ++ [.opening], depth := s.depth + 1 }
  | openList {start : Nat} {name : Text} (first : s.halfway = false) (mark : c = '(')
      (draft : s.draft = .value start name .inList []) :
      Move lists s c next { s with draft := .list start name s.index [] }
  | closeGroup {ended : Scanner} (first : s.halfway = false) (mark : c = ')')
      (inside : s.depth ≠ 0) (completes : s.Completes ended)
      (free : obstacle ended.nodes.getLast? .closing = none) :
      Move lists s c next
        { ended with nodes := ended.nodes ++ [.closing], depth := ended.depth - 1 }
  | closeList {start : Nat} {name : Text} {opened : Nat} {raw : Text} (first : s.halfway = false)
      (mark : c = ')') (unquoted : s.quoting.opened = none)
      (draft : s.draft = .list start name opened raw) (filled : raw ≠ [])
      (free : obstacle s.nodes.getLast? (.clause ⟨name, .inList, raw⟩) = none) :
      Move lists s c next { s with
        draft := .idle
        nodes := s.nodes ++
          [.clause ⟨name, .inList, raw⟩, .list raw ((splitItems raw).map requote)] }
  | compare {start : Nat} {name : Text} {comparator : Comparator} (first : s.halfway = false)
      (draft : s.draft = .column start name) (written : comparator.WrittenAt c next)
      (allowed : comparator = .inList → lists = true) :
      Move lists s c next { s with
        draft := .value start name comparator []
        halfway := comparator.spelling.length = 2 }
  | connect {ended : Scanner} {connective : Connective} (first : s.halfway = false)
      (mark : c = connective.mark) (doubled : next = some connective.mark)
      (completes : s.Completes ended)
      (free : obstacle ended.nodes.getLast? (.connective connective) = none) :
      Move lists s c next
        { ended with nodes := ended.nodes ++ [.connective connective], halfway := true }

section Reading

variable {lists : Bool} {s after : Scanner} {c : Char} {next : Option Char}

theorem openGroup_inv (first : s.halfway = false) (read : s.openGroup = .ok after) :
    Move lists s '(' next after := by
  unfold openGroup at read
  split at read
  · rename_i draft
    obtain ⟨pushed, done, read⟩ := bind_eq_ok read
    obtain ⟨free, rfl⟩ := push_inv done
    cases read
    exact .openGroup first rfl draft free
  · rename_i draft
    cases read
    exact .openList first rfl draft
  · cases read

theorem closeGroup_inv (first : s.halfway = false) (outside : s.draft.isList = false)
    (read : s.closeGroup = .ok after) : Move lists s ')' next after := by
  unfold closeGroup at read
  split at read
  · cases read
  · rename_i inside
    obtain ⟨ended, completed, read⟩ := bind_eq_ok read
    obtain ⟨pushed, done, read⟩ := bind_eq_ok read
    obtain ⟨free, rfl⟩ := push_inv done
    cases read
    exact .closeGroup first rfl inside (endClause_inv outside completed) free

theorem closeList_inv {start : Nat} {name : Text} {opened : Nat} {raw : Text}
    (first : s.halfway = false) (unquoted : s.quoting.opened = none)
    (draft : s.draft = .list start name opened raw)
    (read : s.closeList start name opened raw = .ok after) : Move lists s ')' next after := by
  unfold closeList at read
  split at read
  · cases read
  · rename_i filled
    obtain ⟨pushed, done, read⟩ := bind_eq_ok read
    obtain ⟨free, rfl⟩ := push_inv done
    obtain ⟨_, rfl⟩ := push_inv read
    have moved : Move lists s ')' next _ :=
      .closeList first rfl unquoted draft (by simpa using filled) free
    simpa using moved

theorem readComparator_inv (first : s.halfway = false) (mark : isComparatorMark c = true)
    (read : s.readComparator lists c next = .ok after) : Move lists s c next after := by
  unfold readComparator at read
  split at read
  · rename_i draft
    obtain ⟨comparator, found, done⟩ := bind_eq_ok read
    obtain ⟨written, allowed⟩ := comparatorAt_inv mark found
    cases done
    exact .compare first draft written allowed
  · cases read
  · cases read
  · cases read

theorem readConnective_inv {connective : Connective} (first : s.halfway = false)
    (outside : s.draft.isList = false)
    (read : s.readConnective connective next = .ok after) :
    Move lists s connective.mark next after := by
  unfold readConnective at read
  split at read
  · cases read
  · rename_i doubled
    obtain ⟨ended, completed, read⟩ := bind_eq_ok read
    obtain ⟨pushed, done, read⟩ := bind_eq_ok read
    obtain ⟨free, rfl⟩ := push_inv done
    cases read
    exact .connect first rfl (by simpa using doubled) (endClause_inv outside completed) free

theorem readPlain_inv (first : s.halfway = false) (outside : s.draft.isList = false)
    (read : s.readPlain lists c next = .ok after) : Move lists s c next after := by
  unfold readPlain at read
  split at read
  · exact openGroup_inv first read
  · exact closeGroup_inv first outside read
  · have moved : Move lists s Connective.and.mark next after :=
      readConnective_inv first outside read
    exact moved
  · have moved : Move lists s Connective.or.mark next after :=
      readConnective_inv first outside read
    exact moved
  · -- A minus sign either begins a negative number or is the first half of an arrow.
    split at read
    · cases read
      exact .take first
    · exact readComparator_inv first rfl read
  all_goals first
    | exact readComparator_inv first rfl read
    | (cases read; exact .take first)

theorem read_inv (read : s.read lists c next = .ok after) : Move lists s c next after := by
  unfold Scanner.read at read
  split at read
  · rename_i second
    cases read
    exact .pass second
  · rename_i first
    have first : s.halfway = false := by simpa using first
    split at read
    · -- Inside a list everything but its closing parenthesis is taken as it is.
      rename_i draft
      split at read
      · rename_i ends
        simp only [Bool.and_eq_true, Option.isNone_iff_eq_none, decide_eq_true_eq] at ends
        obtain ⟨unquoted, rfl⟩ := ends
        exact closeList_inv first unquoted draft read
      · cases read
        exact .take first
    · rename_i notList
      have outside : s.draft.isList = false := by
        cases draft : s.draft with
        | list start name opened raw => exact absurd draft (notList start name opened raw)
        | _ => rfl
      split at read
      · cases read
        exact .take first
      · exact readPlain_inv first outside read

theorem close_inv {nodes : List Node} {position : Nat} (closed : close nodes position = .ok ()) :
    ∀ connective, nodes.getLast? ≠ some (.connective connective) := by
  intro connective found
  simp [close, found] at closed

theorem finish_eq (unquoted : s.quoting.opened = none) (outside : s.draft.isList = false) :
    s.finish = (do
      let ended ← s.endClause
      if ended.depth > 0 then fail (.unclosedGroup ended.depth) ended.index
      close ended.nodes ended.index
      return ended.nodes) := by
  cases draft : s.draft with
  | list start name opened raw => simp [draft, Draft.isList] at outside
  | _ => simp only [finish, unquoted, draft]

theorem finish_unquoted {nodes : List Node} (finished : s.finish = .ok nodes) :
    s.quoting.opened = none := by
  cases opened : s.quoting.opened with
  | none => rfl
  | some quote =>
    simp only [finish, opened] at finished
    cases finished

theorem finish_inv {nodes : List Node} (finished : s.finish = .ok nodes) :
    ∃ ended, s.Completes ended ∧ ended.depth = 0 ∧
      (∀ connective, ended.nodes.getLast? ≠ some (.connective connective)) ∧
      nodes = ended.nodes := by
  -- A string or a list that is still open is an error, so neither is.
  have unquoted := finish_unquoted finished
  have outside : s.draft.isList = false := by
    cases draft : s.draft with
    | list start name opened raw =>
      simp only [finish, unquoted, draft] at finished
      cases finished
    | _ => rfl
  rw [finish_eq unquoted outside] at finished
  obtain ⟨ended, completed, finished⟩ := bind_eq_ok finished
  split at finished
  · cases finished
  · rename_i shallow
    obtain ⟨_, closed, done⟩ := bind_eq_ok finished
    cases done
    exact ⟨ended, endClause_inv outside completed, by omega, close_inv closed, rfl⟩

end Reading

theorem step_inv {lists : Bool} {s after : Scanner} {c : Char} {next : Option Char}
    (stepped : s.step lists c next = .ok after) :
    ∃ moved, Move lists s c next moved ∧ after = { moved with
      halfway := !s.halfway && moved.halfway
      quoting := s.quoting.after c
      quoteStart := if s.quoting.opened.isNone && s.quoting.holds c then s.index else s.quoteStart
      index := s.index + 1 } := by
  obtain ⟨moved, read, done⟩ := bind_eq_ok stepped
  cases done
  exact ⟨moved, read_inv read, rfl⟩

/-- What every step keeps, every run keeps. The property may speak of the characters behind the scanner
and of the next one, which is `beyond` at the end. -/
theorem run_keeps {lists : Bool} {beyond : Option Char} {P : Scanner → Text → Option Char → Prop}
    (keeps : ∀ s consumed c next after, P s consumed (some c) →
      s.step lists c next = .ok after → P after (consumed ++ [c]) next)
    {s after : Scanner} {t consumed : Text} (holds : P s consumed (t.head?.or beyond))
    (ran : s.run lists beyond t = .ok after) : P after (consumed ++ t) beyond := by
  induction t generalizing s consumed with
  | nil =>
    cases ran
    simpa using holds
  | cons c rest ih =>
    obtain ⟨middle, stepped, ran⟩ := bind_eq_ok ran
    have kept := keeps s consumed c _ middle holds stepped
    simpa using ih kept ran

end Scanner

end FilterQuery.Filter
