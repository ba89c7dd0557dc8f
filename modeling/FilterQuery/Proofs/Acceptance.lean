import FilterQuery.Filter.Compile
import FilterQuery.Proofs.Division
import FilterQuery.Proofs.Layout
import FilterQuery.Proofs.Spelling

/-!
Every sentence is accepted, however it is laid out. What a scanner does with each lexeme is stated as a
contract between the state before it and the state behind; the contract of a sentence is put together
from them along its tree.
-/

namespace FilterQuery.Filter

open Text (Quoting Quotation isQuote)

def Draft.grow : Draft → Text → Draft
  | idle, _ => idle
  | column start name, t => column start (name ++ t)
  | value start name comparator typed, t => value start name comparator (typed ++ t)
  | list start name opened raw, t => list start name opened (raw ++ t)

theorem Draft.grow_nil (draft : Draft) : draft.grow [] = draft := by
  cases draft <;> simp [grow]

theorem Draft.grow_cons (draft : Draft) (c : Char) (t : Text) :
    draft.grow (c :: t) = (draft.grow [c]).grow t := by
  cases draft <;> simp [grow]

def Draft.Admits (draft : Draft) (c : Char) : Prop :=
  if draft.isList then c ≠ ')' else isWordChar c = true

theorem Draft.admits_grow (draft : Draft) (t : Text) : (draft.grow t).Admits = draft.Admits := by
  cases draft <;> rfl

namespace Scanner

theorem run_append (lists : Bool) (beyond : Option Char) (s : Scanner) (t rest : Text) :
    s.run lists beyond (t ++ rest) =
      s.run lists (rest.head?.or beyond) t >>= fun middle => middle.run lists beyond rest := by
  induction t generalizing s with
  | nil => rfl
  | cons c t ih =>
    have ahead : (t ++ rest).head?.or beyond = t.head?.or (rest.head?.or beyond) := by
      cases t <;> rfl
    simp only [List.cons_append, run, ahead, ih, bind_assoc]

/-- Reading the text before `next` leads from scanners with `P` to scanners with `Q`. -/
def Reads (t : Text) (next : Option Char) (P Q : Scanner → Prop) : Prop :=
  ∀ s, P s → ∃ after, s.run true next t = .ok after ∧ Q after

theorem Reads.append {t rest : Text} {next : Option Char} {P Q R : Scanner → Prop}
    (first : Reads t (rest.head?.or next) P Q) (second : Reads rest next Q R) :
    Reads (t ++ rest) next P R := by
  intro s holds
  obtain ⟨middle, ran, there⟩ := first s holds
  obtain ⟨after, continued, done⟩ := second middle there
  exact ⟨after, by rw [run_append, ran]; exact continued, done⟩

theorem Reads.cons {c : Char} {t : Text} {next : Option Char} {P Q R : Scanner → Prop}
    (first : ∀ s, P s → ∃ middle, s.step true c (t.head?.or next) = .ok middle ∧ Q middle)
    (second : Reads t next Q R) : Reads (c :: t) next P R := by
  intro s holds
  obtain ⟨middle, stepped, there⟩ := first s holds
  obtain ⟨after, continued, done⟩ := second middle there
  exact ⟨after, by rw [run, stepped]; exact continued, done⟩

theorem reads_nil (next : Option Char) (P : Scanner → Prop) : Reads [] next P P :=
  fun s holds => ⟨s, rfl, holds⟩

theorem reads_single {c : Char} {next : Option Char} {P Q : Scanner → Prop}
    (step : ∀ s, P s → ∃ after, s.step true c next = .ok after ∧ Q after) : Reads [c] next P Q :=
  .cons step (reads_nil next Q)

/-- The scanner is between two lexemes, or between two characters of one. -/
structure Stands (nodes : List Node) (depth : Nat) (draft : Draft) (q : Quoting) (s : Scanner) :
    Prop where
  nodes : s.nodes = nodes
  depth : s.depth = depth
  draft : s.draft = draft
  settled : s.halfway = false
  quoting : s.quoting = q

theorem Stands.eq {nodes : List Node} {depth : Nat} {draft : Draft} {q : Quoting} {s : Scanner}
    (stands : Stands nodes depth draft q s) :
    ∃ quoteStart index, s = ⟨nodes, depth, draft, false, q, quoteStart, index⟩ := by
  obtain ⟨rfl, rfl, rfl, settled, rfl⟩ := stands
  exact ⟨s.quoteStart, s.index, by rw [← settled]⟩

theorem step_eq {lists : Bool} {s moved : Scanner} {c : Char} {next : Option Char}
    (read : s.read lists c next = .ok moved) :
    s.step lists c next = .ok { moved with
      halfway := !s.halfway && moved.halfway
      quoting := s.quoting.after c
      quoteStart := if s.quoting.opened.isNone && s.quoting.holds c then s.index else s.quoteStart
      index := s.index + 1 } := by
  rw [step, read]
  rfl

theorem readPlain_word {s : Scanner} {c : Char} (lists : Bool) (next : Option Char)
    (plain : isWordChar c = true) : s.readPlain lists c next = .ok (s.accept c) := by
  unfold readPlain
  split
  all_goals first
    | rfl
    | exact absurd plain (by decide)

theorem read_admitted {s : Scanner} {c : Char} (lists : Bool) (next : Option Char)
    (first : s.halfway = false) (admitted : s.quoting.holds c = true ∨ s.draft.Admits c) :
    s.read lists c next = .ok (s.accept c) := by
  unfold read
  rw [first]
  cases draft : s.draft with
  | list start name opened raw =>
    have inside : (s.quoting.opened.isNone && c = ')') = false := by
      rcases admitted with held | other
      · by_contra ends
        simp only [Bool.and_eq_false_iff, not_or, Bool.not_eq_false, decide_eq_true_eq,
          Option.isNone_iff_eq_none] at ends
        simp [Quoting.holds, ends.1, ends.2, isQuote] at held
      · simp [draft, Draft.Admits, Draft.isList] at other
        simp [other]
    simp [inside]
  | _ =>
    cases held : s.quoting.holds c with
    | true => simp
    | false =>
      have plain : isWordChar c = true := by
        simpa [held, draft, Draft.Admits, Draft.isList] using admitted
      simpa using readPlain_word lists next plain

theorem accept_draft {s : Scanner} (c : Char) (started : s.draft ≠ .idle) :
    (s.accept c).draft = s.draft.grow [c] := by
  unfold accept
  split <;> simp_all [Draft.grow]

theorem reads_grow {nodes : List Node} {depth : Nat} (draft : Draft) {q : Quoting} {t : Text}
    (next : Option Char) (started : draft ≠ .idle) (admitted : q.Outside draft.Admits t) :
    Reads t next (Stands nodes depth draft q) (Stands nodes depth (draft.grow t) (q.afterText t)) := by
  induction t generalizing draft q with
  | nil =>
    rw [Draft.grow_nil]
    exact reads_nil next _
  | cons c t ih =>
    obtain ⟨here, later⟩ := Quoting.outside_cons.1 admitted
    have grown : draft.grow [c] ≠ .idle := by
      cases draft with
      | idle => exact absurd rfl started
      | _ => simp [Draft.grow]
    rw [Draft.grow_cons]
    refine .cons ?_ (ih _ grown (by rwa [Draft.admits_grow]))
    intro s stands
    -- Whether a character is admitted depends on the kind of the draft only, which does not change.
    have read := read_admitted true (t.head?.or next) stands.settled
      (by rwa [stands.quoting, stands.draft])
    refine ⟨_, step_eq read, ?_⟩
    exact {
      nodes := by simpa using stands.nodes
      depth := by simpa using stands.depth
      draft := by
        rw [← stands.draft] at started ⊢
        exact accept_draft c started
      settled := by simp [stands.settled]
      quoting := by rw [stands.quoting] }

/-! The states between lexemes. Indices are only kept for errors, so any will do. -/

variable {nodes : List Node} {depth : Nat} {name : Text} {comparator : Comparator}

def Idle (nodes : List Node) (depth : Nat) : Scanner → Prop := Stands nodes depth .idle {}

def Naming (nodes : List Node) (depth : Nat) (name : Text) (s : Scanner) : Prop :=
  ∃ start, Stands nodes depth (.column start name) {} s

def Typing (nodes : List Node) (depth : Nat) (name : Text) (comparator : Comparator) (typed : Text)
    (s : Scanner) : Prop :=
  ∃ start, Stands nodes depth (.value start name comparator typed) {} s

def Listing (nodes : List Node) (depth : Nat) (name raw : Text) (s : Scanner) : Prop :=
  ∃ start opened, Stands nodes depth (.list start name opened raw) {} s

/-- A term is complete, apart from the push of a clause that nothing has ended yet. -/
inductive Due (nodes : List Node) (depth : Nat) (s : Scanner) : Prop where
  | pushed (idle : Idle nodes depth s)
  | typed {before : List Node} {name : Text} {comparator : Comparator} {typed : Text}
      (typing : Typing before depth name comparator typed s) (awaiting : Awaiting depth before)
      (filled : typed ≠ []) (plain : comparator ≠ .inList)
      (total : nodes = before ++ [.clause ⟨name, comparator, finalizeValue comparator typed⟩])

theorem push_eq {s : Scanner} {node : Node} (index : Nat)
    (free : obstacle s.nodes.getLast? node = none) :
    s.push node index = .ok { s with nodes := s.nodes ++ [node] } := by
  rw [push, push_free index free]
  rfl

theorem Completes.endClause_eq {s ended : Scanner} (completes : s.Completes ended) :
    s.endClause = .ok ended := by
  cases completes with
  | idle draft => rw [endClause, draft]
  | clause draft filled plain free =>
    rw [endClause, draft]
    simp only [List.isEmpty_iff, filled, plain, ↓reduceIte]
    exact push_eq _ free

/-- The scanner stands where a text may end: behind the nodes, once the clause under construction is
complete. -/
structure Rests (nodes : List Node) (depth : Nat) (s : Scanner) : Prop where
  settled : s.halfway = false
  unquoted : s.quoting.opened = none
  outside : s.draft.isList = false
  ended : ∃ ended, s.endClause = .ok ended ∧ ended.nodes = nodes ∧ ended.depth = depth ∧
    ended.draft = .idle

theorem Idle.rests {s : Scanner} (idle : Idle nodes depth s) : s.Rests nodes depth where
  settled := idle.settled
  unquoted := by rw [idle.quoting]
  outside := by
    rw [idle.draft]
    rfl
  ended := ⟨s, (Completes.idle idle.draft).endClause_eq, idle.nodes, idle.depth, idle.draft⟩

theorem Due.rests {s : Scanner} (due : Due nodes depth s) : s.Rests nodes depth := by
  cases due with
  | pushed idle => exact idle.rests
  | @typed before name comparator typed typing awaiting filled plain total =>
    obtain ⟨start, stands⟩ := typing
    have free : obstacle s.nodes.getLast?
        (.clause ⟨name, comparator, finalizeValue comparator typed⟩) = none := by
      rw [stands.nodes]
      exact (awaiting.obstacle_iff _).2 (.inl rfl)
    have completed := (Completes.clause stands.draft filled plain free).endClause_eq
    exact {
      settled := stands.settled
      unquoted := by rw [stands.quoting]
      outside := by
        rw [stands.draft]
        rfl
      ended := ⟨_, completed, by rw [total, ← stands.nodes], stands.depth, rfl⟩ }

theorem read_sign {lists : Bool} {s : Scanner} {c : Char} (next : Option Char)
    (first : s.halfway = false) (unquoted : s.quoting.opened = none)
    (outside : s.draft.isList = false) (sign : isQuote c = false) :
    s.read lists c next = s.readPlain lists c next := by
  unfold read
  rw [first, Quoting.holds, unquoted, sign]
  cases draft : s.draft with
  | list start name opened raw => simp [draft, Draft.isList] at outside
  | _ => rfl

/-- The scanner has read the first character of an operator of two. -/
structure Owing (nodes : List Node) (depth : Nat) (draft : Draft) (s : Scanner) : Prop where
  nodes : s.nodes = nodes
  depth : s.depth = depth
  draft : s.draft = draft
  owing : s.halfway = true
  quoting : s.quoting = {}

theorem Owing.step {s : Scanner} {c : Char} {draft : Draft} (lists : Bool) (next : Option Char)
    (solid : isSolid c = true) (owing : Owing nodes depth draft s) :
    ∃ after, s.step lists c next = .ok after ∧ Stands nodes depth draft {} after := by
  have read : s.read lists c next = .ok s := by rw [read, if_pos owing.owing]
  apply Exists.intro
  constructor
  · exact step_eq read
  · exact {
      nodes := owing.nodes
      depth := owing.depth
      draft := owing.draft
      settled := by simp [owing.owing]
      quoting := by rw [owing.quoting, after_of_isSolid solid] }

theorem reads_second {c : Char} {draft : Draft} (next : Option Char) (solid : isSolid c = true) :
    Reads [c] next (Owing nodes depth draft) (Stands nodes depth draft {}) :=
  reads_single fun _ owing => owing.step true next solid

/-! What may follow a text that may end. -/

theorem Rests.connect {s : Scanner} (lists : Bool) {connective : Connective} (rests : s.Rests nodes depth)
    (free : obstacle nodes.getLast? (.connective connective) = none) :
    ∃ after, s.step lists connective.mark (some connective.mark) = .ok after ∧
      Owing (nodes ++ [.connective connective]) depth .idle after := by
  obtain ⟨ended, completed, rfl, rfl, idle⟩ := rests.ended
  have sign : isQuote connective.mark = false := by cases connective <;> rfl
  have plain : s.readPlain lists connective.mark (some connective.mark) =
      s.readConnective connective (some connective.mark) := by cases connective <;> rfl
  have read : s.read lists connective.mark (some connective.mark) =
      .ok { ended with nodes := ended.nodes ++ [.connective connective], halfway := true } := by
    rw [read_sign _ rests.settled rests.unquoted rests.outside sign, plain, readConnective,
      if_neg (by simp), completed]
    simp only [bind, Except.bind, push_eq ended.index free, pure, Except.pure]
  apply Exists.intro
  constructor
  · exact step_eq read
  · exact {
      nodes := rfl
      depth := rfl
      draft := idle
      owing := by simp [rests.settled]
      quoting := by cases connective <;> simp [Quoting.after, rests.unquoted, isQuote, Connective.mark] }

theorem Rests.close {s : Scanner} (lists : Bool) (next : Option Char)
    (rests : s.Rests nodes (depth + 1)) (free : obstacle nodes.getLast? .closing = none) :
    ∃ after, s.step lists ')' next = .ok after ∧ Idle (nodes ++ [.closing]) depth after := by
  obtain ⟨ended, completed, rfl, deep, idle⟩ := rests.ended
  have completes := endClause_inv rests.outside completed
  have inside : s.depth ≠ 0 := by
    rw [← completes.depth, deep]
    exact Nat.succ_ne_zero depth
  have plain : s.readPlain lists ')' next = s.closeGroup := rfl
  have read : s.read lists ')' next =
      .ok { ended with nodes := ended.nodes ++ [.closing], depth := ended.depth - 1 } := by
    rw [read_sign _ rests.settled rests.unquoted rests.outside rfl, plain, closeGroup,
      if_neg inside, completed]
    simp only [bind, Except.bind, push_eq ended.index free, pure, Except.pure]
  apply Exists.intro
  constructor
  · exact step_eq read
  · exact {
      nodes := rfl
      depth := by simp [deep]
      draft := idle
      settled := by simp [completes.halfway, rests.settled]
      quoting := by simp [Quoting.after, rests.unquoted, isQuote] }

theorem Rests.finish {s : Scanner} (rests : s.Rests nodes 0)
    (closed : ∀ connective, nodes.getLast? ≠ some (.connective connective)) :
    s.finish = .ok nodes := by
  obtain ⟨ended, completed, rfl, top, _⟩ := rests.ended
  have ends : Filter.close ended.nodes ended.index = .ok () := by
    unfold Filter.close
    split
    · rename_i connective last
      exact absurd last (closed connective)
    · rfl
  rw [finish_eq rests.unquoted rests.outside, completed]
  simp only [bind, Except.bind, top, ends, pure, Except.pure]
  rfl

/-! The contract of each lexeme. -/

theorem reads_column (w : Word) (next : Option Char) :
    Reads w.text next (Idle nodes depth) (Naming nodes depth w.text) := by
  obtain ⟨c, tail, begins⟩ := List.exists_cons_of_ne_nil w.filled
  have plain : ∀ found ∈ c :: tail, isWordChar found = true := begins ▸ w.plain
  rw [List.forall_mem_cons] at plain
  have solid := isSolid_of_isWordChar plain.1
  rw [begins]
  have first : ∀ s, Idle nodes depth s →
      ∃ middle, s.step true c (tail.head?.or next) = .ok middle ∧ Naming nodes depth [c] middle := by
    intro s idle
    obtain ⟨quoteStart, index, rfl⟩ := idle.eq
    refine ⟨_, step_eq (read_admitted true _ rfl (.inr plain.1)), index, ?_⟩
    exact ⟨rfl, rfl, rfl, rfl, after_of_isSolid solid⟩
  refine .cons first ?_
  rintro s ⟨start, stands⟩
  obtain ⟨after, ran, grown⟩ :=
    reads_grow (.column start [c]) next nofun (Quoting.outside_of_forall plain.2) s stands
  refine ⟨after, ran, start, ?_⟩
  rwa [afterText_of_isSolid fun found member => isSolid_of_isWordChar (plain.2 found member)]
    at grown

theorem reads_operand (operand : Operand) (next : Option Char) :
    Reads operand.text next (Typing nodes depth name comparator [])
      (Typing nodes depth name comparator operand.text) := by
  -- What follows a sign, or stands alone, is added to the value as it is.
  have more (typed t : Text) (admitted : ({} : Quoting).Outside (fun c => isWordChar c = true) t)
      (closed : ({} : Quoting).afterText t = {}) :
      Reads t next (Typing nodes depth name comparator typed)
        (Typing nodes depth name comparator (typed ++ t)) := by
    rintro s ⟨start, stands⟩
    obtain ⟨after, ran, grown⟩ :=
      reads_grow (.value start name comparator typed) next nofun admitted s stands
    rw [closed] at grown
    exact ⟨after, ran, start, grown⟩
  match operand with
  | .string q => exact more [] q.text (q.outside_text _) q.afterText_text
  | .word w =>
    exact more [] w.text (Quoting.outside_of_forall w.plain) (Operand.afterText_text (.word w))
  | .negative w number =>
    have digits := more ['-'] w.text (Quoting.outside_of_forall w.plain)
      (Operand.afterText_text (.word w))
    refine .cons ?_ digits
    rintro s ⟨start, stands⟩
    obtain ⟨quoteStart, index, rfl⟩ := stands.eq
    obtain ⟨c, tail, begins⟩ := List.exists_cons_of_ne_nil w.filled
    have digit : c.isDigit = true := by simpa [begins] using number
    have read : read true ⟨nodes, depth, .value start name comparator [], false, {}, quoteStart, index⟩
        '-' (w.text.head?.or next) =
        .ok ⟨nodes, depth, .value start name comparator ['-'], false, {}, quoteStart, index⟩ := by
      show (if startsNegative _ _ then _ else _) = _
      rw [if_pos (by simpa [startsNegative, begins] using digit)]
      rfl
    exact ⟨_, step_eq read, start, rfl, rfl, rfl, rfl, rfl⟩

theorem read_mark {s : Scanner} {c : Char} {next : Option Char} {start : Nat}
    (stands : Stands nodes depth (.column start name) {} s) (mark : isComparatorMark c = true)
    (found : comparatorAt true c next s.index = .ok comparator) :
    s.read true c next = .ok { s with
      draft := .value start name comparator []
      halfway := comparator.spelling.length = 2 } := by
  obtain ⟨quoteStart, index, rfl⟩ := stands.eq
  have plain : read true ⟨nodes, depth, .column start name, false, {}, quoteStart, index⟩ c next =
      readComparator true ⟨nodes, depth, .column start name, false, {}, quoteStart, index⟩ c next := by
    simp only [isComparatorMark, Bool.or_eq_true, decide_eq_true_eq] at mark
    rcases mark with ((((rfl | rfl) | rfl) | rfl) | rfl) | rfl <;> rfl
  rw [plain]
  show (comparatorAt true c next index >>= _) = _
  rw [found]
  rfl

theorem isSolid_of_isComparatorMark {c : Char} (mark : isComparatorMark c = true) :
    isSolid c = true := by
  simp only [isComparatorMark, Bool.or_eq_true, decide_eq_true_eq] at mark
  rcases mark with ((((rfl | rfl) | rfl) | rfl) | rfl) | rfl <;> rfl

theorem reads_mark (c : Char) {next : Option Char} (mark : isComparatorMark c = true)
    (written : comparator.spelling = [c])
    (found : ∀ index, comparatorAt true c next index = .ok comparator) :
    Reads comparator.spelling next (Naming nodes depth name)
      (Typing nodes depth name comparator []) := by
  rw [written]
  refine reads_single ?_
  rintro s ⟨start, stands⟩
  refine ⟨_, step_eq (read_mark stands mark (found _)), start, ?_⟩
  exact {
    nodes := stands.nodes
    depth := stands.depth
    draft := rfl
    settled := by simp [written]
    quoting := by rw [stands.quoting, after_of_isSolid (isSolid_of_isComparatorMark mark)] }

theorem reads_marks (c second : Char) (next : Option Char) (mark : isComparatorMark c = true)
    (solid : isSolid second = true) (written : comparator.spelling = [c, second])
    (found : ∀ index, comparatorAt true c (some second) index = .ok comparator) :
    Reads comparator.spelling next (Naming nodes depth name)
      (Typing nodes depth name comparator []) := by
  rw [written]
  rintro s ⟨start, stands⟩
  have first : ∀ s, Stands nodes depth (.column start name) {} s →
      ∃ middle, s.step true c (some second) = .ok middle ∧
        Owing nodes depth (.value start name comparator []) middle := by
    intro s stands
    refine ⟨_, step_eq (read_mark stands mark (found _)), ?_⟩
    exact {
      nodes := stands.nodes
      depth := stands.depth
      draft := rfl
      owing := by simp [stands.settled, written]
      quoting := by rw [stands.quoting, after_of_isSolid (isSolid_of_isComparatorMark mark)] }
  obtain ⟨after, ran, typing⟩ := Reads.cons first (reads_second next solid) s stands
  exact ⟨after, ran, start, typing⟩

theorem reads_comparator (comparator : Comparator) (next : Option Char)
    (bounded : next ≠ some '=') :
    Reads comparator.spelling next (Naming nodes depth name)
      (Typing nodes depth name comparator []) := by
  cases comparator with
  | lt => exact reads_mark '<' rfl rfl fun _ => by simp [comparatorAt, bounded]
  | gt => exact reads_mark '>' rfl rfl fun _ => by simp [comparatorAt, bounded]
  | le => exact reads_marks '<' '=' next rfl rfl rfl fun _ => rfl
  | ge => exact reads_marks '>' '=' next rfl rfl rfl fun _ => rfl
  | eq => exact reads_marks '=' '=' next rfl rfl rfl fun _ => rfl
  | ne => exact reads_marks '!' '=' next rfl rfl rfl fun _ => rfl
  | like => exact reads_marks '%' '%' next rfl rfl rfl fun _ => rfl
  | inList => exact reads_marks '-' '>' next rfl rfl rfl fun _ => rfl

theorem reads_openGroup (awaiting : Awaiting depth nodes) (next : Option Char) :
    Reads ['('] next (Idle nodes depth) (Idle (nodes ++ [.opening]) (depth + 1)) := by
  refine reads_single ?_
  intro s idle
  obtain ⟨quoteStart, index, rfl⟩ := idle.eq
  have free := (awaiting.obstacle_iff .opening).2 (.inr (.inl rfl))
  have read : read true ⟨nodes, depth, .idle, false, {}, quoteStart, index⟩ '(' next =
      .ok ⟨nodes ++ [.opening], depth + 1, .idle, false, {}, quoteStart, index⟩ := by
    show (push _ .opening index >>= _) = _
    rw [push_eq index free]
    rfl
  exact ⟨_, step_eq read, rfl, rfl, rfl, rfl, rfl⟩

theorem reads_openList (next : Option Char) :
    Reads ['('] next (Typing nodes depth name .inList []) (Listing nodes depth name []) := by
  refine reads_single ?_
  rintro s ⟨start, stands⟩
  obtain ⟨quoteStart, index, rfl⟩ := stands.eq
  exact ⟨_, rfl, start, index, rfl, rfl, rfl, rfl, rfl⟩

theorem reads_closeList {raw : Text} (awaiting : Awaiting depth nodes) (filled : raw ≠ [])
    (next : Option Char) :
    Reads [')'] next (Listing nodes depth name raw)
      (Idle (nodes ++ [.clause ⟨name, .inList, raw⟩, .list raw ((splitItems raw).map requote)])
        depth) := by
  refine reads_single ?_
  rintro s ⟨start, opened, stands⟩
  obtain ⟨quoteStart, index, rfl⟩ := stands.eq
  have clauseFree := (awaiting.obstacle_iff (.clause ⟨name, .inList, raw⟩)).2 (.inl rfl)
  have listFree : obstacle (nodes ++ [Node.clause ⟨name, .inList, raw⟩]).getLast?
      (.list raw ((splitItems raw).map requote)) = none := by
    simp [obstacle, Node.kind, Node.awaitsList]
  have read : read true ⟨nodes, depth, .list start name opened raw, false, {}, quoteStart, index⟩
      ')' next = .ok ⟨(nodes ++ [.clause ⟨name, .inList, raw⟩]) ++
        [.list raw ((splitItems raw).map requote)], depth, .idle, false, {}, quoteStart, index⟩ := by
    show closeList _ start name opened raw = _
    unfold closeList
    rw [if_neg (by simpa using filled)]
    show (push _ _ start >>= _) = _
    rw [push_eq start clauseFree]
    exact push_eq opened listFree
  refine ⟨_, step_eq read, ?_, rfl, rfl, rfl, rfl⟩
  simp

theorem isSolid_mark (connective : Connective) : isSolid connective.mark = true := by
  cases connective <;> rfl

theorem reads_connective (connective : Connective) (ended : Ended depth nodes)
    (next : Option Char) :
    Reads [connective.mark, connective.mark] next (Due nodes depth)
      (Idle (nodes ++ [.connective connective]) depth) := by
  apply Reads.cons _ (reads_second next (isSolid_mark connective))
  intro s due
  exact due.rests.connect true ((ended.obstacle_iff _).2 (.inl rfl))

theorem reads_closeGroup (ended : Ended (depth + 1) nodes) (next : Option Char) :
    Reads [')'] next (Due nodes (depth + 1)) (Idle (nodes ++ [.closing]) depth) := by
  apply reads_single
  intro s due
  exact due.rests.close true next ((ended.obstacle_iff _).2 (.inr rfl))

theorem finish_due {s : Scanner} (ended : Ended 0 nodes) (due : Due nodes 0 s) :
    s.finish = .ok nodes :=
  due.rests.finish fun _ => ended.not_connective

end Scanner

/-! The items of a list. -/

theorem Operand.head_text (operand : Operand) : ∃ c tail, operand.text = c :: tail ∧ c ≠ '=' := by
  match operand with
  | .string q =>
    refine ⟨q.quote, _, rfl, ?_⟩
    intro same
    have quote := q.isQuote
    rw [same] at quote
    exact absurd quote (by decide)
  | .negative w _ => exact ⟨'-', w.text, rfl, by decide⟩
  | .word w =>
    obtain ⟨c, tail, begins⟩ := List.exists_cons_of_ne_nil w.filled
    refine ⟨c, tail, begins, ?_⟩
    rintro rfl
    exact absurd (w.plain '=' (by simp [begins])) (by decide)

theorem Operand.outside_closing (operand : Operand) :
    ({} : Quoting).Outside (· ≠ ')') operand.text := by
  have word (w : Word) : ∀ c ∈ w.text, c ≠ ')' := by
    rintro c member rfl
    exact absurd (w.plain ')' member) (by decide)
  match operand with
  | .string q => exact q.outside_text _
  | .word w => exact Quoting.outside_of_forall (word w)
  | .negative w _ =>
    refine Quoting.outside_of_forall ?_
    intro c member
    rcases List.mem_cons.1 member with rfl | member
    · decide
    · exact word w c member

theorem Item.outside_comma (item : Item) :
    ({} : Quoting).Outside (· ≠ ',') item.operand.text := by
  match undivided : item.operand with
  | .string q => exact q.outside_text _
  | .word _ | .negative _ _ =>
    refine Quoting.outside_of_forall ?_
    rintro c member rfl
    rw [← undivided] at member
    exact item.undivided (by rw [undivided]; rfl) member

theorem listText_cons (first : Item) (more : List Item) :
    listText (first :: more) =
      first.operand.text ++ more.flatMap fun item => ',' :: item.operand.text := by
  induction more generalizing first with
  | nil => simp [listText, Text.join]
  | cons next more ih =>
    have inner := ih next
    simp only [listText, List.map_cons] at inner
    simp [listText, Text.join, inner]

theorem afterText_listText (first : Item) (more : List Item) :
    ({} : Quoting).afterText (listText (first :: more)) = {} := by
  induction more generalizing first with
  | nil => exact first.operand.afterText_text
  | cons next more ih =>
    show ({} : Quoting).afterText (first.operand.text ++ [','] ++ listText (next :: more)) = {}
    rw [Quoting.afterText_append, Quoting.afterText_append, first.operand.afterText_text]
    exact ih next

theorem outside_listText (first : Item) (more : List Item) :
    ({} : Quoting).Outside (· ≠ ')') (listText (first :: more)) := by
  induction more generalizing first with
  | nil => exact first.operand.outside_closing
  | cons next more ih =>
    show ({} : Quoting).Outside (· ≠ ')') (first.operand.text ++ [','] ++ listText (next :: more))
    rw [List.append_assoc]
    refine first.operand.outside_closing.append ?_
    rw [first.operand.afterText_text]
    exact Quoting.outside_cons.2 ⟨.inr (by decide), ih next⟩

theorem splitItems_listText (first : Item) (more : List Item) :
    splitItems (listText (first :: more)) = (first :: more).map fun item => item.operand.text := by
  refine splitItems_join (by simp) ?_
  intro piece member
  obtain ⟨item, _, rfl⟩ := List.mem_map.1 member
  exact ⟨by rw [item.operand.afterText_text], item.outside_comma⟩

theorem listText_ne_nil (first : Item) (more : List Item) : listText (first :: more) ≠ [] := by
  obtain ⟨c, tail, begins, _⟩ := first.operand.head_text
  rw [listText_cons, begins]
  exact List.cons_ne_nil _ _

theorem spelled_moreLexemes (more : List Item) :
    spelled (moreLexemes more) = more.flatMap fun item => ',' :: item.operand.text := by
  simp [spelled, moreLexemes, List.flatMap_assoc, Lexeme.text]

/-! A sentence is read along its tree: behind a phrase a term has ended, behind a sentence a chain. -/

namespace Scanner

theorem reads_items {nodes : List Node} {depth : Nat} {name : Text} (first : Item)
    (more : List Item) (next : Option Char) :
    Reads (listText (first :: more)) next (Listing nodes depth name [])
      (Listing nodes depth name (listText (first :: more))) := by
  rintro s ⟨start, opened, stands⟩
  obtain ⟨after, ran, grown⟩ :=
    reads_grow (.list start name opened []) next nofun (outside_listText first more) s stands
  rw [afterText_listText] at grown
  exact ⟨after, ran, start, opened, grown⟩

theorem Reads.due {t : Text} {next : Option Char} {P : Scanner → Prop} {nodes : List Node}
    {depth : Nat} (reads : Reads t next P (Idle nodes depth)) : Reads t next P (Due nodes depth) := by
  intro s holds
  obtain ⟨after, ran, idle⟩ := reads s holds
  exact ⟨after, ran, .pushed idle⟩

theorem reads_compare (column : Word) {comparator : Comparator} (plain : comparator ≠ .inList)
    (operand : Operand) {nodes : List Node} {depth : Nat} (awaiting : Awaiting depth nodes)
    (next : Option Char) :
    Reads (column.text ++ (comparator.spelling ++ operand.text)) next (Idle nodes depth)
      (Due (nodes ++ [.clause ⟨column.text, comparator, finalizeValue comparator operand.text⟩])
        depth) := by
  obtain ⟨c, tail, begins, differs⟩ := operand.head_text
  have bounded : operand.text.head?.or next ≠ some '=' := by simpa [begins] using differs
  have typed : Reads operand.text next (Typing nodes depth column.text comparator []) _ :=
    reads_operand operand next
  have whole := (reads_column column _).append ((reads_comparator comparator _ bounded).append typed)
  intro s idle
  obtain ⟨after, ran, typing⟩ := whole s idle
  exact ⟨after, ran, .typed typing awaiting (by rw [begins]; exact List.cons_ne_nil _ _) plain rfl⟩

theorem reads_member (column : Word) (first : Item) (more : List Item) {nodes : List Node}
    {depth : Nat} (awaiting : Awaiting depth nodes) (next : Option Char) :
    Reads (column.text ++ ("->".toList ++ (['('] ++ (listText (first :: more) ++ [')'])))) next
      (Idle nodes depth) (Due (nodes ++ (Phrase.member column first more).term.nodes) depth) := by
  have closed : Reads [')'] next (Listing nodes depth column.text _) _ :=
    reads_closeList awaiting (listText_ne_nil first more) next
  rw [splitItems_listText, List.map_map] at closed
  have arrow : Reads Comparator.inList.spelling (some '(') (Naming nodes depth column.text) _ :=
    reads_comparator .inList (some '(') (by decide)
  exact ((reads_column column _).append (arrow.append ((reads_openList _).append
    ((reads_items first more _).append closed)))).due

end Scanner

mutual

theorem Phrase.reads (phrase : Phrase) {nodes : List Node} {depth : Nat}
    (awaiting : Awaiting depth nodes) (next : Option Char) :
    Scanner.Reads (spelled phrase.lexemes) next (Scanner.Idle nodes depth)
      (Scanner.Due (nodes ++ phrase.term.nodes) depth) := by
  match phrase with
  | .compare column comparator plain operand =>
    have text : spelled (Phrase.compare column comparator plain operand).lexemes =
        column.text ++ (comparator.spelling ++ operand.text) := by
      show column.text ++ (comparator.spelling ++ (operand.text ++ [])) = _
      rw [List.append_nil]
    rw [text]
    exact Scanner.reads_compare column plain operand awaiting next
  | .member column first more =>
    have text : spelled (Phrase.member column first more).lexemes =
        column.text ++ ("->".toList ++ (['('] ++ (listText (first :: more) ++ [')']))) := by
      rw [listText_cons, ← spelled_moreLexemes]
      simp [Phrase.lexemes, spelled, Lexeme.text, Operand.text, Comparator.spelling]
    rw [text]
    exact Scanner.reads_member column first more awaiting next
  | .group inner =>
    -- The group's own lead is what stands before it, so the inner sentence begins anew.
    obtain ⟨outer, lead, rfl, rfl⟩ := awaiting
    have text : spelled (Phrase.group inner).lexemes =
        ['('] ++ (spelled inner.lexemes ++ [')']) := by
      simp [Phrase.lexemes, spelled, Lexeme.text]
    have opened := Scanner.reads_openGroup ⟨outer, lead, rfl, rfl⟩
      ((spelled inner.lexemes ++ [')']).head?.or next)
    have ended : Ended (outer.length + 1) (enclosing (lead :: outer) ++ inner.chain.nodes) :=
      ⟨lead :: outer, inner.chain, rfl, rfl⟩
    have closed := Scanner.reads_closeGroup ended next
    have whole := opened.append ((inner.reads (lead :: outer) _).append closed)
    rw [text]
    simpa [enclosing, Phrase.term, Term.nodes] using whole.due

theorem Sentence.reads (sentence : Sentence) (outer : List Lead) (next : Option Char) :
    Scanner.Reads (spelled sentence.lexemes) next (Scanner.Idle (enclosing outer) outer.length)
      (Scanner.Due (enclosing outer ++ sentence.chain.nodes) outer.length) := by
  match sentence with
  | .single phrase => exact phrase.reads ⟨outer, .start, rfl, by simp [Lead.nodes]⟩ next
  | .extend front connective last =>
    have text : spelled (Sentence.extend front connective last).lexemes =
        spelled front.lexemes ++ ([connective.mark, connective.mark] ++ spelled last.lexemes) := by
      simp [Sentence.lexemes, spelled, Lexeme.text]
    have ended : Ended outer.length (enclosing outer ++ front.chain.nodes) :=
      ⟨outer, front.chain, rfl, rfl⟩
    have connected := Scanner.reads_connective connective ended
      ((spelled last.lexemes).head?.or next)
    have rest := last.reads (ended.connected connective) next
    rw [text]
    simpa [Sentence.chain, Chain.nodes] using (front.reads outer _).append (connected.append rest)

end

theorem scan_sentence (sentence : Sentence) :
    scan true (spelled sentence.lexemes) = .ok sentence.chain.nodes := by
  obtain ⟨s, ran, due⟩ := sentence.reads [] none {} ⟨rfl, rfl, rfl, rfl, rfl⟩
  have finished := Scanner.finish_due ⟨[], sentence.chain, rfl, rfl⟩ due
  rw [scan, ran]
  exact finished

/-- A sentence is accepted in every layout, and what is read is the sentence: its chains and groups,
each value in the form that its comparator gives it, and each list with its items as strings. -/
theorem parse_layout (sentence : Sentence) (t : Text) (layout : Layout sentence.lexemes t) :
    parse ⟨.strict, true⟩ t = .ok sentence.chain.nodes := by
  have scanned := scan_sentence sentence
  rw [← normalizeStrict_sentence sentence layout] at scanned
  simp only [parse, normalize, Source.scan, scanned]
  rfl

/-- A list behind the word `in`, whose first item holds a comma and an escaped quote, and a negative
number, with blanks at will. -/
theorem parse_layout_list :
    parse ⟨.strict, true⟩ "(a In('\\', y',\tz ) ||b<= -07 )".toList =
      .ok [.opening, .clause ⟨['a'], .inList, "'\\', y',z".toList⟩,
        .list "'\\', y',z".toList ["'\\', y'".toList, "'z'".toList], .connective .or,
        .clause ⟨['b'], .le, "-7".toList⟩, .closing] := by
  let word (c : Char) (plain : isWordChar c = true) : Word :=
    ⟨[c], List.cons_ne_nil _ _, by simpa using plain, by simp [Text.sameIgnoringCase]⟩
  let number : Word := ⟨"07".toList, List.cons_ne_nil _ _, List.all_eq_true.1 rfl, by decide⟩
  have guarded : ∀ before after, "\\', y".toList = before ++ '\'' :: after →
      Text.isEscapedAfter before = true := by
    rintro (_ | ⟨c, _ | ⟨d, rest⟩⟩) after cut
    · simp at cut
    · obtain ⟨rfl, _⟩ := List.cons.inj cut
      rfl
    · have later : ", y".toList = rest ++ '\'' :: after := (List.cons.inj (List.cons.inj cut).2).2
      have member : '\'' ∈ ", y".toList := by simp [later]
      simp at member
  let string : Quotation := ⟨'\'', rfl, "\\', y".toList, guarded, rfl⟩
  let list : Phrase := .member (word 'a' rfl) ⟨.string string, fun bare => by cases bare⟩
    [⟨.word (word 'z' rfl), fun _ => by simp [word, Operand.text]⟩]
  let inner : Sentence :=
    .extend (.single list) .or (.compare (word 'b' rfl) .le (by decide) (.negative number rfl))
  have layout : Layout (Sentence.single (.group inner)).lexemes
      "(a In('\\', y',\tz ) ||b<= -07 )".toList :=
    .next (.next (.wordIn rfl rfl rfl rfl (.next (.next (.next (.blank rfl (.next (.blank rfl (.next
      (.blank rfl (.next (.next (.next (.blank rfl (.next (.blank rfl (.next .stop)))))))))))))))))
  exact parse_layout (.single (.group inner)) _ layout

end FilterQuery.Filter
