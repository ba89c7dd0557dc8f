import FilterQuery.Proofs.Acceptance
import FilterQuery.Proofs.Division

/-!
The lists that a scanner captures. While it reads a list, a scanner keeps track of the strings of the whole
text; the list is then divided by a reader that sees the list alone. The list begins behind a parenthesis
that stands in no string, and nothing before the parenthesis can escape what comes behind it. So the two
stand alike before each character, and as the list is closed outside strings, all of its items are complete.
-/

namespace FilterQuery.Filter

open Text (Quoting isEscapedAfter join)

namespace Scanner

/-- The scanner has read `front` of a list that was opened behind `before`, and a reader of the list alone
stands where the scanner stands. -/
structure Concurs (before front : Text) (s : Scanner) : Prop where
  draft : ∃ start name, s.draft = .list start name before.length front
  quoting : s.quoting = ({} : Quoting).afterText front
  /-- The backslashes before the next character are counted alike in the text and in the list. -/
  escape : isEscapedAfter (before ++ '(' :: front) = isEscapedAfter front
  /-- Whatever follows in the list is divided from where the scanner stands. -/
  division : ∃ done item, splitItems front = done ++ [item] ∧ ∀ back, splitItems (front ++ back) =
    done ++ (splitItemsFrom s.quoting back).modifyHead (item ++ ·)

/-- The two stand alike before each character of the list `raw` and at its end, where `next` follows. -/
def ConcursAlong (lists : Bool) (before raw : Text) (next : Option Char) : Prop :=
  ∀ front back, raw = front ++ back →
    ∃ s, run lists (back.head?.or next) {} (before ++ '(' :: front) = .ok s ∧ s.Concurs before front

structure Captures (s : Scanner) (c : Char) (raw : Text) (items : List Text) : Prop where
  mark : c = ')'
  unquoted : s.quoting.opened = none
  draft : ∃ start name opened, s.draft = .list start name opened raw
  divided : items = (splitItems raw).map requote

section Step

variable {lists : Bool} {s after : Scanner} {c : Char} {next : Option Char}

theorem step_settled (stepped : s.step lists c next = .ok after) (inside : after.draft.isList = true) :
    after.halfway = false := by
  obtain ⟨moved, move, rfl⟩ := step_inv stepped
  cases move with
  | pass second => simp [second]
  | take first | openGroup first | openList first | closeList first => simp [first]
  | compare => cases inside
  | closeGroup _ _ _ completes | connect _ _ _ completes =>
    simp [completes.draft, Draft.isList] at inside

theorem step_inside {start opened : Nat} {name raw : Text}
    (settled : s.draft.isList = true → s.halfway = false)
    (stepped : s.step lists c next = .ok after) (draft : after.draft = .list start name opened raw) :
    (c = '(' ∧ raw = [] ∧ opened = s.index ∧ s.quoting.opened = none) ∨
      ∃ front, raw = front ++ [c] ∧ s.draft = .list start name opened front := by
  obtain ⟨moved, read, done⟩ := bind_eq_ok stepped
  cases done
  cases read_inv read with
  | pass second =>
    have first := settled (by rw [draft]; rfl)
    rw [second] at first
    cases first
  | take first =>
    cases reading : s.draft with
    | list _ _ _ front =>
      simp only [accept, reading, Draft.list.injEq] at draft
      obtain ⟨rfl, rfl, rfl, rfl⟩ := draft
      exact .inr ⟨front, rfl, rfl⟩
    | _ => simp [accept, reading] at draft
  | openGroup first mark idle =>
    rw [idle] at draft
    cases draft
  | openList first mark typing =>
    cases draft
    refine .inl ⟨mark, rfl, rfl, ?_⟩
    -- In a string the parenthesis would be a part of the value.
    by_contra quoted
    have held : s.quoting.holds c = true := by
      simp [Quoting.holds, Option.isSome_iff_ne_none, quoted]
    rw [read_admitted lists next first (.inl held)] at read
    have same := congrArg Scanner.draft (Except.ok.inj read)
    simp [accept, typing] at same
  | compare => cases draft
  | closeList => cases draft
  | closeGroup _ _ _ completes | connect _ _ _ completes =>
    rw [completes.draft] at draft
    cases draft

theorem Completes.nodes {ended : Scanner} (completes : s.Completes ended) :
    ∃ added, ended.nodes = s.nodes ++ added ∧ ∀ raw items, .list raw items ∉ added := by
  cases completes with
  | idle => exact ⟨[], by simp, by simp⟩
  | clause => exact ⟨_, rfl, by simp⟩

theorem step_nodes (stepped : s.step lists c next = .ok after) :
    ∃ added, after.nodes = s.nodes ++ added ∧ ∀ inner raw items later,
      added = inner ++ .list raw items :: later → later = [] ∧ s.Captures c raw items := by
  have listless {added : List Node} (none : ∀ raw items, .list raw items ∉ added) :
      ∀ inner raw items later, added = inner ++ .list raw items :: later →
        later = [] ∧ s.Captures c raw items := by
    rintro inner raw items later rfl
    exact absurd (by simp) (none raw items)
  obtain ⟨moved, move, rfl⟩ := step_inv stepped
  cases move with
  | pass | take | openList | compare => exact ⟨[], by simp, listless (by simp)⟩
  | openGroup => exact ⟨[.opening], rfl, listless (by simp)⟩
  | closeGroup _ _ _ completes =>
    obtain ⟨added, grown, none⟩ := completes.nodes
    exact ⟨added ++ [.closing], by simp [grown], listless (by simpa using none)⟩
  | @connect _ connective _ _ _ completes =>
    obtain ⟨added, grown, none⟩ := completes.nodes
    exact ⟨added ++ [.connective connective], by simp [grown], listless (by simpa using none)⟩
  | closeList first mark unquoted draft =>
    refine ⟨_, rfl, ?_⟩
    intro inner raw items later added
    rcases inner with _ | ⟨_, _ | ⟨_, inner⟩⟩
    · simp at added
    · simp only [List.cons_append, List.nil_append, List.cons.injEq, Node.list.injEq] at added
      obtain ⟨_, ⟨rfl, rfl⟩, rfl⟩ := added
      exact ⟨rfl, mark, unquoted, ⟨_, _, _, draft⟩, rfl⟩
    · simp at added

end Step

section Run

variable {lists : Bool} {s after : Scanner} {c : Char} {next : Option Char} {t before raw : Text}

theorem run_snoc : s.run lists next (t ++ [c]) = .ok after ↔
    ∃ middle, s.run lists (some c) t = .ok middle ∧ middle.step lists c next = .ok after := by
  rw [run_append]
  constructor
  · intro ran
    obtain ⟨middle, before, last⟩ := bind_eq_ok ran
    obtain ⟨_, stepped, done⟩ := bind_eq_ok last
    cases done
    exact ⟨middle, before, stepped⟩
  · rintro ⟨middle, before, stepped⟩
    have last : middle.run lists next [c] = .ok after := by
      rw [run, List.head?_nil, Option.none_or, stepped]
      rfl
    rw [List.head?_cons, Option.some_or, before]
    exact last

theorem run_position (ran : s.run lists next t = .ok after) :
    after.index = s.index + t.length ∧ after.quoting = s.quoting.afterText t := by
  induction t generalizing s with
  | nil =>
    cases ran
    exact ⟨rfl, rfl⟩
  | cons c t ih =>
    obtain ⟨middle, stepped, ran⟩ := bind_eq_ok ran
    obtain ⟨moved, _, rfl⟩ := step_inv stepped
    obtain ⟨index, quoting⟩ := ih ran
    refine ⟨?_, quoting⟩
    simp only [index, List.length_cons]
    omega

theorem run_settled (ran : run lists next {} t = .ok s) (inside : s.draft.isList = true) :
    s.halfway = false := by
  rcases List.eq_nil_or_concat' t with rfl | ⟨front, c, rfl⟩
  · cases ran
    rfl
  · obtain ⟨_, _, stepped⟩ := run_snoc.1 ran
    exact step_settled stepped inside

theorem concurs_of_run {start : Nat} {name : Text}
    (outside : (({} : Quoting).afterText before).opened = none)
    (ran : run lists next {} (before ++ '(' :: raw) = .ok s)
    (draft : s.draft = .list start name before.length raw) : s.Concurs before raw := by
  have anew : ({} : Quoting).afterText (before ++ '(' :: raw) = ({} : Quoting).afterText raw :=
    calc ({} : Quoting).afterText (before ++ '(' :: raw)
      _ = ((({} : Quoting).afterText before).after '(').afterText raw := Quoting.afterText_append ..
      _ = ({} : Quoting).afterText raw := by rw [Quoting.after_plain outside rfl (by decide)]
  have quoting : s.quoting = ({} : Quoting).afterText raw := by rw [(run_position ran).2, anew]
  constructor
  case draft => exact ⟨start, name, draft⟩
  case quoting => exact quoting
  case escape => rw [← Quoting.escaped_afterText, anew, Quoting.escaped_afterText]
  case division =>
    rw [quoting]
    exact splitItemsFrom_append {} raw

theorem ConcursAlong.snoc (along : ConcursAlong lists before raw (some c))
    (ran : run lists next {} (before ++ '(' :: (raw ++ [c])) = .ok s)
    (concurs : s.Concurs before (raw ++ [c])) : ConcursAlong lists before (raw ++ [c]) next := by
  intro front back cut
  rcases List.eq_nil_or_concat' back with rfl | ⟨inner, last, rfl⟩
  · rw [List.append_nil] at cut
    rw [← cut]
    exact ⟨s, ran, concurs⟩
  · rw [← List.append_assoc] at cut
    obtain ⟨rfl, same⟩ := List.append_inj' cut rfl
    cases same
    rw [List.head?_append, Option.or_assoc]
    exact along front inner rfl

/-- By induction on the text: a scanner inside a list has just opened it, or was inside it one character
before. -/
theorem run_inside {start opened : Nat} {name : Text} (ran : run lists next {} t = .ok s)
    (draft : s.draft = .list start name opened raw) :
    ∃ before, t = before ++ '(' :: raw ∧ before.length = opened ∧
      (({} : Quoting).afterText before).opened = none ∧ ConcursAlong lists before raw next := by
  induction t using List.reverseRecOn generalizing next s raw with
  | nil =>
    cases ran
    cases draft
  | append_singleton t c ih =>
    obtain ⟨middle, ranBefore, stepped⟩ := run_snoc.1 ran
    rcases step_inside (run_settled ranBefore) stepped draft with
      ⟨rfl, rfl, rfl, unquoted⟩ | ⟨front, rfl, inside⟩
    · -- The list has just been opened, and nothing of it has been read.
      obtain ⟨index, quoting⟩ := run_position ranBefore
      have same : t.length = middle.index := by simp [index]
      rw [quoting] at unquoted
      refine ⟨t, rfl, same, unquoted, ?_⟩
      intro front back cut
      obtain ⟨rfl, rfl⟩ := List.append_eq_nil_iff.1 cut.symm
      exact ⟨s, ran, concurs_of_run unquoted ran (by rw [draft, same])⟩
    · obtain ⟨before, rfl, rfl, outside, along⟩ := ih ranBefore inside
      have whole : before ++ '(' :: front ++ [c] = before ++ '(' :: (front ++ [c]) := by simp
      rw [whole] at ran
      exact ⟨before, whole, rfl, outside, along.snoc ran (concurs_of_run outside ran draft)⟩

theorem run_captured {former later : List Node} {items : List Text} (ran : run lists next {} t = .ok s)
    (listed : s.nodes = former ++ .list raw items :: later) :
    ∃ front rest reading closed, t = front ++ ')' :: rest ∧
      run lists (some ')') {} front = .ok reading ∧ reading.Captures ')' raw items ∧
      reading.step lists ')' (rest.head?.or next) = .ok closed ∧
      closed.nodes = former ++ [.list raw items] := by
  induction t using List.reverseRecOn generalizing next s later with
  | nil =>
    cases ran
    simp at listed
  | append_singleton t c ih =>
    obtain ⟨middle, ranBefore, stepped⟩ := run_snoc.1 ran
    obtain ⟨added, grown, captures⟩ := step_nodes stepped
    rw [grown] at listed
    rcases append_eq_append_cons listed with ⟨inner, earlier, _⟩ | ⟨inner, _, here⟩
    · obtain ⟨front, rest, reading, closed, rfl, found⟩ := ih ranBefore earlier
      refine ⟨front, rest ++ [c], reading, closed, by simp, ?_⟩
      rw [List.head?_append, Option.or_assoc]
      exact found
    · obtain ⟨rfl, captured⟩ := captures inner raw items later here
      obtain rfl := captured.mark
      exact ⟨t, [], middle, s, rfl, ranBefore, captured, stepped, by rw [grown, listed]⟩

end Run

end Scanner

/-- The items of a list, joined with commas, are the list, and pieces that end outside strings and hold no
comma there are the items of what they are joined to. Where a scanner is inside a list, it and the division
of the list stand alike before each character; the list may end there exactly if all its items are such
pieces. Each list among the nodes is the text between two parentheses, taken in this way. -/
theorem splitItems_inverts_join :
    (∀ raw, join [','] (splitItems raw) = raw) ∧
    (∀ pieces, pieces ≠ [] → (∀ piece ∈ pieces, IsPiece piece) →
      splitItems (join [','] pieces) = pieces) ∧
    (∀ lists next t s start name opened raw, Scanner.run lists next {} t = .ok s →
      s.draft = .list start name opened raw →
      ∃ before, t = before ++ '(' :: raw ∧ before.length = opened ∧
        Scanner.ConcursAlong lists before raw next ∧
        (s.quoting.opened = none ↔ ∀ piece ∈ splitItems raw, IsPiece piece)) ∧
    ∀ lists next t s former raw items later, Scanner.run lists next {} t = .ok s →
      s.nodes = former ++ .list raw items :: later →
      ∃ before after closed, t = before ++ '(' :: (raw ++ ')' :: after) ∧
        Scanner.run lists (after.head?.or next) {} (before ++ '(' :: (raw ++ [')'])) = .ok closed ∧
        closed.nodes = former ++ [.list raw items] ∧
        Scanner.ConcursAlong lists before raw (some ')') ∧
        items = (splitItems raw).map requote ∧ ∀ piece ∈ splitItems raw, IsPiece piece := by
  refine ⟨join_splitItems, fun pieces => splitItems_join, ?_, ?_⟩
  · intro lists next t s start name opened raw ran draft
    obtain ⟨before, rfl, rfl, outside, along⟩ := Scanner.run_inside ran draft
    refine ⟨before, rfl, rfl, along, ?_⟩
    rw [(Scanner.concurs_of_run outside ran draft).quoting, isPiece_splitItems_iff]
  · intro lists next t s former raw items later ran listed
    obtain ⟨front, after, reading, closed, rfl, ranBefore, captured, stepped, nodes⟩ :=
      Scanner.run_captured ran listed
    obtain ⟨start, name, opened, draft⟩ := captured.draft
    obtain ⟨before, rfl, rfl, outside, along⟩ := Scanner.run_inside ranBefore draft
    have quoting := (Scanner.concurs_of_run outside ranBefore draft).quoting
    refine ⟨before, after, closed, by simp, ?_, nodes, along, captured.divided, ?_⟩
    · have whole : before ++ '(' :: (raw ++ [')']) = (before ++ '(' :: raw) ++ [')'] := by simp
      rw [whole]
      exact Scanner.run_snoc.2 ⟨reading, ranBefore, stepped⟩
    · rw [isPiece_splitItems_iff, ← quoting]
      exact captured.unquoted

/-- A piece that ends with a backslash, an escaped quote, a comma and a parenthesis in strings, one kind of
quote in the other, and an empty piece. In the middle of the second piece the list cannot end. -/
theorem splitItems_inverts_join_mixed :
    (∀ piece ∈ ["x\\", "'a,\\')'", "", "\"it's\""].map String.toList, IsPiece piece) ∧
    splitItems "x\\,'a,\\')',,\"it's\"".toList =
      ["x\\", "'a,\\')'", "", "\"it's\""].map String.toList ∧
    (¬ ∀ piece ∈ splitItems "x\\,'a,\\')".toList, IsPiece piece) ∧
    ∃ s, Scanner.run true none {} "n->(x\\,'a,\\')',,\"it's\")||m==1".toList = .ok s ∧
      (∃ items, .list "x\\,'a,\\')',,\"it's\"".toList items ∈ s.nodes) ∧
      ∃ before, Scanner.ConcursAlong true before "x\\,'a,\\')',,\"it's\"".toList (some ')') := by
  obtain ⟨_, joined, inside, captured⟩ := splitItems_inverts_join
  have each : ∀ piece ∈ ["x\\", "'a,\\')'", "", "\"it's\""].map String.toList, IsPiece piece := by
    decide
  refine ⟨each, joined _ (by simp) each, ?_, ?_⟩
  · obtain ⟨_, _, _, _, ends⟩ := inside true (some '\'') "n->(x\\,'a,\\')".toList _ _ _ _ _ rfl rfl
    exact fun pieces => absurd (ends.2 pieces) (by decide)
  · obtain ⟨before, _, _, _, _, _, along, _⟩ :=
      captured true none "n->(x\\,'a,\\')',,\"it's\")||m==1".toList _ [_] _ _ [_] rfl rfl
    exact ⟨_, rfl, ⟨_, .tail _ (.head _)⟩, before, along⟩

end FilterQuery.Filter
