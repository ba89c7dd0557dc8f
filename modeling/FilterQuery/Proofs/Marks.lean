import FilterQuery.Proofs.Layout

/-!
What the strict mode takes for a string, and what the scanner takes for one. The strict mode reads the
typed text; the scanner reads what is left of it, with the same rule. A blank that is taken out behind a
backslash puts the backslash in front of another character, and if that is a quote, the two disagree.
-/

namespace FilterQuery.Filter

open Text (Quoting isBlank isEscapedAfter isQuote isQuote_of_isAlpha isAlpha_of_toLower
  isBlank_of_isAlpha)

def readerAt (t : Text) (index : Nat) : Quoting := ({} : Quoting).afterText (t.take index)

def inString (t : Text) (index : Nat) : Bool := (t[index]?).any (readerAt t index).holds

theorem escaped_readerAt (t : Text) (index : Nat) :
    (readerAt t index).escaped = isEscapedAfter (t.take index) :=
  Quoting.escaped_afterText _

section Reading

variable {t : Text} {index : Nat} {c : Char}

theorem readerAt_succ (found : t[index]? = some c) :
    readerAt t (index + 1) = (readerAt t index).after c := by
  rw [readerAt, List.take_add_one, found, Quoting.afterText_append]
  rfl

theorem inString_eq (found : t[index]? = some c) : inString t index = (readerAt t index).holds c := by
  rw [inString, found]
  rfl

theorem drop_eq_cons {rest : Text} (remaining : t.drop index = c :: rest) :
    t[index]? = some c ∧ t.drop (index + 1) = rest := by
  constructor
  · rw [← List.head?_drop, remaining]
    rfl
  · rw [← List.tail_drop, remaining]
    rfl

end Reading

/-- What the strict mode can do with the typed text from an index on. A character of a string is kept;
outside, blanks are dropped, a letter may be rewritten to a part of an arrow, and all else is kept. -/
inductive Keeps (t : Text) : Nat → List (Char × Nat) → Prop where
  | done {index : Nat} (ended : t.length ≤ index) : Keeps t index []
  | keep {index : Nat} {c : Char} {kept : List (Char × Nat)} (found : t[index]? = some c)
      (solid : (readerAt t index).holds c = true ∨ isBlank c = false)
      (rest : Keeps t (index + 1) kept) : Keeps t index ((c, index) :: kept)
  | drop {index : Nat} {c : Char} {kept : List (Char × Nat)} (found : t[index]? = some c)
      (free : (readerAt t index).holds c = false) (blank : isBlank c = true)
      (rest : Keeps t (index + 1) kept) : Keeps t index kept
  | rewrite {index : Nat} {c sign : Char} {kept : List (Char × Nat)} (found : t[index]? = some c)
      (free : (readerAt t index).holds c = false) (letter : c.isAlpha = true)
      (arrow : sign = '-' ∨ sign = '>') (rest : Keeps t (index + 1) kept) :
      Keeps t index ((sign, index) :: kept)

theorem opened_eq_none {q : Quoting} {c : Char} (free : q.holds c = false) : q.opened = none := by
  simp only [Quoting.holds, Bool.or_eq_false_iff] at free
  simpa using free.1

theorem holds_after_isAlpha {q : Quoting} {c n : Char} (free : q.holds c = false)
    (letter : c.isAlpha = true) (next : n.isAlpha = true) : (q.after c).holds n = false := by
  have outside : q.opened = none := opened_eq_none free
  simp [Quoting.holds, Quoting.after, outside, isQuote_of_isAlpha letter, isQuote_of_isAlpha next]

theorem keeps_strictFrom {lists : Bool} {index : Nat} {q : Quoting} {before : Option Char}
    {t rest : Text} (remaining : t.drop index = rest) (state : readerAt t index = q) :
    Keeps t index (strictFrom lists index q before rest) := by
  fun_induction strictFrom lists index q before rest with
  | case1 => exact .done (List.drop_eq_nil_iff.1 remaining)
  | case2 index q before c dropped =>
    obtain ⟨found, remaining⟩ := drop_eq_cons remaining
    simp only [Bool.and_eq_true, Bool.not_eq_true'] at dropped
    exact .drop found (by rw [state, dropped.1]) dropped.2 (.done (List.drop_eq_nil_iff.1 remaining))
  | case3 index q before c stays =>
    obtain ⟨found, remaining⟩ := drop_eq_cons remaining
    refine .keep found ?_ (.done (List.drop_eq_nil_iff.1 remaining))
    simpa [state, Classical.or_iff_not_imp_left] using stays
  | case4 index q before c n rest held ih =>
    obtain ⟨found, remaining⟩ := drop_eq_cons remaining
    exact .keep found (.inl (by rw [state, held])) (ih remaining (by rw [readerAt_succ found, state]))
  | case5 index q before c n rest free blank ih =>
    obtain ⟨found, remaining⟩ := drop_eq_cons remaining
    exact .drop found (by simpa [state] using free) blank
      (ih remaining (by rw [readerAt_succ found, state]))
  | case6 index q before c n rest free solid starts ih =>
    obtain ⟨found, remaining⟩ := drop_eq_cons remaining
    obtain ⟨next, remaining⟩ := drop_eq_cons remaining
    obtain ⟨_, first, _, _, _, same, second, _⟩ := startsIn_inv (Bool.and_eq_true_iff.1 starts).2
    cases same
    have letter : c.isAlpha = true := isAlpha_of_toLower (by rw [first]; rfl)
    have letter' : n.isAlpha = true := isAlpha_of_toLower (by rw [second]; rfl)
    have outside : q.holds c = false := by simpa using free
    have after : readerAt t (index + 1) = q.after c := by rw [readerAt_succ found, state]
    refine .rewrite found (by rw [state, outside]) letter (.inl rfl) ?_
    refine .rewrite next ?_ letter' (.inr rfl) ?_
    · rw [after, holds_after_isAlpha outside letter letter']
    · exact ih remaining (by rw [readerAt_succ next, after])
  | case7 index q before c n rest free solid ordinary ih =>
    obtain ⟨found, remaining⟩ := drop_eq_cons remaining
    exact .keep found (.inr (by simpa using solid)) (ih remaining (by rw [readerAt_succ found, state]))

theorem isQuote_of_arrow {sign : Char} (arrow : sign = '-' ∨ sign = '>') : isQuote sign = false := by
  rcases arrow with rfl | rfl <;> rfl

/-- The reader `p` of what is kept and the reader `q` of the typed text are in the same string, and
inside a string they have read the same. -/
structure Coupled (p q : Quoting) : Prop where
  opened : p.opened = q.opened
  escaped : q.opened.isSome = true → p.escaped = q.escaped

namespace Coupled

variable {p q : Quoting} {c sign : Char}

theorem holds_iff (coupled : Coupled p q) :
    q.holds c = p.holds c ↔ (isQuote c = true → p.escaped = q.escaped) := by
  obtain ⟨opened, escaped⟩ := coupled
  rcases inside : q.opened with _ | quote
  · by_cases isQuote : Text.isQuote c = true
    · simp [Quoting.holds, opened, inside, isQuote, eq_comm]
    · simp [Quoting.holds, opened, inside, isQuote]
  · simp [Quoting.holds, opened, inside, escaped (by simp [inside])]

theorem keep (coupled : Coupled p q) (agree : isQuote c = true → p.escaped = q.escaped) :
    Coupled (p.after c) (q.after c) := by
  obtain ⟨opened, escaped⟩ := coupled
  rcases inside : q.opened with _ | quote
  · by_cases isQuote : Text.isQuote c = true
    · have plain : c ≠ '\\' := by
        rintro rfl
        cases isQuote
      constructor <;> simp [Quoting.after, opened, inside, agree isQuote, plain]
    · constructor <;> simp [Quoting.after, opened, inside, isQuote]
  · have same : p = q := by
      cases p
      cases q
      simp_all
    rw [same]
    exact ⟨rfl, fun _ => rfl⟩

theorem drop (coupled : Coupled p q) (free : q.holds c = false) (blank : isBlank c = true) :
    Coupled p (q.after c) := by
  have outside := opened_eq_none free
  have stays : (q.after c).opened = none := by
    simp [Quoting.after, outside, isQuote_of_isBlank blank]
  exact ⟨by rw [stays, coupled.opened, outside], by simp [stays]⟩

theorem rewrite (coupled : Coupled p q) (free : q.holds c = false) (letter : c.isAlpha = true)
    (arrow : sign = '-' ∨ sign = '>') : Coupled (p.after sign) (q.after c) := by
  have outside := opened_eq_none free
  have stays : (q.after c).opened = none := by
    simp [Quoting.after, outside, isQuote_of_isAlpha letter]
  refine ⟨?_, by simp [stays]⟩
  rw [stays]
  simp [Quoting.after, coupled.opened, outside, isQuote_of_arrow arrow]

theorem holds_arrow (coupled : Coupled p q) (free : q.holds c = false)
    (arrow : sign = '-' ∨ sign = '>') : p.holds sign = false := by
  simp [Quoting.holds, coupled.opened, opened_eq_none free, isQuote_of_arrow arrow]

end Coupled

/-- The relation holds at each kept character, between a reader of what is kept, the character and its
typed position. -/
def Along (related : Quoting → Char → Nat → Prop) (p : Quoting) (kept : List (Char × Nat)) : Prop :=
  ∀ k c index, kept[k]? = some (c, index) → related (p.afterText ((kept.map Prod.fst).take k)) c index

section Along

variable {related : Quoting → Char → Nat → Prop} {p : Quoting} {c : Char} {index : Nat}
  {kept : List (Char × Nat)}

theorem along_nil : Along related p [] := by
  simp [Along]

theorem along_cons :
    Along related p ((c, index) :: kept) ↔ related p c index ∧ Along related (p.after c) kept := by
  constructor
  · intro along
    exact ⟨along 0 c index rfl, fun k => along (k + 1)⟩
  · rintro ⟨here, later⟩ k
    cases k with
    | zero =>
      rintro _ _ ⟨⟩
      exact here
    | succ k => exact later k

end Along

def SameMark (t : Text) (p : Quoting) (c : Char) (index : Nat) : Prop := inString t index = p.holds c

def SameEscape (t : Text) (p : Quoting) (c : Char) (index : Nat) : Prop :=
  isQuote c = true → p.escaped = (readerAt t index).escaped

section Run

variable {t : Text} {index : Nat} {kept : List (Char × Nat)} {p : Quoting}

theorem along_sameMark_iff (keeps : Keeps t index kept) (coupled : Coupled p (readerAt t index)) :
    Along (SameMark t) p kept ↔ Along (SameEscape t) p kept := by
  induction keeps generalizing p with
  | done => exact iff_of_true along_nil along_nil
  | keep found _ _ ih =>
    rw [along_cons, along_cons, SameMark, inString_eq found, coupled.holds_iff]
    refine and_congr_right fun agree => ih ?_
    rw [readerAt_succ found]
    exact coupled.keep agree
  | drop found free blank _ ih =>
    refine ih ?_
    rw [readerAt_succ found]
    exact coupled.drop free blank
  | @rewrite index c sign _ found free letter arrow _ ih =>
    have here : SameMark t p sign index := by
      rw [SameMark, inString_eq found, free, coupled.holds_arrow free arrow]
    have also : SameEscape t p sign index := by
      intro isQuote
      simp [isQuote_of_arrow arrow] at isQuote
    rw [along_cons, along_cons, and_iff_right here, and_iff_right also]
    refine ih ?_
    rw [readerAt_succ found]
    exact coupled.rewrite free letter arrow

/-- A blank outside strings is dropped, and it may not be escaped. -/
def NoEscapedBlank (t : Text) : Prop :=
  ∀ index c, t[index]? = some c → isBlank c = true → isEscapedAfter (t.take index) = true →
    inString t index = true

theorem along_sameEscape (harmless : NoEscapedBlank t) (keeps : Keeps t index kept)
    (same : p = readerAt t index) : Along (SameEscape t) p kept := by
  subst same
  induction keeps with
  | done => exact along_nil
  | keep found _ _ ih =>
    rw [readerAt_succ found] at ih
    exact along_cons.2 ⟨fun _ => rfl, ih⟩
  | @drop index c _ found free blank _ ih =>
    have unescaped : (readerAt t index).escaped = false := by
      by_contra escaped
      have held := harmless index c found blank (by simpa [escaped_readerAt] using escaped)
      rw [inString_eq found, free] at held
      cases held
    have state : readerAt t index = {} := by
      have outside := opened_eq_none free
      rcases reader : readerAt t index with ⟨opened, escaped⟩
      simp_all
    rw [readerAt_succ found, Quoting.after_plain (opened_eq_none free) (isQuote_of_isBlank blank)
      (ne_backslash_of_isBlank blank), ← state] at ih
    exact ih
  | @rewrite index c sign _ found free letter arrow _ ih =>
    have plain : sign ≠ '\\' := by rcases arrow with rfl | rfl <;> decide
    have plain' : c ≠ '\\' := by
      rintro rfl
      cases letter
    have outside := opened_eq_none free
    refine along_cons.2 ⟨fun _ => rfl, ?_⟩
    rw [Quoting.after_plain outside (isQuote_of_arrow arrow) plain]
    rwa [readerAt_succ found, Quoting.after_plain outside (isQuote_of_isAlpha letter) plain'] at ih

theorem le_of_mem_kept (keeps : Keeps t index kept) {i : Nat} (member : i ∈ kept.map Prod.snd) :
    index ≤ i := by
  induction keeps with
  | done => cases member
  | drop _ _ _ _ ih => exact Nat.le_of_succ_le (ih member)
  | keep _ _ _ ih | rewrite _ _ _ _ _ ih =>
    rcases List.mem_cons.1 member with rfl | member
    · exact Nat.le_refl _
    · exact Nat.le_of_succ_le (ih member)

theorem mem_kept_iff (keeps : Keeps t index kept) {i : Nat} {c : Char} (behind : index ≤ i)
    (found : t[i]? = some c) :
    i ∈ kept.map Prod.snd ↔ inString t i = true ∨ isBlank c = false := by
  induction keeps with
  | done ended =>
    rw [List.getElem?_eq_none (by omega)] at found
    cases found
  | keep here solid _ ih =>
    rw [List.map_cons, List.mem_cons]
    rcases Nat.eq_or_lt_of_le behind with rfl | later
    · rw [found] at here
      cases here
      rw [inString_eq found]
      exact iff_of_true (.inl rfl) solid
    · rw [ih later, or_iff_right (Nat.ne_of_gt later)]
  | drop here free blank rest ih =>
    rcases Nat.eq_or_lt_of_le behind with rfl | later
    · rw [found] at here
      cases here
      rw [inString_eq found, free, blank]
      refine iff_of_false (fun member => ?_) (by simp)
      exact absurd (le_of_mem_kept rest member) (by omega)
    · exact ih later
  | rewrite here _ letter _ _ ih =>
    rw [List.map_cons, List.mem_cons]
    rcases Nat.eq_or_lt_of_le behind with rfl | later
    · rw [found] at here
      cases here
      exact iff_of_true (.inl rfl) (.inr (isBlank_of_isAlpha letter))
    · rw [ih later, or_iff_right (Nat.ne_of_gt later)]

end Run

/-- Each character that the strict mode keeps belongs to a string of the typed text exactly if it belongs
to one in what is kept. -/
def StringsAgree (lists : Bool) (t : Text) : Prop :=
  ∀ k index, (normalizeStrict lists t).offsets[k]? = some index →
    inString t index = inString (normalizeStrict lists t).chars k

/-- Each quote that the strict mode keeps is escaped in what is kept exactly if it was escaped in the
typed text. -/
def QuotesAgree (lists : Bool) (t : Text) : Prop :=
  ∀ k index c, (normalizeStrict lists t).offsets[k]? = some index →
    (normalizeStrict lists t).chars[k]? = some c → isQuote c = true →
      isEscapedAfter ((normalizeStrict lists t).chars.take k) = isEscapedAfter (t.take index)

section Strict

variable {lists : Bool} {t : Text}

theorem keeps_normalizeStrict : Keeps t 0 (strictFrom lists 0 {} none t) :=
  keeps_strictFrom rfl rfl

theorem getElem?_strictFrom {k index : Nat} {c : Char} :
    (strictFrom lists 0 {} none t)[k]? = some (c, index) ↔
      (normalizeStrict lists t).offsets[k]? = some index ∧
        (normalizeStrict lists t).chars[k]? = some c := by
  simp only [normalizeStrict, List.getElem?_map]
  rcases (strictFrom lists 0 {} none t)[k]? with _ | ⟨d, i⟩ <;> simp [and_comm]

theorem exists_char {k index : Nat} (found : (normalizeStrict lists t).offsets[k]? = some index) :
    ∃ c, (normalizeStrict lists t).chars[k]? = some c := by
  simp only [normalizeStrict, List.getElem?_map, Option.map_eq_some_iff] at found ⊢
  obtain ⟨⟨c, i⟩, here, _⟩ := found
  exact ⟨c, _, here, rfl⟩

theorem stringsAgree_iff :
    StringsAgree lists t ↔ Along (SameMark t) {} (strictFrom lists 0 {} none t) := by
  constructor
  · intro agree k c index here
    obtain ⟨typed, found⟩ := getElem?_strictFrom.1 here
    exact (agree k index typed).trans (inString_eq found)
  · intro along k index typed
    obtain ⟨c, found⟩ := exists_char typed
    exact (along k c index (getElem?_strictFrom.2 ⟨typed, found⟩)).trans (inString_eq found).symm

theorem quotesAgree_iff :
    QuotesAgree lists t ↔ Along (SameEscape t) {} (strictFrom lists 0 {} none t) := by
  have escape (k index : Nat) (c : Char) : SameEscape t (readerAt (normalizeStrict lists t).chars k) c index ↔
      (isQuote c = true →
        isEscapedAfter ((normalizeStrict lists t).chars.take k) = isEscapedAfter (t.take index)) := by
    rw [SameEscape, escaped_readerAt, escaped_readerAt]
  constructor
  · intro agree k c index here
    obtain ⟨typed, found⟩ := getElem?_strictFrom.1 here
    exact (escape k index c).2 (agree k index c typed found)
  · intro along k index c typed found
    exact (escape k index c).1 (along k c index (getElem?_strictFrom.2 ⟨typed, found⟩))

end Strict

/-- The strict mode drops the blanks outside strings and nothing else. The scanner then finds the same
strings in what is kept exactly if every kept quote is escaped as it was typed, and this is so if no
blank outside strings is escaped. -/
theorem strictStrings_agree_iff (lists : Bool) (t : Text) :
    (∀ index c, t[index]? = some c →
      (index ∈ (normalizeStrict lists t).offsets ↔ inString t index = true ∨ isBlank c = false)) ∧
    (StringsAgree lists t ↔ QuotesAgree lists t) ∧
    (NoEscapedBlank t → StringsAgree lists t) := by
  have start : Coupled {} (readerAt t 0) := ⟨rfl, fun _ => rfl⟩
  refine ⟨fun index c found => mem_kept_iff keeps_normalizeStrict (Nat.zero_le _) found, ?_, ?_⟩
  · rw [stringsAgree_iff, quotesAgree_iff, along_sameMark_iff keeps_normalizeStrict start]
  · intro harmless
    rw [stringsAgree_iff, along_sameMark_iff keeps_normalizeStrict start]
    exact along_sameEscape harmless keeps_normalizeStrict rfl

/-- Without the blank, the backslash stands before the quote: the strict mode takes `'x'` for a string and
the scanner takes its first quote for an ordinary character. -/
theorem strictStrings_disagree : ¬ StringsAgree true "a == \\ 'x'".toList := by
  intro agree
  exact absurd (agree 4 7 (by decide)) (by decide)

end FilterQuery.Filter
