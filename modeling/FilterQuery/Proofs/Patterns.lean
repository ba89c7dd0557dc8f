import FilterQuery.Proofs.Letters
import FilterQuery.Sql.Like

/-!
What a `LIKE` pattern matches, token by token, and that the search finds a match wherever there is one. It
goes back to the last run only. That is enough: up to the next run the tokens take one character each, so a
later try of theirs ends later in the text, and the next run could have taken the difference.
-/

namespace FilterQuery.Sql.Like

/-- The tokens that a pattern is made of. A backslash takes the next character literally, and itself at the
end. -/
inductive Spells : Text → List Token → Prop where
  | nil : Spells [] []
  | anyRun {rest : Text} {ts : List Token} (more : Spells rest ts) :
      Spells ('%' :: rest) (.anyRun :: ts)
  | anyOne {rest : Text} {ts : List Token} (more : Spells rest ts) :
      Spells ('_' :: rest) (.anyOne :: ts)
  | escaped {rest : Text} {ts : List Token} (c : Char) (more : Spells rest ts) :
      Spells ('\\' :: c :: rest) (.exactly c :: ts)
  | trailing : Spells ['\\'] [.exactly '\\']
  | plain {rest : Text} {ts : List Token} {c : Char} (free : c ∉ ['%', '_', '\\'])
      (more : Spells rest ts) : Spells (c :: rest) (.exactly c :: ts)

/-- The text matches the tokens: a run takes any text, also none, and every other token one character. -/
inductive Matches : List Token → Text → Prop where
  | nil : Matches [] []
  | anyRun {pattern : List Token} {rest : Text} (skipped : Text) (more : Matches pattern rest) :
      Matches (.anyRun :: pattern) (skipped ++ rest)
  | anyOne {pattern : List Token} {rest : Text} (d : Char) (more : Matches pattern rest) :
      Matches (.anyOne :: pattern) (d :: rest)
  | exactly {pattern : List Token} {rest : Text} (d : Char) (more : Matches pattern rest) :
      Matches (.exactly d :: pattern) (d :: rest)

theorem spells_tokens (pattern : Text) : Spells pattern (tokens pattern) := by
  fun_induction tokens pattern with
  | case1 => exact .nil
  | case2 rest ih => exact .anyRun ih
  | case3 rest ih => exact .anyOne ih
  | case4 => exact .trailing
  | case5 c rest ih => exact .escaped c ih
  | case6 c rest run one last escaped ih =>
    refine .plain ?_ ih
    simp only [List.mem_cons, List.not_mem_nil, or_false, not_or]
    refine ⟨run, one, ?_⟩
    cases rest with
    | nil => exact fun same => last same rfl
    | cons d rest => exact fun same => escaped d rest same rfl

theorem Spells.unique {pattern : Text} {ts : List Token} (spells : Spells pattern ts) :
    ts = tokens pattern := by
  induction spells with
  | nil => rfl
  | anyRun more ih => rw [ih, tokens]
  | anyOne more ih => rw [ih, tokens]
  | escaped c more ih => rw [ih, tokens]
  | trailing => rw [tokens]
  | plain free more ih =>
    simp only [List.mem_cons, List.not_mem_nil, or_false, not_or] at free
    rw [ih, tokens] <;> grind

section Matches

variable {pattern : List Token} {t : Text} {token : Token} {d : Char}

theorem matches_nil : Matches [] t ↔ t = [] := by
  constructor
  · rintro ⟨⟩
    rfl
  · rintro rfl
    exact .nil

theorem matches_anyRun : Matches (.anyRun :: pattern) t ↔
    ∃ n, n ≤ t.length ∧ Matches pattern (t.drop n) := by
  constructor
  · rintro (_ | ⟨skipped, more⟩)
    exact ⟨skipped.length, by simp, by simpa using more⟩
  · rintro ⟨n, _, more⟩
    rw [← List.take_append_drop n t]
    exact .anyRun _ more

theorem matches_taken (taken : token.takes d = true) :
    Matches (token :: pattern) (d :: t) ↔ Matches pattern t := by
  cases token with
  | anyRun => cases taken
  | anyOne =>
    constructor
    · rintro (_ | _ | ⟨_, more⟩)
      exact more
    · exact .anyOne d
  | exactly c =>
    obtain rfl : c = d := by simpa [Token.takes] using taken
    constructor
    · rintro (_ | _ | _ | ⟨_, more⟩)
      exact more
    · exact .exactly c

theorem not_matches_refused (different : token ≠ .anyRun) (refused : token.takes d = false) :
    ¬ Matches (token :: pattern) (d :: t) := by
  intro matched
  generalize whole : d :: t = text at matched
  cases matched with
  | anyRun => exact different rfl
  | anyOne => cases refused
  | exactly c more =>
    cases whole
    simp [Token.takes] at refused

theorem matches_empty : Matches pattern [] ↔ pattern.all (· = .anyRun) = true := by
  induction pattern with
  | nil => simpa using Matches.nil
  | cons token pattern ih =>
    cases token with
    | anyRun => simp [matches_anyRun, ih]
    | anyOne => exact iff_of_false nofun (by simp)
    | exactly c => exact iff_of_false nofun (by simp)

end Matches

/-! Matches from given places on. -/

section Places

variable (pattern : List Token) (text : Text)

/-- The rest of the text matches the rest of the pattern. -/
def MatchesFrom (p t : Nat) : Prop := Matches (pattern.drop p) (text.drop t)

variable {pattern text} {p t : Nat} {token : Token} {d : Char}

theorem drop_of_getElem? {α : Type} {xs : List α} {x : α} {n : Nat} (found : xs[n]? = some x) :
    xs.drop n = x :: xs.drop (n + 1) := by
  obtain ⟨inside, rfl⟩ := List.getElem?_eq_some_iff.1 found
  exact List.drop_eq_getElem_cons inside

theorem matchesFrom_anyRun (found : pattern[p]? = some .anyRun) (inside : t ≤ text.length) :
    MatchesFrom pattern text p t ↔
      ∃ s, t ≤ s ∧ s ≤ text.length ∧ MatchesFrom pattern text (p + 1) s := by
  simp only [MatchesFrom, drop_of_getElem? found, matches_anyRun, List.drop_drop, List.length_drop]
  constructor
  · rintro ⟨n, within, more⟩
    exact ⟨t + n, by omega, by omega, more⟩
  · rintro ⟨s, later, within, more⟩
    refine ⟨s - t, by omega, ?_⟩
    rwa [Nat.add_sub_cancel' later]

theorem matchesFrom_taken (found : pattern[p]? = some token) (here : text[t]? = some d)
    (taken : token.takes d = true) :
    MatchesFrom pattern text p t ↔ MatchesFrom pattern text (p + 1) (t + 1) := by
  rw [MatchesFrom, drop_of_getElem? found, drop_of_getElem? here, matches_taken taken]
  rfl

theorem not_matchesFrom_mismatch {c : Cursor} (here : text[c.text]? = some d)
    (mismatch : c.Mismatch pattern d) : ¬ MatchesFrom pattern text c.pattern c.text := by
  rw [MatchesFrom, drop_of_getElem? here]
  cases found : pattern[c.pattern]? with
  | none =>
    rw [List.drop_eq_nil_of_le (List.getElem?_eq_none_iff.1 found), matches_nil]
    exact List.cons_ne_nil _ _
  | some token =>
    rw [drop_of_getElem? found]
    exact not_matches_refused (mismatch token found).1 (mismatch token found).2

theorem MatchesFrom.behind {n : Nat} (matched : MatchesFrom pattern text p t)
    (inside : t ≤ text.length) (within : p + n ≤ pattern.length)
    (free : ∀ i, p ≤ i → i < p + n → pattern[i]? ≠ some .anyRun) :
    t + n ≤ text.length ∧ MatchesFrom pattern text (p + n) (t + n) := by
  induction n with
  | zero => exact ⟨inside, matched⟩
  | succ n ih =>
    obtain ⟨reached, matched⟩ := ih (by omega) fun i above below => free i above (by omega)
    obtain ⟨token, found⟩ : ∃ token, pattern[p + n]? = some token :=
      ⟨_, List.getElem?_eq_getElem (by omega)⟩
    have different : token ≠ .anyRun := by
      rintro rfl
      exact free (p + n) (by omega) (by omega) found
    cases here : text[t + n]? with
    | none =>
      rw [MatchesFrom, drop_of_getElem? found,
        List.drop_eq_nil_of_le (List.getElem?_eq_none_iff.1 here), matches_empty] at matched
      simp [different] at matched
    | some d =>
      by_cases taken : token.takes d = true
      · exact ⟨(List.getElem?_eq_some_iff.1 here).1, (matchesFrom_taken found here taken).1 matched⟩
      · rw [MatchesFrom, drop_of_getElem? found, drop_of_getElem? here] at matched
        exact absurd matched (not_matches_refused different (by simpa using taken))

end Places

/-! The search, step by step. -/

namespace Cursor

variable {pattern : List Token} {text : Text} {d : Char} {c next : Cursor}

/-- The places are inside pattern and text. Since the last run each token has taken one character. -/
structure Sound (pattern : List Token) (text : Text) (c : Cursor) : Prop where
  pattern_le : c.pattern ≤ pattern.length
  text_le : c.text ≤ text.length
  inStep : ∀ r ∈ c.restart, c.pattern - r.pattern = c.text - r.text
  free : ∀ r ∈ c.restart, ∀ i, r.pattern ≤ i → i < c.pattern → pattern[i]? ≠ some .anyRun

theorem sound_start (pattern : List Token) (text : Text) : Sound pattern text start where
  pattern_le := Nat.zero_le _
  text_le := Nat.zero_le _
  inStep := nofun
  free := nofun

theorem Sound.step (sound : Sound pattern text c) (here : text[c.text]? = some d)
    (moved : c.step pattern d = some next) : Sound pattern text next := by
  have inside := (List.getElem?_eq_some_iff.1 here).1
  rcases step_eq_some moved with ⟨found, rfl⟩ | ⟨token, found, taken, rfl⟩ | ⟨_, r, going, rfl⟩
  · have within := (List.getElem?_eq_some_iff.1 found).1
    refine ⟨within, sound.text_le, by simp [enterRun], ?_⟩
    rintro r ⟨⟩ i above below
    exact absurd above (Nat.not_le_of_gt below)
  · have within := (List.getElem?_eq_some_iff.1 found).1
    refine ⟨within, inside, ?_, ?_⟩
    · intro r going
      have passed := c.passed r going
      have inStep := sound.inStep r going
      simp only [advance]
      omega
    · intro r going i above below
      rcases Nat.lt_succ_iff_lt_or_eq.1 below with before | rfl
      · exact sound.free r going i above before
      · rw [found]
        rintro ⟨⟩
        cases taken
  · have passed := c.passed r going
    refine ⟨?_, ?_, by simp [Restart.retry], ?_⟩
    · exact Nat.le_trans passed.1 sound.pattern_le
    · exact Nat.lt_of_le_of_lt passed.2 inside
    · rintro _ ⟨⟩ i above below
      exact absurd above (Nat.not_le_of_gt below)

/-- What the search still has to look for: a match from here, or one with the last run taking more than it
has tried. -/
def Accepts (pattern : List Token) (text : Text) (c : Cursor) : Prop :=
  MatchesFrom pattern text c.pattern c.text ∨
    ∃ r ∈ c.restart, ∃ s, r.text < s ∧ s ≤ text.length ∧ MatchesFrom pattern text r.pattern s

theorem Sound.later {r : Restart} {s : Nat} (sound : Sound pattern text c) (going : r ∈ c.restart)
    (inside : s ≤ text.length) (matched : MatchesFrom pattern text r.pattern s) :
    s + (c.text - r.text) ≤ text.length ∧
      MatchesFrom pattern text c.pattern (s + (c.text - r.text)) := by
  have passed := c.passed r going
  have reached : r.pattern + (c.text - r.text) = c.pattern := by
    have := sound.inStep r going
    omega
  have behind := matched.behind (n := c.text - r.text) inside (reached ▸ sound.pattern_le)
    (reached.symm ▸ sound.free r going)
  rwa [reached] at behind

theorem Sound.accepts_enterRun (sound : Sound pattern text c)
    (found : pattern[c.pattern]? = some .anyRun) :
    c.enterRun.Accepts pattern text ↔ c.Accepts pattern text := by
  have run := matchesFrom_anyRun found sound.text_le
  constructor
  · rintro (here | ⟨_, ⟨⟩, s, later, within, more⟩)
    · exact .inl (run.2 ⟨c.text, Nat.le_refl _, sound.text_le, here⟩)
    · exact .inl (run.2 ⟨s, Nat.le_of_lt later, within, more⟩)
  · intro accepts
    -- An earlier run that takes more leaves to this one a later place, which it can reach itself.
    have matched : MatchesFrom pattern text c.pattern c.text := by
      rcases accepts with here | ⟨r, going, s, later, within, more⟩
      · exact here
      · have passed := c.passed r going
        obtain ⟨reached, more⟩ := sound.later going within more
        obtain ⟨s', later', within', more⟩ := (matchesFrom_anyRun found reached).1 more
        exact run.2 ⟨s', by omega, within', more⟩
    obtain ⟨s, later, within, more⟩ := run.1 matched
    rcases Nat.eq_or_lt_of_le later with rfl | later
    · exact .inl more
    · exact .inr ⟨_, rfl, s, later, within, more⟩

theorem accepts_advance {token : Token} (found : pattern[c.pattern]? = some token)
    (here : text[c.text]? = some d) (taken : token.takes d = true) :
    c.advance.Accepts pattern text ↔ c.Accepts pattern text :=
  or_congr_left (matchesFrom_taken found here taken).symm

theorem accepts_retry {r : Restart} (going : c.restart = some r) (here : text[c.text]? = some d)
    (mismatch : c.Mismatch pattern d) :
    r.retry.Accepts pattern text ↔ c.Accepts pattern text := by
  have passed := c.passed r going
  have inside := (List.getElem?_eq_some_iff.1 here).1
  constructor
  · rintro (now | ⟨_, ⟨⟩, s, later, within, more⟩)
    · exact .inr ⟨r, going, r.text + 1, Nat.lt_succ_self _, by omega, now⟩
    · exact .inr ⟨r, going, s, Nat.lt_of_succ_lt later, within, more⟩
  · rintro (now | ⟨r', going', s, later, within, more⟩)
    · exact absurd now (not_matchesFrom_mismatch here mismatch)
    · obtain rfl := Option.some.inj (going.symm.trans going')
      rcases Nat.eq_or_lt_of_le (Nat.succ_le_of_lt later) with rfl | later
      · exact .inl more
      · exact .inr ⟨_, rfl, s, later, within, more⟩

/-- A step loses no match and makes none up. -/
theorem Sound.accepts_step (sound : Sound pattern text c) (here : text[c.text]? = some d)
    (moved : c.step pattern d = some next) :
    next.Accepts pattern text ↔ c.Accepts pattern text := by
  rcases step_eq_some moved with
    ⟨found, rfl⟩ | ⟨token, found, taken, rfl⟩ | ⟨mismatch, r, going, rfl⟩
  · exact sound.accepts_enterRun found
  · exact accepts_advance found here taken
  · exact accepts_retry going here mismatch

theorem not_accepts_of_stuck (here : text[c.text]? = some d) (stuck : c.step pattern d = none) :
    ¬ c.Accepts pattern text := by
  obtain ⟨mismatch, none⟩ := step_eq_none stuck
  rintro (now | ⟨r, going, _⟩)
  · exact not_matchesFrom_mismatch here mismatch now
  · cases none.symm.trans going

theorem Sound.accepts_end (sound : Sound pattern text c) (ended : text[c.text]? = none) :
    c.Accepts pattern text ↔ (pattern.drop c.pattern).all (· = .anyRun) = true := by
  have past := List.getElem?_eq_none_iff.1 ended
  have here : MatchesFrom pattern text c.pattern c.text ↔
      (pattern.drop c.pattern).all (· = .anyRun) = true := by
    rw [MatchesFrom, List.drop_eq_nil_of_le past, matches_empty]
  rw [← here]
  constructor
  · rintro (now | ⟨r, going, s, later, within, more⟩)
    · exact now
    · have passed := c.passed r going
      have reached := (sound.later going within more).1
      omega
  · exact .inl

end Cursor

section Run

variable {pattern : List Token} {text : Text} {c last : Cursor} {n : Nat}

/-- So many steps of the search lead from one cursor to another. -/
inductive Turns (pattern : List Token) (text : Text) : Nat → Cursor → Cursor → Prop where
  | none (c : Cursor) : Turns pattern text 0 c c
  | step {n : Nat} {c next last : Cursor} {d : Char} (here : text[c.text]? = some d)
      (moved : c.step pattern d = some next) (more : Turns pattern text n next last) :
      Turns pattern text (n + 1) c last

def Cursor.Halts (pattern : List Token) (text : Text) (c : Cursor) : Prop :=
  ∀ d, text[c.text]? = some d → c.step pattern d = none

theorem Turns.sound (turns : Turns pattern text n c last) (sound : c.Sound pattern text) :
    last.Sound pattern text := by
  induction turns with
  | none => exact sound
  | step here moved _ ih => exact ih (sound.step here moved)

theorem Turns.left_le (turns : Turns pattern text n c last) :
    n + last.left pattern text ≤ c.left pattern text := by
  induction turns with
  | none => omega
  | step here moved _ ih =>
    have := Cursor.left_step here moved
    omega

theorem exists_halts (pattern : List Token) (text : Text) (c : Cursor) :
    ∃ n last, Turns pattern text n c last ∧ last.Halts pattern text ∧
      (run pattern text c = true ↔
        text.length ≤ last.text ∧ (pattern.drop last.pattern).all (· = .anyRun) = true) := by
  fun_induction run pattern text c with
  | case1 c ended =>
    have past := List.getElem?_eq_none_iff.1 ended
    exact ⟨0, c, .none c, by simp [Cursor.Halts, ended], by simp [past]⟩
  | case2 c d here next moved ih =>
    obtain ⟨n, last, turns, halts, answer⟩ := ih
    exact ⟨n + 1, last, .step here moved turns, halts, answer⟩
  | case3 c d here stuck =>
    have inside := (List.getElem?_eq_some_iff.1 here).1
    exact ⟨0, c, .none c, by simpa [Cursor.Halts, here] using stuck,
      by simp [Nat.not_le_of_gt inside]⟩

theorem run_eq_true_iff (sound : c.Sound pattern text) :
    run pattern text c = true ↔ c.Accepts pattern text := by
  fun_induction run pattern text c with
  | case1 c ended => exact (sound.accepts_end ended).symm
  | case2 c d here next moved ih =>
    rw [ih (sound.step here moved)]
    exact sound.accepts_step here moved
  | case3 c d here stuck =>
    simpa using Cursor.not_accepts_of_stuck here stuck

theorem run_start_iff (pattern : List Token) (text : Text) :
    run pattern text .start = true ↔ Matches pattern text := by
  rw [run_eq_true_iff (Cursor.sound_start pattern text), Cursor.Accepts]
  simp [MatchesFrom, Cursor.start]

end Run

/-! A word between two runs. -/

theorem tokens_append_of_free {w : Text} (free : ∀ c ∈ w, c ∉ ['%', '_', '\\']) (t : Text) :
    tokens (w ++ t) = w.map .exactly ++ tokens t := by
  induction w with
  | nil => rfl
  | cons c w ih =>
    obtain ⟨here, rest⟩ := List.forall_mem_cons.1 free
    rw [List.cons_append, ← (Spells.plain here (spells_tokens (w ++ t))).unique, ih rest]
    rfl

theorem matches_literal {pattern : List Token} {w t : Text} :
    Matches (w.map .exactly ++ pattern) t ↔ ∃ rest, t = w ++ rest ∧ Matches pattern rest := by
  induction w generalizing t with
  | nil => simp
  | cons c w ih =>
    constructor
    · rintro (_ | _ | _ | ⟨_, more⟩)
      obtain ⟨rest, rfl, matched⟩ := ih.1 more
      exact ⟨rest, rfl, matched⟩
    · rintro ⟨rest, rfl, matched⟩
      exact .exactly c (ih.2 ⟨rest, rfl, matched⟩)

theorem matches_between_runs {w t : Text} :
    Matches (.anyRun :: (w.map .exactly ++ [.anyRun])) t ↔ w <:+: t := by
  constructor
  · rintro (_ | ⟨before, more⟩)
    obtain ⟨after, rfl, _⟩ := matches_literal.1 more
    exact ⟨before, after, List.append_assoc _ _ _⟩
  · rintro ⟨before, after, rfl⟩
    rw [List.append_assoc]
    refine .anyRun before (matches_literal.2 ⟨after, rfl, ?_⟩)
    simpa using Matches.anyRun after .nil

end FilterQuery.Sql.Like

/-! Lower case moves no wildcard and makes none. -/

namespace FilterQuery.Text

theorem small_capitalRuns : ∀ run ∈ capitalRuns, 97 ≤ run.small := by decide +kernel

theorem lowerChar_cases (c : Char) :
    lowerChar c = c ∨ (lowerChar c).toNat = 0 ∨ 97 ≤ (lowerChar c).toNat := by
  unfold lowerChar
  split
  · rcases toLower_cases c with kept | ⟨above, _, raised⟩
    · exact .inl kept
    · exact .inr (.inr (by omega))
  · split
    next run found =>
      have small := small_capitalRuns run (List.mem_of_find?_eq_some found)
      by_cases valid : (run.small + (c.toNat - run.first)).isValidChar
      · rw [Char.ofNat, dif_pos valid]
        refine .inr (.inr ?_)
        show 97 ≤ run.small + (c.toNat - run.first)
        omega
      · rw [Char.ofNat, dif_neg valid]
        exact .inr (.inl rfl)
    next => exact .inl rfl

theorem free_lowerAt {c : Char} (free : c ∉ ['%', '_', '\\']) (before after : Text) :
    ∀ d ∈ lowerAt before c after, d ∉ ['%', '_', '\\'] := by
  unfold lowerAt
  split
  · split <;> simp
  · split
    · simp
    · simp only [List.mem_singleton, forall_eq]
      rcases lowerChar_cases c with kept | zero | high
      · rwa [kept]
      · intro wild
        have : lowerChar c = '\x00' := Char.toNat_inj.1 zero
        rw [this] at wild
        exact absurd wild (by decide)
      · simp only [List.mem_cons, List.not_mem_nil, or_false]
        rintro (wild | wild | wild) <;> rw [wild] at high <;> exact absurd high (by decide)

theorem free_lowerFrom {w : Text} (free : ∀ c ∈ w, c ∉ ['%', '_', '\\']) (before : Text) :
    ∀ d ∈ lowerFrom before w, d ∉ ['%', '_', '\\'] := by
  induction w generalizing before with
  | nil => simp [lowerFrom]
  | cons c w ih =>
    obtain ⟨here, rest⟩ := List.forall_mem_cons.1 free
    intro d member
    rcases List.mem_append.1 member with first | later
    · exact free_lowerAt here before w d first
    · exact ih rest (c :: before) d later

theorem free_lower {w : Text} (free : ∀ c ∈ w, c ∉ ['%', '_', '\\']) :
    ∀ d ∈ lower w, d ∉ ['%', '_', '\\'] :=
  free_lowerFrom free []

theorem touchesCased_snoc (outward : Text) : touchesCased (outward ++ ['%']) = touchesCased outward := by
  unfold touchesCased
  induction outward with
  | nil => decide +kernel
  | cons c outward ih =>
    by_cases mark : caseIgnorableRanges.has c = true
    · simpa [mark] using ih
    · simp [mark]

theorem lowerFrom_snoc (before w : Text) :
    lowerFrom (before ++ ['%']) (w ++ ['%']) = lowerFrom before w ++ ['%'] := by
  induction w generalizing before with
  | nil => rfl
  | cons c w ih =>
    have here : lowerAt (before ++ ['%']) c (w ++ ['%']) = lowerAt before c w := by
      simp only [lowerAt, touchesCased_snoc]
    rw [List.cons_append, lowerFrom, here, ← List.cons_append, ih, lowerFrom, List.append_assoc]

theorem lower_between (w : Text) : lower ('%' :: (w ++ ['%'])) = '%' :: (lower w ++ ['%']) :=
  congrArg ('%' :: ·) (lowerFrom_snoc [] w)

end FilterQuery.Text

namespace FilterQuery.Sql

open Like

/-- The search ends after a bounded number of steps, never leaves the pattern or the text, and succeeds if
and only if the text matches the tokens of the pattern, both in lower case. A word between two runs is found
if and only if it stands somewhere in the text. -/
theorem likeMatch_correct (text pattern : Text) :
    let ts := tokens (Text.lower pattern)
    let t := Text.lower text
    (∃ n last, Turns ts t n .start last ∧ last.Halts ts t ∧
      (likeMatch text pattern = true ↔
        t.length ≤ last.text ∧ (ts.drop last.pattern).all (· = .anyRun) = true)) ∧
    (∀ n c, Turns ts t n .start c → n ≤ t.length * (ts.length + 1) + ts.length ∧
      c.pattern ≤ ts.length ∧ c.text ≤ t.length) ∧
    (∀ others, Spells (Text.lower pattern) others ↔ others = ts) ∧
    (likeMatch text pattern = true ↔ Matches ts t) ∧
    ∀ w, (∀ c ∈ w, c ∉ ['%', '_', '\\']) → pattern = '%' :: (w ++ ['%']) →
      (likeMatch text pattern = true ↔ Text.lower w <:+: t) := by
  intro ts t
  have found : likeMatch text pattern = true ↔ Matches ts t := run_start_iff ts t
  refine ⟨exists_halts ts t .start, ?_, ?_, found, ?_⟩
  · intro n c turns
    have sound := turns.sound (Cursor.sound_start ts t)
    have bound := turns.left_le
    refine ⟨?_, sound.pattern_le, sound.text_le⟩
    simp only [Cursor.left, Cursor.tried, Cursor.start, Option.map_none, Option.getD_none,
      Nat.sub_zero] at bound
    omega
  · intro others
    constructor
    · exact Spells.unique
    · rintro rfl
      exact spells_tokens _
  · rintro w free rfl
    have between : ts = .anyRun :: ((Text.lower w).map .exactly ++ [.anyRun]) := by
      show tokens (Text.lower ('%' :: (w ++ ['%']))) = _
      rw [Text.lower_between, tokens, tokens_append_of_free (Text.free_lower free)]
      rfl
    rw [found, between]
    exact matches_between_runs

/-- The word is looked for without regard to case, and a `%` in the text is a character like others. -/
theorem likeMatch_correct_word :
    (∀ c ∈ "sCREW".toList, c ∉ ['%', '_', '\\']) ∧
      likeMatch "50% Wood Screws".toList "%sCREW%".toList = true := by
  have free : ∀ c ∈ "sCREW".toList, c ∉ ['%', '_', '\\'] := by simp
  have word := (likeMatch_correct "50% Wood Screws".toList "%sCREW%".toList).2.2.2.2
    "sCREW".toList free rfl
  exact ⟨free, word.2 ⟨"50% wood ".toList, "s".toList, by decide⟩⟩

end FilterQuery.Sql
