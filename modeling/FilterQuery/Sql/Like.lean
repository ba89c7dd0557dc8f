import FilterQuery.Text.LowerCase

/-!
`LIKE` patterns: `%` stands for any text, `_` for any one character, and a backslash takes the next
character literally. Both sides are compared in lower case.

Text and pattern are gone through side by side. A `%` takes nothing at first; a mismatch goes back to the
last one, which then takes one character more. Those before it are never gone back to.
-/

namespace FilterQuery.Sql.Like

inductive Token where
  | anyRun
  | anyOne
  | exactly (c : Char)
deriving DecidableEq, Repr

def tokens : Text → List Token
  | [] => []
  | '%' :: rest => .anyRun :: tokens rest
  | '_' :: rest => .anyOne :: tokens rest
  | ['\\'] => [.exactly '\\']
  | '\\' :: c :: rest => .exactly c :: tokens rest
  | c :: rest => .exactly c :: tokens rest

def Token.takes : Token → Char → Bool
  | anyRun, _ => false
  | anyOne, _ => true
  | exactly c, d => c = d

/-- Where a mismatch goes back to: the place in the pattern behind its last run, and the place in the
text where the rest of the pattern was last tried. -/
structure Restart where
  pattern : Nat
  text : Nat

structure Cursor where
  pattern : Nat
  text : Nat
  restart : Option Restart
  passed : ∀ r ∈ restart, r.pattern ≤ pattern ∧ r.text ≤ text

namespace Cursor

def start : Cursor where
  pattern := 0
  text := 0
  restart := none
  passed := nofun

def enterRun (c : Cursor) : Cursor where
  pattern := c.pattern + 1
  text := c.text
  restart := some ⟨c.pattern + 1, c.text⟩
  passed := by
    rintro _ ⟨⟩
    exact ⟨Nat.le_refl _, Nat.le_refl _⟩

def advance (c : Cursor) : Cursor where
  pattern := c.pattern + 1
  text := c.text + 1
  restart := c.restart
  passed r member := by
    have := c.passed r member
    omega

end Cursor

def Restart.retry (r : Restart) : Cursor where
  pattern := r.pattern
  text := r.text + 1
  restart := some { r with text := r.text + 1 }
  passed := by
    rintro _ ⟨⟩
    exact ⟨Nat.le_refl _, Nat.le_refl _⟩

namespace Cursor

/-- The next places, where the text goes on with `d`. A mismatch with no run before it has none. -/
def step (pattern : List Token) (d : Char) (c : Cursor) : Option Cursor :=
  match pattern[c.pattern]? with
  | some .anyRun => some c.enterRun
  | some token => if token.takes d then some c.advance else c.restart.map Restart.retry
  | none => c.restart.map Restart.retry

def Mismatch (pattern : List Token) (d : Char) (c : Cursor) : Prop :=
  ∀ token, pattern[c.pattern]? = some token → token ≠ .anyRun ∧ token.takes d = false

variable {pattern : List Token} {text : Text} {d : Char} {c next : Cursor}

theorem step_cases (pattern : List Token) (d : Char) (c : Cursor) :
    (pattern[c.pattern]? = some .anyRun ∧ c.step pattern d = some c.enterRun) ∨
    (∃ token, pattern[c.pattern]? = some token ∧ token.takes d = true ∧
      c.step pattern d = some c.advance) ∨
    (c.Mismatch pattern d ∧ c.step pattern d = c.restart.map Restart.retry) := by
  unfold step Mismatch
  split
  next found => exact .inl ⟨found, rfl⟩
  next token different found =>
    by_cases taken : token.takes d = true
    · exact .inr (.inl ⟨token, found, taken, if_pos taken⟩)
    · refine .inr (.inr ⟨?_, if_neg taken⟩)
      rintro other same
      cases found.symm.trans same
      exact ⟨different, by simpa using taken⟩
  next none =>
    refine .inr (.inr ⟨?_, rfl⟩)
    simp [none]

theorem step_eq_some (moved : c.step pattern d = some next) :
    (pattern[c.pattern]? = some .anyRun ∧ next = c.enterRun) ∨
    (∃ token, pattern[c.pattern]? = some token ∧ token.takes d = true ∧ next = c.advance) ∨
    (c.Mismatch pattern d ∧ ∃ r, c.restart = some r ∧ next = r.retry) := by
  rcases step_cases pattern d c with ⟨found, step⟩ | ⟨token, found, taken, step⟩ | ⟨mismatch, step⟩
  · exact .inl ⟨found, Option.some.inj (moved.symm.trans step)⟩
  · exact .inr (.inl ⟨token, found, taken, Option.some.inj (moved.symm.trans step)⟩)
  · obtain ⟨r, going, retried⟩ := Option.map_eq_some_iff.1 (step.symm.trans moved)
    exact .inr (.inr ⟨mismatch, r, going, retried.symm⟩)

theorem step_eq_none (stuck : c.step pattern d = none) :
    c.Mismatch pattern d ∧ c.restart = none := by
  rcases step_cases pattern d c with ⟨_, step⟩ | ⟨_, _, _, step⟩ | ⟨mismatch, step⟩
  · cases step.symm.trans stuck
  · cases step.symm.trans stuck
  · exact ⟨mismatch, Option.map_eq_none_iff.1 (step.symm.trans stuck)⟩

def tried (c : Cursor) : Nat := (c.restart.map Restart.text).getD 0

/-- A bound on the steps that are left. Each mismatch moves on to another place of the text, and between
two mismatches the pattern is gone through at most once. -/
def left (pattern : List Token) (text : Text) (c : Cursor) : Nat :=
  (text.length - c.tried) * (pattern.length + 1) + (pattern.length - c.pattern)

theorem tried_le (c : Cursor) : c.tried ≤ c.text := by
  unfold tried
  cases restart : c.restart with
  | none => exact Nat.zero_le _
  | some r => exact (c.passed r restart).2

theorem left_lt_of_le {later : Cursor} (tried : c.tried ≤ later.tried)
    (inside : c.pattern < pattern.length) (further : c.pattern < later.pattern) :
    later.left pattern text < c.left pattern text := by
  have fewer : (text.length - later.tried) * (pattern.length + 1) ≤
      (text.length - c.tried) * (pattern.length + 1) := Nat.mul_le_mul_right _ (by omega)
  unfold left
  omega

theorem left_retry_lt {r : Restart} (going : c.restart = some r) (inside : c.text < text.length) :
    r.retry.left pattern text < c.left pattern text := by
  have passed := c.passed r going
  obtain ⟨n, rest⟩ : ∃ n, text.length - r.text = n + 1 := ⟨text.length - r.text - 1, by omega⟩
  have rest' : text.length - (r.text + 1) = n := by omega
  simp only [left, tried, going, Restart.retry, Option.map_some, Option.getD_some, rest, rest',
    Nat.add_mul]
  omega

theorem left_step (here : text[c.text]? = some d) (moved : c.step pattern d = some next) :
    next.left pattern text < c.left pattern text := by
  rcases step_eq_some moved with ⟨found, rfl⟩ | ⟨token, found, _, rfl⟩ | ⟨_, r, going, rfl⟩
  · exact left_lt_of_le c.tried_le (List.getElem?_eq_some_iff.1 found).1 (Nat.lt_succ_self _)
  · exact left_lt_of_le (Nat.le_refl _) (List.getElem?_eq_some_iff.1 found).1 (Nat.lt_succ_self _)
  · exact left_retry_lt going (List.getElem?_eq_some_iff.1 here).1

end Cursor

/-- Whether the match that has come to the cursor succeeds. Behind the end of the text only runs may be
left of the pattern. -/
def run (pattern : List Token) (text : Text) (c : Cursor) : Bool :=
  match _here : text[c.text]? with
  | none => (pattern.drop c.pattern).all (· = .anyRun)
  | some d =>
    match _moved : c.step pattern d with
    | some next => run pattern text next
    | none => false
termination_by c.left pattern text
decreasing_by exact Cursor.left_step ‹_› ‹_›

end Like

def likeMatch (t pattern : Text) : Bool :=
  Like.run (Like.tokens (Text.lower pattern)) (Text.lower t) .start

end FilterQuery.Sql
