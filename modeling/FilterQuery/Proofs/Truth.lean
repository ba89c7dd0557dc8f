import FilterQuery.Proofs.Selection

/-!
Conditions in three-valued logic. `AND` and `OR` make false of what is unknown, where Kleene's connectives
keep it. Without a negation above them that makes no difference to the rows that are selected: neither
connective can make true of an unknown what it does not make true of a false. A negation above them tells
the two apart.
-/

namespace FilterQuery.Sql

inductive Truth where
  | no | unknown | yes
deriving DecidableEq, Repr

namespace Truth

/-- Kleene's conjunction: an unknown side counts unless the other is false. -/
def and : Truth → Truth → Truth
  | yes, b => b
  | no, _ => no
  | unknown, no => no
  | unknown, _ => unknown

/-- Kleene's disjunction: an unknown side counts unless the other is true. -/
def or : Truth → Truth → Truth
  | no, b => b
  | yes, _ => yes
  | unknown, yes => yes
  | unknown, _ => unknown

def not : Truth → Truth
  | no => yes
  | unknown => unknown
  | yes => no

def value : Truth → Value
  | no => .boolean false
  | unknown => .null
  | yes => .boolean true

def of : Value → Truth
  | .null => unknown
  | v => if truthy v then yes else no

variable {a b : Truth} {v : Value}

theorem and_eq_yes : a.and b = yes ↔ a = yes ∧ b = yes := by
  cases a <;> cases b <;> decide

theorem and_eq_no : a.and b = no ↔ a = no ∨ b = no := by
  cases a <;> cases b <;> decide

theorem or_eq_yes : a.or b = yes ↔ a = yes ∨ b = yes := by
  cases a <;> cases b <;> decide

theorem or_eq_no : a.or b = no ↔ a = no ∧ b = no := by
  cases a <;> cases b <;> decide

theorem not_eq_yes : a.not = yes ↔ a = no := by
  cases a <;> decide

theorem truthy_value : truthy a.value = decide (a = yes) := by
  cases a <;> rfl

theorem truthy_eq (v : Value) : truthy v = decide (of v = yes) := by
  unfold of
  split
  · rfl
  · cases truthy v <;> rfl

theorem ne_yes_iff_eq_no : (decide (a ≠ yes) = decide (a = no)) ↔ a ≠ unknown := by
  cases a <;> decide

end Truth

/-! Tests, and what they are put together to. -/

inductive Atom where
  | compare (c : Comparison) (left right : Expr)
  | like (negated : Bool) (operand pattern : Expr)
  | inList (negated : Bool) (operand : Expr) (items : List Expr)
  | isNull (negated : Bool) (operand : Expr)

def Atom.expr : Atom → Expr
  | compare c left right => .binary (.compare c) left right
  | like negated operand pattern => .like negated operand pattern
  | inList negated operand items => .inList negated operand items
  | isNull negated operand => .isNull negated operand

def Atom.truth (schema : Schema) (row : Row) (a : Atom) : Truth :=
  match evaluate schema row a.expr with
  | .ok v => .of v
  | .error _ => .unknown

/-- A condition without negations above its tests. -/
inductive Formula where
  | atom (a : Atom)
  | nested (inner : Formula)
  | and (left right : Formula)
  | or (left right : Formula)

namespace Formula

def expr : Formula → Expr
  | atom a => a.expr
  | nested inner => .nested inner.expr
  | and left right => .binary .and left.expr right.expr
  | or left right => .binary .or left.expr right.expr

def atoms : Formula → List Atom
  | atom a => [a]
  | nested inner => inner.atoms
  | and left right => left.atoms ++ right.atoms
  | or left right => left.atoms ++ right.atoms

/-- The condition by Kleene's connectives, from what its tests stand for. -/
def kleene (truth : Atom → Truth) : Formula → Truth
  | atom a => truth a
  | nested inner => inner.kleene truth
  | and left right => (left.kleene truth).and (right.kleene truth)
  | or left right => (left.kleene truth).or (right.kleene truth)

end Formula

section Evaluation

variable {schema : Schema} {row : Row} {a : Atom} {v : Value}

theorem Atom.evaluate_cases (found : evaluate schema row a.expr = .ok v) :
    v = .null ∨ ∃ b, v = .boolean b := by
  cases a with
  | compare c left right =>
    rw [expr, evaluate] at found
    obtain ⟨l, _, found⟩ := Filter.bind_eq_ok found
    obtain ⟨r, _, found⟩ := Filter.bind_eq_ok found
    rw [BinaryOp.apply] at found
    split at found <;> cases found
    · exact .inr ⟨_, rfl⟩
    · exact .inl rfl
  | like negated operand pattern =>
    rw [expr, evaluate] at found
    obtain ⟨value, _, found⟩ := Filter.bind_eq_ok found
    obtain ⟨pattern, _, found⟩ := Filter.bind_eq_ok found
    split at found <;> cases found
    · exact .inl rfl
    · exact .inr ⟨_, rfl⟩
  | inList negated operand items =>
    rw [expr, evaluate] at found
    obtain ⟨value, _, found⟩ := Filter.bind_eq_ok found
    split at found
    · cases found
      exact .inl rfl
    · obtain ⟨same, _, found⟩ := Filter.bind_eq_ok found
      cases found
      exact .inr ⟨_, rfl⟩
  | isNull negated operand =>
    rw [expr, evaluate] at found
    obtain ⟨value, _, found⟩ := Filter.bind_eq_ok found
    cases found
    exact .inr ⟨_, rfl⟩

theorem Atom.evaluate_truth (found : evaluate schema row a.expr = .ok v) :
    v = (a.truth schema row).value := by
  rw [truth, found]
  rcases evaluate_cases found with rfl | ⟨b, rfl⟩
  · rfl
  · cases b <;> rfl

theorem evaluate_binary_error {l r : Expr} {op : BinaryOp}
    (total : ∀ v w, ∃ u, op.apply v w = .ok u) :
    (∃ e, evaluate schema row (.binary op l r) = .error e) ↔
      (∃ e, evaluate schema row l = .error e) ∨ ∃ e, evaluate schema row r = .error e := by
  rw [evaluate]
  cases evaluate schema row l with
  | error e => simp [bind, Except.bind]
  | ok v =>
    cases evaluate schema row r with
    | error e => simp [bind, Except.bind]
    | ok w =>
      obtain ⟨u, applied⟩ := total v w
      simp [bind, Except.bind, applied]

theorem selects_error {e : Expr} :
    (∃ error, Predicate.selects ⟨e⟩ schema row = .error error) ↔
      ∃ error, evaluate schema row e = .error error := by
  rw [Predicate.selects]
  cases evaluate schema row e <;> simp [bind, Except.bind, pure, Except.pure]

namespace Formula

theorem evaluate_error (f : Formula) :
    (∃ e, evaluate schema row f.expr = .error e) ↔
      ∃ a ∈ f.atoms, ∃ e, evaluate schema row a.expr = .error e := by
  induction f with
  | atom a => simp [expr, atoms]
  | nested inner ih =>
    rw [expr, evaluate]
    exact ih
  | and left right ihl ihr =>
    rw [expr, evaluate_binary_error fun v w => ⟨_, rfl⟩, ihl, ihr]
    simp only [atoms, List.mem_append, or_and_right, exists_or]
  | or left right ihl ihr =>
    rw [expr, evaluate_binary_error fun v w => ⟨_, rfl⟩, ihl, ihr]
    simp only [atoms, List.mem_append, or_and_right, exists_or]

/-- The condition is true or not as in Kleene's logic, though an unknown part may have become false. -/
theorem decides {f : Formula} (known : ∀ a ∈ f.atoms, ∃ v, evaluate schema row a.expr = .ok v) :
    Decides schema row f.expr (decide (f.kleene (Atom.truth schema row) = .yes)) := by
  induction f with
  | atom a =>
    obtain ⟨v, found⟩ := known a (.head _)
    have value := Atom.evaluate_truth found
    rw [Decides, expr, kleene, found, value]
    cases a.truth schema row with
    | no => exact .inl rfl
    | unknown => exact .inr ⟨rfl, rfl⟩
    | yes => exact .inl rfl
  | nested inner ih =>
    rw [Decides, expr, evaluate]
    exact ih known
  | and left right ihl ihr =>
    rw [atoms, List.forall_mem_append] at known
    simpa only [expr, kleene, Truth.and_eq_yes, Bool.decide_and] using (ihl known.1).and (ihr known.2)
  | or left right ihl ihr =>
    rw [atoms, List.forall_mem_append] at known
    simpa only [expr, kleene, Truth.or_eq_yes, Bool.decide_or] using (ihl known.1).or (ihr known.2)

end Formula

end Evaluation

/-- A condition fails on a row if and only if one of its tests does. Otherwise each test is true, false or
null there, and the row is selected if and only if the condition is true in Kleene's logic. -/
theorem selects_kleene (f : Formula) (schema : Schema) (row : Row) :
    ((∃ e, Predicate.selects ⟨f.expr⟩ schema row = .error e) ↔
      ∃ a ∈ f.atoms, ∃ e, evaluate schema row a.expr = .error e) ∧
    ((∀ a ∈ f.atoms, ∀ e, evaluate schema row a.expr ≠ .error e) →
      (∀ a ∈ f.atoms, evaluate schema row a.expr = .ok (a.truth schema row).value) ∧
      Predicate.selects ⟨f.expr⟩ schema row =
        .ok (decide (f.kleene (Atom.truth schema row) = .yes))) := by
  refine ⟨selects_error.trans f.evaluate_error, ?_⟩
  intro sound
  have known : ∀ a ∈ f.atoms, ∃ v, evaluate schema row a.expr = .ok v := by
    intro a member
    cases found : evaluate schema row a.expr with
    | ok v => exact ⟨v, rfl⟩
    | error e => exact absurd found (sound a member e)
  constructor
  · intro a member
    obtain ⟨v, found⟩ := known a member
    rw [found, ← Atom.evaluate_truth found]
  · exact Predicate.selects_decided (Formula.decides known)

def Atom.holds (column number : Text) : Atom :=
  .compare .eq (.column column) (.literal (.number number))

/-- The row ends before `b`, which is then null: `a = 1 AND b LIKE '%x%'` is unknown, `b IS NULL` is
true. -/
theorem selects_kleene_short :
    let schema : Schema := ⟨[{ name := ['a'] }, { name := ['b'] }]⟩
    let row : Row := [.integer 1]
    let alike : Atom := .like false (.column ['b']) (.literal (.text "%x%".toList))
    let f : Formula := .or (.and (.atom (.holds ['a'] ['1'])) (.atom alike))
      (.nested (.atom (.isNull false (.column ['b']))))
    (∀ a ∈ f.atoms, ∀ e, evaluate schema row a.expr ≠ .error e) ∧
      alike.truth schema row = .unknown ∧ Predicate.selects ⟨f.expr⟩ schema row = .ok true := by
  intro schema row alike f
  have sound : ∀ a ∈ f.atoms, ∀ e, evaluate schema row a.expr ≠ .error e := by
    intro a member e
    simp only [f, Formula.atoms, List.cons_append, List.nil_append, List.mem_cons, List.not_mem_nil,
      or_false] at member
    rcases member with rfl | rfl | rfl <;> rintro ⟨⟩
  exact ⟨sound, rfl, ((selects_kleene f schema row).2 sound).2⟩

/-! Negations of conjunctions and disjunctions. -/

namespace Expr

/-- `NOT (a AND b)`, or the same with another connective. -/
def negated (op : BinaryOp) (a b : Expr) : Expr := .unary .not (.nested (.binary op a b))

/-- `(NOT a) OR (NOT b)`, or the same with another connective. -/
def distributed (op : BinaryOp) (a b : Expr) : Expr :=
  .binary op (.nested (.unary .not a)) (.nested (.unary .not b))

end Expr

section Negation

variable {schema : Schema} {row : Row} {a b : Expr} {v w : Value} {k : Bool}

theorem apply_not (v : Value) : UnaryOp.not.apply v = .ok (Truth.of v).not.value := by
  cases v with
  | null => rfl
  | _ =>
    simp only [UnaryOp.apply, Truth.of]
    split <;> simp_all [Truth.not, Truth.value]

theorem selects_negated (op : BinaryOp) (first : evaluate schema row a = .ok v)
    (second : evaluate schema row b = .ok w) (connected : op.apply v w = .ok (.boolean k)) :
    Predicate.selects ⟨.negated op a b⟩ schema row = .ok (!k) := by
  refine Predicate.selects_decided (.inl ?_)
  simp [Expr.negated, evaluate, first, second, connected, bind, Except.bind, UnaryOp.apply, truthy]

theorem selects_distributed (op : BinaryOp) (first : evaluate schema row a = .ok v)
    (second : evaluate schema row b = .ok w)
    (connected : op.apply (Truth.of v).not.value (Truth.of w).not.value = .ok (.boolean k)) :
    Predicate.selects ⟨.distributed op a b⟩ schema row = .ok k := by
  refine Predicate.selects_decided (.inl ?_)
  simp [Expr.distributed, evaluate, first, second, apply_not, connected, bind, Except.bind]

end Negation

/-- A negated conjunction selects the rows on which the conjunction is not true, two negations with `OR` the
rows on which it is false, and likewise for a disjunction. So the two ways to write it select the same if
and only if the conjunction, or the disjunction, is known in Kleene's logic. -/
theorem deMorgan_iff {a b : Expr} {schema : Schema} {row : Row} {v w : Value}
    (first : evaluate schema row a = .ok v) (second : evaluate schema row b = .ok w) :
    let both := (Truth.of v).and (Truth.of w)
    let either := (Truth.of v).or (Truth.of w)
    Predicate.selects ⟨.negated .and a b⟩ schema row = .ok (decide (both ≠ .yes)) ∧
    Predicate.selects ⟨.distributed .or a b⟩ schema row = .ok (decide (both = .no)) ∧
    (Predicate.selects ⟨.negated .and a b⟩ schema row =
      Predicate.selects ⟨.distributed .or a b⟩ schema row ↔ both ≠ .unknown) ∧
    Predicate.selects ⟨.negated .or a b⟩ schema row = .ok (decide (either ≠ .yes)) ∧
    Predicate.selects ⟨.distributed .and a b⟩ schema row = .ok (decide (either = .no)) ∧
    (Predicate.selects ⟨.negated .or a b⟩ schema row =
      Predicate.selects ⟨.distributed .and a b⟩ schema row ↔ either ≠ .unknown) := by
  intro both either
  have notBoth : Predicate.selects ⟨.negated .and a b⟩ schema row = .ok (decide (both ≠ .yes)) := by
    rw [selects_negated .and first second rfl]
    simp [both, Truth.and_eq_yes, Truth.truthy_eq]
  have oneNot : Predicate.selects ⟨.distributed .or a b⟩ schema row = .ok (decide (both = .no)) := by
    rw [selects_distributed .or first second rfl]
    simp [both, Truth.and_eq_no, Truth.truthy_value, Truth.not_eq_yes, Bool.decide_or]
  have notEither : Predicate.selects ⟨.negated .or a b⟩ schema row = .ok (decide (either ≠ .yes)) := by
    rw [selects_negated .or first second rfl]
    simp [either, Truth.or_eq_yes, Truth.truthy_eq]
  have bothNot : Predicate.selects ⟨.distributed .and a b⟩ schema row = .ok (decide (either = .no)) := by
    rw [selects_distributed .and first second rfl]
    simp [either, Truth.or_eq_no, Truth.truthy_value, Truth.not_eq_yes, Bool.decide_and]
  refine ⟨notBoth, oneNot, ?_, notEither, bothNot, ?_⟩
  · rw [notBoth, oneNot, Except.ok.injEq]
    exact Truth.ne_yes_iff_eq_no
  · rw [notEither, bothNot, Except.ok.injEq]
    exact Truth.ne_yes_iff_eq_no

/-- Where one side is false, an unknown other side does no harm. -/
theorem deMorgan_iff_known :
    let schema : Schema := ⟨[{ name := ['a'] }, { name := ['b'] }]⟩
    let row : Row := [.null, .integer 2]
    let a := (Atom.holds ['a'] ['1']).expr
    let b := (Atom.holds ['b'] ['1']).expr
    evaluate schema row a = .ok .null ∧ evaluate schema row b = .ok (.boolean false) ∧
      Predicate.selects ⟨.negated .and a b⟩ schema row =
        Predicate.selects ⟨.distributed .or a b⟩ schema row := by
  intro schema row a b
  have first : evaluate schema row a = .ok .null := rfl
  have second : evaluate schema row b = .ok (.boolean false) := rfl
  exact ⟨first, second, (deMorgan_iff first second).2.2.1.2 (by decide)⟩

/-- With `a` null, `NOT (a = 1 AND b = 1)` selects a row where `b` is 1 and `(NOT a = 1) OR (NOT b = 1)` does
not; `NOT (a = 1 OR b = 1)` selects one where `b` is 2 and `(NOT a = 1) AND (NOT b = 1)` does not. -/
theorem deMorgan_lost :
    let schema : Schema := ⟨[{ name := ['a'] }, { name := ['b'] }]⟩
    let a := (Atom.holds ['a'] ['1']).expr
    let b := (Atom.holds ['b'] ['1']).expr
    (Predicate.selects ⟨.negated .and a b⟩ schema [.null, .integer 1] = .ok true ∧
      Predicate.selects ⟨.distributed .or a b⟩ schema [.null, .integer 1] = .ok false) ∧
    Predicate.selects ⟨.negated .or a b⟩ schema [.null, .integer 2] = .ok true ∧
      Predicate.selects ⟨.distributed .and a b⟩ schema [.null, .integer 2] = .ok false :=
  ⟨⟨rfl, rfl⟩, rfl, rfl⟩

end FilterQuery.Sql
