import Mathlib.Data.List.Forall2

/-!
Going through a list with a function that may fail. The answer has one value for each element, in order;
otherwise the first failure is the answer.
-/

namespace FilterQuery

variable {α β ε : Type} {f : α → Except ε β} {x : α} {y : β} {xs : List α} {ys : List β} {e : ε}

theorem mapM_cons_ok (made : f x = .ok y) : (x :: xs).mapM f = (xs.mapM f).map (y :: ·) := by
  rw [List.mapM_cons, made]
  cases xs.mapM f <;> rfl

theorem mapM_cons_error (failed : f x = .error e) : (x :: xs).mapM f = .error e := by
  rw [List.mapM_cons, failed]
  rfl

theorem mapM_eq_ok_iff : xs.mapM f = .ok ys ↔ List.Forall₂ (fun x y => f x = .ok y) xs ys := by
  constructor
  · intro done
    induction xs generalizing ys with
    | nil =>
      cases done
      exact .nil
    | cons x xs ih =>
      cases made : f x with
      | error e =>
        rw [mapM_cons_error made] at done
        cases done
      | ok y =>
        rw [mapM_cons_ok made] at done
        cases others : xs.mapM f with
        | error e =>
          rw [others] at done
          cases done
        | ok rest =>
          rw [others] at done
          cases done
          exact .cons made (ih others)
  · intro each
    induction each with
    | nil => rfl
    | cons made _ ih =>
      rw [mapM_cons_ok made, ih]
      rfl

theorem exists_of_forall₂ {R : α → β → Prop} (each : List.Forall₂ R xs ys) :
    ∀ x ∈ xs, ∃ y ∈ ys, R x y := by
  induction each with
  | nil => simp
  | cons made rest ih =>
    simp only [List.forall_mem_cons, List.exists_mem_cons_iff]
    exact ⟨.inl made, fun x member => .inr (ih x member)⟩

theorem mem_of_mapM (done : xs.mapM f = .ok ys) :
    (∀ x ∈ xs, ∃ y ∈ ys, f x = .ok y) ∧ ∀ y ∈ ys, ∃ x ∈ xs, f x = .ok y :=
  have each := mapM_eq_ok_iff.1 done
  ⟨exists_of_forall₂ each, exists_of_forall₂ each.flip⟩

theorem exists_mapM_iff : (∃ ys, xs.mapM f = .ok ys) ↔ ∀ x ∈ xs, ∃ y, f x = .ok y := by
  constructor
  · rintro ⟨ys, done⟩ x member
    obtain ⟨y, _, made⟩ := (mem_of_mapM done).1 x member
    exact ⟨y, made⟩
  · intro each
    induction xs with
    | nil => exact ⟨[], rfl⟩
    | cons x xs ih =>
      obtain ⟨⟨y, made⟩, rest⟩ := List.forall_mem_cons.1 each
      obtain ⟨ys, done⟩ := ih rest
      exact ⟨y :: ys, by rw [mapM_cons_ok made, done]; rfl⟩

theorem mapM_eq_error_iff : xs.mapM f = .error e ↔
    ∃ before x after, xs = before ++ x :: after ∧ (∀ x ∈ before, ∃ y, f x = .ok y) ∧ f x = .error e := by
  constructor
  · intro failed
    induction xs with
    | nil => cases failed
    | cons x xs ih =>
      cases made : f x with
      | error e =>
        rw [mapM_cons_error made] at failed
        cases failed
        exact ⟨[], x, xs, rfl, by simp, made⟩
      | ok y =>
        rw [mapM_cons_ok made] at failed
        cases others : xs.mapM f with
        | ok rest =>
          rw [others] at failed
          cases failed
        | error e =>
          rw [others] at failed
          cases failed
          obtain ⟨before, first, after, rfl, good, bad⟩ := ih others
          exact ⟨x :: before, first, after, rfl, List.forall_mem_cons.2 ⟨⟨y, made⟩, good⟩, bad⟩
  · rintro ⟨before, x, after, rfl, good, bad⟩
    induction before with
    | nil => exact mapM_cons_error bad
    | cons x before ih =>
      obtain ⟨⟨y, made⟩, rest⟩ := List.forall_mem_cons.1 good
      rw [List.cons_append, mapM_cons_ok made, ih rest]
      rfl

theorem mapM_ok {g : α → β} (each : ∀ x ∈ xs, f x = .ok (g x)) : xs.mapM f = .ok (xs.map g) := by
  rw [mapM_eq_ok_iff, List.forall₂_map_right_iff, List.forall₂_same]
  exact each

theorem mapM_eq_some_iff {f : α → Option β} :
    xs.mapM f = some ys ↔ List.Forall₂ (fun x y => f x = some y) xs ys := by
  induction xs generalizing ys with
  | nil => cases ys <;> simp
  | cons x xs ih =>
    rw [List.mapM_cons]
    cases ys with
    | nil => cases f x <;> cases xs.mapM f <;> simp
    | cons y ys =>
      rw [List.forall₂_cons, ← ih]
      cases f x <;> cases xs.mapM f <;> simp

theorem anyM_ok {p : α → Except ε Bool} {q : α → Bool} (each : ∀ x ∈ xs, p x = .ok (q x)) :
    xs.anyM p = .ok (xs.any q) := by
  induction xs with
  | nil => rfl
  | cons x xs ih =>
    obtain ⟨first, rest⟩ := List.forall_mem_cons.1 each
    rw [List.anyM, first, List.any_cons]
    cases q x with
    | true => rfl
    | false => exact ih rest

theorem forM_eq_ok_iff {f : α → Except ε PUnit} : xs.forM f = .ok () ↔ ∀ x ∈ xs, f x = .ok () := by
  induction xs with
  | nil => simp [List.forM, pure, Except.pure]
  | cons x xs ih =>
    rw [List.forall_mem_cons, ← ih]
    show (f x >>= fun _ => xs.forM f) = _ ↔ _
    cases f x with
    | error e => simp [bind, Except.bind]
    | ok => simp [bind, Except.bind]

theorem forall₂_set {R : α → β → Prop} {index : Nat} (each : List.Forall₂ R xs ys)
    (there : xs[index]? = some x) (related : R x y) : List.Forall₂ R xs (ys.set index y) := by
  induction each generalizing index with
  | nil => cases there
  | cons first rest ih =>
    cases index with
    | zero =>
      cases there
      exact .cons related rest
    | succ index => exact .cons first (ih there)

end FilterQuery
