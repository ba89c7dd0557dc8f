import FilterQuery.Filter.Literal
import FilterQuery.Proofs.Pieces
import FilterQuery.Proofs.Quotation

/-!
Dividing a list into its items. The commas outside strings divide it, and the items with commas between
them are the list again. The other way round, pieces that end outside strings and hold no comma there are
the items of the list they are joined to: behind a comma outside strings no string is open and nothing is
escaped, so that each piece is read as if it stood alone.
-/

namespace FilterQuery.Filter

open Text (Quoting isQuote join)

theorem splitItemsFrom_ne_nil (q : Quoting) (t : Text) : splitItemsFrom q t ≠ [] := by
  cases t with
  | nil => exact List.cons_ne_nil _ _
  | cons c t =>
    simp only [splitItemsFrom]
    split
    · exact List.cons_ne_nil _ _
    · split <;> exact List.cons_ne_nil _ _

theorem splitItemsFrom_cons (q : Quoting) (c : Char) (t : Text) :
    splitItemsFrom q (c :: t) =
      if q.opened.isNone && c = ',' then [] :: splitItemsFrom (q.after c) t
      else (splitItemsFrom (q.after c) t).modifyHead (c :: ·) := by
  obtain ⟨item, items, found⟩ := List.exists_cons_of_ne_nil (splitItemsFrom_ne_nil (q.after c) t)
  rw [splitItemsFrom, found]
  rfl

theorem join_splitItemsFrom (q : Quoting) (t : Text) : join [','] (splitItemsFrom q t) = t := by
  induction t generalizing q with
  | nil => rfl
  | cons c t ih =>
    obtain ⟨item, items, found⟩ := List.exists_cons_of_ne_nil (splitItemsFrom_ne_nil (q.after c) t)
    have rest := ih (q.after c)
    rw [found, Text.join_cons] at rest
    rw [splitItemsFrom_cons, found]
    split
    case isTrue divides =>
      obtain ⟨_, rfl⟩ : q.opened.isNone = true ∧ c = ',' := by simpa using divides
      rw [Text.join_cons, ← rest]
      simp
    case isFalse => rw [List.modifyHead_cons, Text.join_cons, List.cons_append, rest]

theorem splitItemsFrom_append (q : Quoting) (s : Text) :
    ∃ done item, splitItemsFrom q s = done ++ [item] ∧ ∀ t, splitItemsFrom q (s ++ t) =
      done ++ (splitItemsFrom (q.afterText s) t).modifyHead (item ++ ·) := by
  induction s generalizing q with
  | nil =>
    refine ⟨[], [], rfl, fun t => ?_⟩
    have same : (splitItemsFrom q t).modifyHead id = splitItemsFrom q t := by rw [List.modifyHead_id, id]
    exact same.symm
  | cons c s ih =>
    obtain ⟨done, item, before, goesOn⟩ := ih (q.after c)
    by_cases divides : (q.opened.isNone && c = ',') = true
    · refine ⟨[] :: done, item, ?_, fun t => ?_⟩
      · rw [splitItemsFrom_cons, if_pos divides, before]
        rfl
      · rw [List.cons_append, splitItemsFrom_cons, if_pos divides, goesOn]
        rfl
    · cases done with
      | nil =>
        refine ⟨[], c :: item, ?_, fun t => ?_⟩
        · rw [splitItemsFrom_cons, if_neg divides, before]
          rfl
        · rw [List.cons_append, splitItemsFrom_cons, if_neg divides, goesOn, List.nil_append,
            List.modifyHead_modifyHead]
          rfl
      | cons first done =>
        refine ⟨(c :: first) :: done, item, ?_, fun t => ?_⟩
        · rw [splitItemsFrom_cons, if_neg divides, before]
          rfl
        · rw [List.cons_append, splitItemsFrom_cons, if_neg divides, goesOn]
          rfl

/-- The text, read from `q` on, ends outside strings and holds no comma there. -/
structure IsPieceFrom (q : Quoting) (t : Text) : Prop where
  closed : (q.afterText t).opened = none
  undivided : q.Outside (· ≠ ',') t

/-- A piece of a list ends outside strings, be it with a backslash, and holds no comma there. -/
def IsPiece (piece : Text) : Prop := IsPieceFrom {} piece

section Pieces

variable {q : Quoting} {c : Char} {t item piece : Text} {items pieces : List Text}

theorem after_comma (outside : q.opened = none) : q.after ',' = {} :=
  Quoting.after_plain outside rfl (by decide)

theorem isPieceFrom_cons :
    IsPieceFrom q (c :: t) ↔ (q.opened.isNone && c = ',') = false ∧ IsPieceFrom (q.after c) t := by
  have here : (q.holds c = true ∨ c ≠ ',') ↔ (q.opened.isNone && c = ',') = false := by
    by_cases comma : c = ','
    · subst comma
      simp [Quoting.holds, isQuote, Option.isSome_iff_ne_none]
    · simp [comma]
  constructor
  · rintro ⟨closed, undivided⟩
    rw [Quoting.outside_cons, here] at undivided
    exact ⟨undivided.1, closed, undivided.2⟩
  · rintro ⟨unmarked, closed, undivided⟩
    exact ⟨closed, Quoting.outside_cons.2 ⟨here.2 unmarked, undivided⟩⟩

theorem IsPieceFrom.splitItemsFrom_eq (whole : IsPieceFrom q t) : splitItemsFrom q t = [t] := by
  induction t generalizing q with
  | nil => rfl
  | cons c t ih =>
    obtain ⟨unmarked, rest⟩ := isPieceFrom_cons.1 whole
    rw [splitItemsFrom_cons, unmarked, ih rest]
    rfl

theorem isPiece_of_splitItemsFrom (split : splitItemsFrom q t = item :: items)
    (closed : (q.afterText t).opened = none) :
    IsPieceFrom q item ∧ ∀ piece ∈ items, IsPiece piece := by
  induction t generalizing q item items with
  | nil =>
    cases split
    exact ⟨⟨closed, Quoting.outside_of_forall (by simp)⟩, by simp⟩
  | cons c t ih =>
    obtain ⟨first, rest, found⟩ := List.exists_cons_of_ne_nil (splitItemsFrom_ne_nil (q.after c) t)
    obtain ⟨firstPiece, restPieces⟩ := ih found closed
    rw [splitItemsFrom_cons, found] at split
    split at split
    case isTrue divides =>
      -- What is read behind the comma is read as from the beginning.
      obtain ⟨outside, rfl⟩ : q.opened = none ∧ c = ',' := by simpa using divides
      cases split
      rw [after_comma outside] at firstPiece
      exact ⟨⟨outside, Quoting.outside_of_forall (by simp)⟩,
        List.forall_mem_cons.2 ⟨firstPiece, restPieces⟩⟩
    case isFalse unmarked =>
      cases split
      exact ⟨isPieceFrom_cons.2 ⟨by simpa using unmarked, firstPiece⟩, restPieces⟩

theorem join_splitItems (raw : Text) : join [','] (splitItems raw) = raw := join_splitItemsFrom {} raw

theorem isPiece_iff :
    IsPiece piece ↔ (({} : Quoting).afterText piece).opened = none ∧ splitItems piece = [piece] := by
  constructor
  · intro whole
    exact ⟨whole.closed, whole.splitItemsFrom_eq⟩
  · rintro ⟨closed, whole⟩
    exact (isPiece_of_splitItemsFrom whole closed).1

instance (piece : Text) : Decidable (IsPiece piece) := decidable_of_iff _ isPiece_iff.symm

theorem splitItems_append_comma (whole : IsPiece piece) (t : Text) :
    splitItems (piece ++ ',' :: t) = piece :: splitItems t := by
  obtain ⟨done, last, single, goesOn⟩ := splitItemsFrom_append {} piece
  rw [whole.splitItemsFrom_eq] at single
  obtain ⟨rfl, same⟩ := List.append_inj' (show [] ++ [piece] = done ++ [last] from single) rfl
  cases same
  have divides : splitItemsFrom (({} : Quoting).afterText piece) (',' :: t) = [] :: splitItems t := by
    rw [splitItemsFrom_cons, after_comma whole.closed, whole.closed]
    rfl
  rw [splitItems, goesOn, divides]
  simp

theorem splitItems_join (filled : pieces ≠ []) (each : ∀ piece ∈ pieces, IsPiece piece) :
    splitItems (join [','] pieces) = pieces := by
  induction pieces with
  | nil => exact absurd rfl filled
  | cons piece pieces ih =>
    rw [List.forall_mem_cons] at each
    cases pieces with
    | nil => exact each.1.splitItemsFrom_eq
    | cons next pieces =>
      have rest := ih (List.cons_ne_nil _ _) each.2
      rw [join, List.append_assoc, List.singleton_append, splitItems_append_comma each.1, rest]
      simp

theorem closed_join (each : ∀ piece ∈ pieces, IsPiece piece) :
    (({} : Quoting).afterText (join [','] pieces)).opened = none := by
  induction pieces with
  | nil => rfl
  | cons piece pieces ih =>
    rw [List.forall_mem_cons] at each
    cases pieces with
    | nil => exact each.1.closed
    | cons next pieces =>
      have step : ({} : Quoting).afterText (piece ++ [','] ++ join [','] (next :: pieces)) =
          ((({} : Quoting).afterText piece).after ',').afterText (join [','] (next :: pieces)) := by
        rw [Quoting.afterText_append, Quoting.afterText_append]
        rfl
      rw [join, step, after_comma each.1.closed]
      · exact ih each.2
      · simp

theorem isPiece_splitItems_iff (raw : Text) :
    (∀ piece ∈ splitItems raw, IsPiece piece) ↔ (({} : Quoting).afterText raw).opened = none := by
  constructor
  · intro each
    have closed := closed_join each
    rwa [join_splitItems] at closed
  · intro closed
    obtain ⟨item, items, found⟩ := List.exists_cons_of_ne_nil (splitItemsFrom_ne_nil {} raw)
    obtain ⟨first, rest⟩ := isPiece_of_splitItemsFrom found closed
    rw [splitItems, found]
    exact List.forall_mem_cons.2 ⟨first, rest⟩

end Pieces

end FilterQuery.Filter
