import FilterQuery.Text.Basic

/-!
The pieces of a text between its marks. Cutting at a mark and joining with it are inverse to each other,
as long as no piece holds the mark itself.
-/

namespace FilterQuery.Text

theorem join_cons (separator piece : Text) (pieces : List Text) :
    join separator (piece :: pieces) = piece ++ pieces.flatMap (separator ++ ·) := by
  induction pieces generalizing piece with
  | nil => simp [join]
  | cons next pieces ih => simp [join, ih]

/-- The text is made of the pieces with a mark between each two. -/
structure Pieces (mark : Char) (pieces : List Text) (t : Text) : Prop where
  filled : pieces ≠ []
  whole : join [mark] pieces = t
  free : ∀ piece ∈ pieces, mark ∉ piece

variable {mark : Char} {piece t : Text} {pieces : List Text}

theorem cut_free (free : mark ∉ piece) : cut mark piece = [piece] := by
  induction piece with
  | nil => rfl
  | cons c piece ih =>
    rw [List.mem_cons, not_or] at free
    rw [cut, if_neg (Ne.symm free.1), ih free.2]

theorem cut_append_mark (free : mark ∉ piece) (t : Text) :
    cut mark (piece ++ mark :: t) = piece :: cut mark t := by
  induction piece with
  | nil => rw [List.nil_append, cut, if_pos rfl]
  | cons c piece ih =>
    rw [List.mem_cons, not_or] at free
    rw [List.cons_append, cut, if_neg (Ne.symm free.1), ih free.2]

theorem Pieces.cut_eq (divided : Pieces mark pieces t) : cut mark t = pieces := by
  obtain ⟨filled, rfl, free⟩ := divided
  induction pieces with
  | nil => exact absurd rfl filled
  | cons piece pieces ih =>
    rw [List.forall_mem_cons] at free
    cases pieces with
    | nil => exact cut_free free.1
    | cons next pieces =>
      have rest := ih (List.cons_ne_nil _ _) free.2
      rw [join, List.append_assoc, List.singleton_append, cut_append_mark free.1, rest]
      nofun

theorem pieces_cut (mark : Char) (t : Text) : Pieces mark (cut mark t) t := by
  induction t with
  | nil => exact ⟨List.cons_ne_nil _ _, rfl, by simp [cut]⟩
  | cons c t ih =>
    obtain ⟨first, rest, pieces⟩ := List.exists_cons_of_ne_nil ih.filled
    have whole := ih.whole
    have free := ih.free
    rw [pieces, join_cons] at whole
    rw [pieces] at free
    rw [cut, pieces]
    split
    case isTrue same =>
      subst same
      refine ⟨List.cons_ne_nil _ _, ?_, List.forall_mem_cons.2 ⟨by simp, free⟩⟩
      rw [← whole, join_cons]
      simp
    case isFalse other =>
      rw [List.forall_mem_cons] at free
      refine ⟨List.cons_ne_nil _ _, ?_, List.forall_mem_cons.2 ⟨?_, free.2⟩⟩
      · rw [← whole, join_cons, List.cons_append]
      · rw [List.mem_cons, not_or]
        exact ⟨Ne.symm other, free.1⟩

theorem pieces_iff : Pieces mark pieces t ↔ pieces = cut mark t := by
  constructor
  · intro divided
    exact divided.cut_eq.symm
  · rintro rfl
    exact pieces_cut mark t

end FilterQuery.Text
