import Mathlib
import FilterQuery.Proofs.Traversal
import FilterQuery.Table.ResultSet

/-!
Printed results are aligned. Every line of the box is as long as the others, and its bars stand where
theirs do: a column takes the width of its longest text in each line, be it a border, the names of the
columns or a row. Results that need no column wider than the greatest width are printed, and no others.
-/

namespace FilterQuery.ResultSet

/-- The width of a column: the number of characters of its name or of the longest of its values. -/
def NeedsWidth (r : ResultSet) (column width : Nat) : Prop :=
  IsGreatest {n | (∃ name, r.columns[column]? = some name ∧ n = name.length) ∨
    ∃ row ∈ r.rows, ∃ value, row[column]? = some value ∧ n = value.display.length} width

/-- Where a bar stands. Each column before it takes its width, a space on both sides and a bar. -/
def barOffset (widths : List Nat) (bar : Nat) : Nat := ((widths.take bar).map (· + 3)).sum

/-- The bars of a line: the first one, the last one, and those between two columns. -/
structure Bars where
  left : Char
  middle : Char
  right : Char

def Bars.at (bars : Bars) (columns bar : Nat) : Char :=
  if bar = 0 then bars.left else if bar = columns then bars.right else bars.middle

/-- The line has its bars at the offsets that the widths give, and the segments between them. -/
structure Ruled (widths : List Nat) (bars : Bars) (segments : List Text) (t : Text) : Prop where
  length : t.length = 1 + (widths.map (· + 3)).sum
  bars : ∀ bar ≤ widths.length,
    t[barOffset widths bar]? = some (bars.at widths.length bar)
  segments : ∀ (column width : Nat) (segment : Text), widths[column]? = some width →
    segments[column]? = some segment →
    (t.drop (barOffset widths column + 1)).take (width + 2) = segment

/-! Lines of any kind are put together from left to right. -/

section Ruled

variable {width : Nat} {widths : List Nat} {left middle right : Char} {segment : Text}
  {segments : List Text} {line : Text}

theorem barOffset_succ (width : Nat) (widths : List Nat) (bar : Nat) :
    barOffset (width :: widths) (bar + 1) = width + 3 + barOffset widths bar := by
  simp [barOffset]

theorem Bars.at_succ {columns : Nat} (filled : columns ≠ 0) (bar : Nat) :
    Bars.at ⟨left, middle, right⟩ (columns + 1) (bar + 1) =
      Bars.at ⟨middle, middle, right⟩ columns bar := by
  grind [Bars.at]

theorem ruled_single (left middle right : Char) (fits : segment.length = width + 2) :
    Ruled [width] ⟨left, middle, right⟩ [segment] (left :: segment ++ [right]) := by
  constructor
  case length =>
    simp only [List.length_append, List.length_cons, List.length_nil, List.map_cons, List.map_nil,
      List.sum_cons, List.sum_nil]
    omega
  case bars =>
    intro bar inside
    match bar with
    | 0 => rfl
    | 1 =>
      have offset : barOffset [width] 1 = (left :: segment).length := by
        simp [barOffset, fits]
      rw [offset, List.getElem?_concat_length]
      rfl
    | bar + 2 => simp at inside
  case segments =>
    intro column width' segment' here there
    match column with
    | 0 =>
      cases here
      cases there
      simp [barOffset, ← fits]
    | column + 1 => simp at here

theorem Ruled.cons (left : Char) (ruled : Ruled widths ⟨middle, middle, right⟩ segments line)
    (filled : widths ≠ []) (fits : segment.length = width + 2) :
    Ruled (width :: widths) ⟨left, middle, right⟩ (segment :: segments) (left :: segment ++ line) := by
  have front : (left :: segment).length = width + 3 := by rw [List.length_cons, fits]
  constructor
  case length =>
    rw [List.length_append, front, ruled.length, List.map_cons, List.sum_cons]
    omega
  case bars =>
    intro bar inside
    cases bar with
    | zero => rfl
    | succ bar =>
      have count : widths.length ≠ 0 := by simpa using filled
      rw [List.length_cons] at inside
      rw [barOffset_succ, ← front, List.getElem?_append_right (Nat.le_add_right _ _),
        Nat.add_sub_cancel_left, ruled.bars bar (by omega)]
      rw [List.length_cons, Bars.at_succ count]
  case segments =>
    intro column width' segment' here there
    cases column with
    | zero =>
      cases here
      cases there
      simp [barOffset, ← fits]
    | succ column =>
      rw [barOffset_succ, ← front, Nat.add_assoc, List.drop_length_add_append]
      exact ruled.segments column width' segment' here there

end Ruled

def strokes (widths : List Nat) : List Text := widths.map fun width => List.replicate (width + 2) '─'

def pad (width : Nat) (t : Text) : Text := t ++ List.replicate (width - t.length) ' '

/-- The segments of a line of texts: each text at the left of its column, between two spaces. -/
def padded (widths : List Nat) (texts : List Text) : List Text :=
  List.zipWith (fun t width => ' ' :: pad width t ++ [' ']) texts widths

/-- The text is a line of this make, and its end. -/
def Written (widths : List Nat) (made : Bars × List Text) (text : Text) : Prop :=
  ∃ line, text = line ++ ['\n'] ∧ Ruled widths made.1 made.2 line

theorem written_border (bars : Bars) {widths : List Nat} (filled : widths ≠ []) :
    Written widths (bars, strokes widths) (border widths bars.left bars.middle bars.right) := by
  obtain ⟨left, middle, right⟩ := bars
  refine ⟨left :: Text.join [middle] (strokes widths) ++ [right], by simp [border, strokes], ?_⟩
  induction widths generalizing left with
  | nil => exact absurd rfl filled
  | cons width widths ih =>
    have fits : (List.replicate (width + 2) '─').length = width + 2 := List.length_replicate
    cases widths with
    | nil => exact ruled_single left middle right fits
    | cons next widths =>
      have rest := (ih (List.cons_ne_nil _ _) middle).cons left (List.cons_ne_nil _ _) fits
      simpa [strokes, Text.join] using rest

def cells (widths : List Nat) (texts : List Text) : Text :=
  '│' :: (List.zipWith (fun t width => ' ' :: pad width t ++ [' ', '│']) texts widths).flatten ++ ['\n']

theorem length_pad {width : Nat} {t : Text} (fits : t.length ≤ width) : (pad width t).length = width := by
  rw [pad, List.length_append, List.length_replicate, Nat.add_sub_cancel' fits]

def plainBars : Bars := ⟨'│', '│', '│'⟩

theorem written_cells {widths : List Nat} {texts : List Text} (filled : widths ≠ [])
    (fit : List.Forall₂ (fun t width => t.length ≤ width) texts widths) :
    Written widths (plainBars, padded widths texts) (cells widths texts) := by
  refine ⟨_, rfl, ?_⟩
  induction fit with
  | nil => exact absurd rfl filled
  | @cons t width texts widths fits rest ih =>
    have fits : (' ' :: pad width t ++ [' ']).length = width + 2 := by simp [length_pad fits]
    cases rest with
    | nil => simpa [padded, plainBars] using ruled_single '│' '│' '│' fits
    | cons =>
      have rest := (ih (List.cons_ne_nil _ _)).cons '│' (List.cons_ne_nil _ _) fits
      simpa [padded, plainBars] using rest

theorem exists_lines {widths : List Nat} {made : List (Bars × List Text)} {texts : List Text}
    (written : List.Forall₂ (Written widths) made texts) :
    ∃ lines : List Text, texts.flatten = lines.flatMap (· ++ ['\n']) ∧
      List.Forall₂ (fun made line => Ruled widths made.1 made.2 line) made lines := by
  induction written with
  | nil => exact ⟨[], rfl, .nil⟩
  | cons first _ ih =>
    obtain ⟨line, rfl, ruled⟩ := first
    obtain ⟨lines, whole, rest⟩ := ih
    exact ⟨line :: lines, by rw [List.flatten_cons, whole, List.flatMap_cons], .cons ruled rest⟩

/-! The widths of the columns. -/

section Widths

variable {widths : List Nat} {rows : List Row} {row : Row} {column width : Nat}

theorem length_widen (widths : List Nat) (row : Row) : (widen widths row).length = widths.length := by
  fun_induction widen widths row with
  | case1 width widths value row ih => simp [ih]
  | case2 => rfl

theorem length_foldl_widen (widths : List Nat) (rows : List Row) :
    (rows.foldl widen widths).length = widths.length := by
  induction rows generalizing widths with
  | nil => rfl
  | cons row rows ih => rw [List.foldl_cons, ih, length_widen]

theorem getElem?_widen (widths : List Nat) (row : Row) (column : Nat) :
    (widen widths row)[column]? = widths[column]?.map fun width =>
      match row[column]? with
      | some value => max width value.display.length
      | none => width := by
  fun_induction widen widths row generalizing column with
  | case1 width widths value row ih => cases column <;> simp [ih]
  | case2 widths row short =>
    cases widths with
    | nil => rfl
    | cons width widths =>
      cases row with
      | nil => simp
      | cons value row => exact absurd rfl (short _ _ _ _ rfl)

theorem isGreatest_foldl_widen (rows : List Row) (found : widths[column]? = some width) :
    ∃ top, (rows.foldl widen widths)[column]? = some top ∧
      IsGreatest {n | n = width ∨ ∃ row ∈ rows, ∃ value, row[column]? = some value ∧
        n = value.display.length} top := by
  induction rows generalizing widths width with
  | nil => exact ⟨width, found, by simp [IsGreatest, upperBounds]⟩
  | cons row rows ih =>
    have widened := getElem?_widen widths row column
    rw [found, Option.map_some] at widened
    cases here : row[column]? with
    | none =>
      rw [here] at widened
      obtain ⟨top, there, greatest⟩ := ih widened
      exact ⟨top, there, by simpa [here] using greatest⟩
    | some value =>
      rw [here] at widened
      obtain ⟨top, there, among, most⟩ := ih widened
      have wide : max width value.display.length ≤ top := most (.inl rfl)
      refine ⟨top, there, ?_, ?_⟩
      · rcases among with rfl | ⟨other, member, rest⟩
        · rcases max_choice width value.display.length with same | same
          · exact .inl same
          · exact .inr ⟨row, List.mem_cons_self, value, here, same⟩
        · exact .inr ⟨other, List.mem_cons_of_mem _ member, rest⟩
      · rintro n (rfl | ⟨other, member, held, inside, rfl⟩)
        · exact le_trans (le_max_left _ _) wide
        · rcases List.mem_cons.1 member with rfl | member
          · cases here.symm.trans inside
            exact le_trans (le_max_right _ _) wide
          · exact most (.inr ⟨other, member, held, inside, rfl⟩)

end Widths

theorem length_widths (r : ResultSet) : r.widths.length = r.columns.length := by
  rw [widths, length_foldl_widen, List.length_map]

theorem needsWidth_widths (r : ResultSet) {column width : Nat} (found : r.widths[column]? = some width) :
    r.NeedsWidth column width := by
  have inside := (List.getElem?_eq_some_iff.1 found).1
  rw [length_widths] at inside
  have named : (r.columns.map List.length)[column]? = some r.columns[column].length := by simp [inside]
  obtain ⟨top, there, greatest⟩ := isGreatest_foldl_widen r.rows named
  cases found.symm.trans there
  simpa [NeedsWidth, inside, eq_comm] using greatest

theorem widths_ne_nil (r : ResultSet) (named : r.columns ≠ []) : r.widths ≠ [] := by
  rw [← List.length_pos_iff, length_widths]
  exact List.length_pos_iff.2 named

theorem forall₂_fit {widths : List Nat} {texts : List Text} (length : texts.length = widths.length)
    (fits : ∀ (column width : Nat) (t : Text), widths[column]? = some width → texts[column]? = some t →
      t.length ≤ width) :
    List.Forall₂ (fun t width => t.length ≤ width) texts widths := by
  refine List.forall₂_iff_get.2 ⟨length, fun column first second => ?_⟩
  exact fits column _ _ (List.getElem?_eq_getElem second) (List.getElem?_eq_getElem first)

theorem written_header (r : ResultSet) (named : r.columns ≠ []) :
    Written r.widths (plainBars, padded r.widths r.columns) (cells r.widths r.columns) := by
  refine written_cells (r.widths_ne_nil named) (forall₂_fit r.length_widths.symm ?_)
  intro column width t wide here
  exact (r.needsWidth_widths wide).2 (.inl ⟨t, here, rfl⟩)

theorem written_row (r : ResultSet) (named : r.columns ≠ []) {row : Row} (member : row ∈ r.rows)
    (regular : row.length = r.columns.length) :
    Written r.widths (plainBars, padded r.widths (row.map Value.display))
      (cells r.widths (row.map Value.display)) := by
  refine written_cells (r.widths_ne_nil named) (forall₂_fit ?_ ?_)
  · rw [List.length_map, regular, length_widths]
  · intro column width t wide here
    obtain ⟨value, there, rfl⟩ := Option.map_eq_some_iff.1 (List.getElem?_map.symm.trans here)
    exact (r.needsWidth_widths wide).2 (.inr ⟨row, member, value, there, rfl⟩)

/-! Columns that are not too wide. -/

def Narrow (widths : List Nat) : Prop := ∀ width ∈ widths, width ≤ maxWidth

theorem cells?_narrow {widths : List Nat} (narrow : Narrow widths) (texts : List Text) :
    cells? widths texts = some (cells widths texts) := by
  have each : (texts.zip widths).mapM (fun cell => do
      return ' ' :: (← pad? cell.2 cell.1) ++ [' ', '│']) =
      some ((texts.zip widths).map fun cell => ' ' :: pad cell.2 cell.1 ++ [' ', '│']) := by
    rw [mapM_eq_some_iff, List.forall₂_map_right_iff, List.forall₂_same]
    rintro ⟨t, width⟩ member
    simp [pad?, pad, narrow width (List.of_mem_zip member).2]
  rw [cells?, each, List.map_zip_eq_zipWith]
  rfl

theorem narrow_of_cells? {widths : List Nat} {texts : List Text} {line : Text}
    (length : texts.length = widths.length) (printed : cells? widths texts = some line) :
    Narrow widths := by
  intro width member
  obtain ⟨made, each, _⟩ := Option.bind_eq_some_iff.1 printed
  obtain ⟨⟨t, _⟩, paired, rfl⟩ : ∃ entry ∈ texts.zip widths, entry.2 = width := by
    rw [← List.map_snd_zip length.ge] at member
    exact List.mem_map.1 member
  obtain ⟨cell, _, filled⟩ := exists_of_forall₂ (mapM_eq_some_iff.1 each) _ paired
  obtain ⟨padding, padded, _⟩ := Option.bind_eq_some_iff.1 filled
  by_contra wide
  simp [pad?, wide] at padded

def box (r : ResultSet) : Text :=
  border r.widths '┌' '┬' '┐' ++ cells r.widths r.columns ++ border r.widths '├' '┼' '┤' ++
    (r.rows.map fun row => cells r.widths (row.map Value.display)).flatten ++
    border r.widths '└' '┴' '┘' ++
    '\n' :: Text.ofNat r.rows.length ++ " row(s) returned".toList

theorem format?_eq_some_iff (r : ResultSet) (filled : r.rows ≠ []) {t : Text} :
    r.format? = some t ↔ Narrow r.widths ∧ t = r.box := by
  have whole (narrow : Narrow r.widths) : r.format? = some r.box := by
    have rows : (r.rows.mapM fun row => cells? r.widths (row.map Value.display)) =
        some (r.rows.map fun row => cells r.widths (row.map Value.display)) := by
      rw [mapM_eq_some_iff, List.forall₂_map_right_iff, List.forall₂_same]
      intro row _
      exact cells?_narrow narrow _
    simp only [format?, List.isEmpty_iff, filled, if_false, cells?_narrow narrow r.columns, rows]
    rfl
  constructor
  · intro printed
    have narrow : Narrow r.widths := by
      rw [format?, if_neg (by simpa using filled)] at printed
      obtain ⟨header, first, _⟩ := Option.bind_eq_some_iff.1 printed
      exact narrow_of_cells? r.length_widths.symm first
    exact ⟨narrow, Option.some.inj (printed.symm.trans (whole narrow))⟩
  · rintro ⟨narrow, rfl⟩
    exact whole narrow

/-- What each line of the box is made of. -/
def boxLines (r : ResultSet) : List (Bars × List Text) :=
  (⟨'┌', '┬', '┐'⟩, strokes r.widths) :: (plainBars, padded r.widths r.columns) ::
    (⟨'├', '┼', '┤'⟩, strokes r.widths) ::
    (r.rows.map fun row => (plainBars, padded r.widths (row.map Value.display))) ++
    [(⟨'└', '┴', '┘'⟩, strokes r.widths)]

theorem exists_boxLines (r : ResultSet) (named : r.columns ≠ [])
    (regular : ∀ row ∈ r.rows, row.length = r.columns.length) :
    ∃ lines : List Text,
      r.box = lines.flatMap (· ++ ['\n']) ++
        '\n' :: Text.ofNat r.rows.length ++ " row(s) returned".toList ∧
      List.Forall₂ (fun made line => Ruled r.widths made.1 made.2 line) r.boxLines lines := by
  have full := r.widths_ne_nil named
  have rows : List.Forall₂ (Written r.widths)
      (r.rows.map fun row => (plainBars, padded r.widths (row.map Value.display)))
      (r.rows.map fun row => cells r.widths (row.map Value.display)) := by
    rw [List.forall₂_map_left_iff, List.forall₂_map_right_iff, List.forall₂_same]
    exact fun row member => r.written_row named member (regular row member)
  have box : List.Forall₂ (Written r.widths) r.boxLines
      (border r.widths '┌' '┬' '┐' :: cells r.widths r.columns :: border r.widths '├' '┼' '┤' ::
        (r.rows.map fun row => cells r.widths (row.map Value.display)) ++
        [border r.widths '└' '┴' '┘']) := by
    refine .cons (written_border _ full) (.cons (r.written_header named) (.cons (written_border _ full) ?_))
    exact List.rel_append rows (.cons (written_border _ full) .nil)
  obtain ⟨lines, whole, ruled⟩ := exists_lines box
  refine ⟨lines, ?_, ruled⟩
  rw [← whole]
  simp [ResultSet.box]

/-- A result with rows and columns is printed exactly if no column needs to be wider than texts can be
filled up to. It is then a box whose lines are aligned, with the number of rows below it. Each line is
ruled by the same widths, which are those that the columns need. -/
theorem format_aligned (r : ResultSet) (filled : r.rows ≠ []) (named : r.columns ≠ [])
    (regular : ∀ row ∈ r.rows, row.length = r.columns.length) :
    r.widths.length = r.columns.length ∧
    (∀ column width, r.widths[column]? = some width → r.NeedsWidth column width) ∧
    ((∃ t, r.format? = some t) ↔ ∀ width ∈ r.widths, width ≤ maxWidth) ∧
    ∀ t, r.format? = some t → ∃ lines : List Text,
      t = lines.flatMap (· ++ ['\n']) ++
        '\n' :: Text.ofNat r.rows.length ++ " row(s) returned".toList ∧
      List.Forall₂ (fun made line => Ruled r.widths made.1 made.2 line) r.boxLines lines := by
  simp only [r.format?_eq_some_iff filled]
  refine ⟨r.length_widths, fun _ _ => r.needsWidth_widths, by simp [Narrow], ?_⟩
  rintro t ⟨_, rfl⟩
  exact r.exists_boxLines named regular

/-- A bar and the end of a line inside a value, and letters outside of ASCII. -/
def oddities : ResultSet where
  columns := ["id".toList, "größe".toList]
  rows := [[.integer 10, .text "a│\nb".toList], [.boolean true, .null]]

/-- The lines are ruled by widths that count characters, and the bar inside the value is none of theirs. -/
theorem format_aligned_oddities :
    (oddities.rows ≠ [] ∧ oddities.columns ≠ [] ∧
      ∀ row ∈ oddities.rows, row.length = oddities.columns.length) ∧
    ∃ lines : List Text,
      oddities.format? = some (lines.flatMap (· ++ ['\n']) ++ "\n2 row(s) returned".toList) ∧
      List.Forall₂ (fun made line => Ruled [4, 5] made.1 made.2 line) oddities.boxLines lines := by
  have filled : oddities.rows ≠ [] := by simp [oddities]
  have named : oddities.columns ≠ [] := by simp [oddities]
  have regular : ∀ row ∈ oddities.rows, row.length = oddities.columns.length := by simp [oddities]
  have widths : oddities.widths = [4, 5] := by decide
  obtain ⟨_, _, printed, aligned⟩ := format_aligned oddities filled named regular
  obtain ⟨t, format⟩ := printed.2 (by simp [widths, maxWidth])
  obtain ⟨lines, rfl, ruled⟩ := aligned t format
  rw [widths] at ruled
  rw [List.append_assoc] at format
  exact ⟨⟨filled, named, regular⟩, lines, format, ruled⟩

end FilterQuery.ResultSet
