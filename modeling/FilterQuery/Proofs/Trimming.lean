import Mathlib.Data.List.TakeWhile
import FilterQuery.Text.Basic

/-!
Runs of characters of one kind, and the blanks around a text. Trimming takes away the blanks at both ends
of a text and nothing else.
-/

namespace FilterQuery.Text

theorem takeWhile_append_stop {p : Char → Bool} {t : Text} (rest : Text) (all : ∀ c ∈ t, p c = true)
    (stops : rest.head?.any p = false) :
    (t ++ rest).takeWhile p = t ∧ (t ++ rest).dropWhile p = rest := by
  rw [List.takeWhile_append_of_pos all, List.dropWhile_append_of_pos all]
  cases rest with
  | nil => simp
  | cons c rest =>
    have stop : p c = false := by simpa using stops
    simp [stop]

theorem head?_dropWhile (p : Char → Bool) (t : Text) : (t.dropWhile p).head?.any p = false := by
  have stops := List.head?_dropWhile_not p t
  cases found : (t.dropWhile p).head? with
  | none => rfl
  | some c => simpa [found] using stops

def Blank (t : Text) : Prop := ∀ c ∈ t, isBlank c = true

theorem blank_nil : Blank [] := by simp [Blank]

theorem blank_space : Blank [' '] := List.forall_mem_singleton.2 rfl

theorem blank_cons {c : Char} {t : Text} : Blank (c :: t) ↔ isBlank c = true ∧ Blank t :=
  List.forall_mem_cons

theorem Blank.append {s t : Text} (first : Blank s) (second : Blank t) : Blank (s ++ t) :=
  List.forall_mem_append.2 ⟨first, second⟩

/-- The text begins and ends with no blank. -/
structure Tight (t : Text) : Prop where
  first : t.head?.any isBlank = false
  last : t.getLast?.any isBlank = false

theorem tight_of_solid {t : Text} (solid : ∀ c ∈ t, isBlank c = false) : Tight t := by
  have outside {found : Option Char} (among : ∀ c ∈ found, c ∈ t) : found.any isBlank = false := by
    cases found with
    | none => rfl
    | some c => exact solid c (among c rfl)
  exact ⟨outside fun _ => List.mem_of_mem_head?, outside fun _ => List.mem_of_mem_getLast?⟩

theorem trimStart_blank {before : Text} (blank : Blank before) (t : Text) :
    trimStart (before ++ t) = trimStart t :=
  List.dropWhile_append_of_pos blank

theorem trimStart_eq_self {t : Text} (first : t.head?.any isBlank = false) : trimStart t = t := by
  cases t with
  | nil => rfl
  | cons c t =>
    have solid : isBlank c = false := by simpa using first
    rw [trimStart, List.dropWhile_cons_of_neg (by simp [solid])]

theorem exists_trimStart (t : Text) : ∃ before, Blank before ∧ t = before ++ trimStart t :=
  ⟨t.takeWhile isBlank, fun _ member => List.mem_takeWhile_imp member,
    List.takeWhile_append_dropWhile.symm⟩

theorem trimEnd_blank (t : Text) {after : Text} (blank : Blank after) :
    trimEnd (t ++ after) = trimEnd t := by
  have turned : Blank after.reverse := fun c member => blank c (List.mem_reverse.1 member)
  rw [trimEnd, List.reverse_append, List.dropWhile_append_of_pos turned, trimEnd]

theorem trimEnd_eq_self {t : Text} (last : t.getLast?.any isBlank = false) : trimEnd t = t := by
  rw [← List.head?_reverse] at last
  have kept : t.reverse.dropWhile isBlank = t.reverse := trimStart_eq_self last
  rw [trimEnd, kept, List.reverse_reverse]

theorem exists_trimEnd (t : Text) : ∃ after, Blank after ∧ t = trimEnd t ++ after := by
  obtain ⟨before, blank, whole⟩ := exists_trimStart t.reverse
  refine ⟨before.reverse, fun c member => blank c (List.mem_reverse.1 member), ?_⟩
  rw [← List.reverse_inj, whole]
  simp [trimEnd, trimStart]

theorem exists_trim (t : Text) :
    ∃ before after, Blank before ∧ Blank after ∧ t = before ++ trim t ++ after := by
  obtain ⟨before, first, whole⟩ := exists_trimStart t
  obtain ⟨after, last, rest⟩ := exists_trimEnd (trimStart t)
  refine ⟨before, after, first, last, ?_⟩
  rw [List.append_assoc, trim, ← rest]
  exact whole

theorem trim_between {before t after : Text} (first : Blank before) (tight : Tight t)
    (last : Blank after) : trim (before ++ t ++ after) = t := by
  cases t with
  | nil =>
    have blank : Blank (before ++ after) := first.append last
    rw [List.append_nil, ← List.append_nil (before ++ after), trim, trimStart_blank blank]
    rfl
  | cons c t =>
    have kept : trimStart (c :: t ++ after) = c :: t ++ after := trimStart_eq_self tight.first
    rw [List.append_assoc, trim, trimStart_blank first, kept, trimEnd_blank _ last,
      trimEnd_eq_self tight.last]

theorem trim_eq_self {t : Text} (solid : ∀ c ∈ t, isBlank c = false) : trim t = t := by
  simpa using trim_between blank_nil (tight_of_solid solid) blank_nil

theorem trim_eq_nil_iff {t : Text} : trim t = [] ↔ Blank t := by
  constructor
  · intro empty
    obtain ⟨before, after, first, last, whole⟩ := exists_trim t
    rw [whole, empty, List.append_nil]
    exact first.append last
  · intro blank
    have tight : Tight [] := ⟨rfl, rfl⟩
    simpa using trim_between blank tight blank_nil

end FilterQuery.Text
