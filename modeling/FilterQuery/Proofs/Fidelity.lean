import FilterQuery.Proofs.Positions
import FilterQuery.Proofs.Spacing

/-!
Normalizing takes characters out, rewrites the word `in`, and does nothing else. What is left stands in
its order, each character with the position at which it was typed. The legacy mode leaves nothing behind
that it would change: of a text that has been through it, it makes the same text again.
-/

namespace FilterQuery.Filter

open Text (isBlank)

/-- The characters that the mode takes out: spaces, or blanks outside strings. -/
def Normalization.Drops : Normalization → Text → Nat → Char → Prop
  | legacy, _, _, c => c = ' '
  | strict, t, i, c => isBlank c = true ∧ inString t i = false

def BeginsWord (word : Nat → Nat → Prop) (offsets : List Nat) (place : Nat) : Prop :=
  ∃ i j, offsets[place]? = some i ∧ offsets[place + 1]? = some j ∧ word i j

/-- What a source shows at a place: a word as an arrow, and all else as it was typed. -/
inductive Shown (word : Nat → Nat → Prop) (t : Text) (offsets : List Nat) : Nat → Char → Prop where
  | first {place : Nat} (begins : BeginsWord word offsets place) : Shown word t offsets place '-'
  | second {place : Nat} (begins : BeginsWord word offsets place) :
      Shown word t offsets (place + 1) '>'
  | typed {place i : Nat} {c : Char} (here : offsets[place]? = some i) (found : t[i]? = some c)
      (plain : ¬ BeginsWord word offsets place)
      (apart : ∀ before, place = before + 1 → ¬ BeginsWord word offsets before) :
      Shown word t offsets place c

/-- The source is the typed text without the characters that the mode takes out. -/
structure Source.Faithful (mode : Normalization) (lists : Bool) (t : Text) (source : Source) :
    Prop where
  stop : source.stop = t.length
  length : source.chars.length = source.offsets.length
  increasing : source.offsets.Pairwise (· < ·)
  inside : ∀ i ∈ source.offsets, i < t.length
  shown : ∀ place c, source.chars[place]? = some c →
    Shown (IsWord mode lists t) t source.offsets place c
  dropped : ∀ i c, t[i]? = some c → (i ∉ source.offsets ↔ mode.Drops t i c)

/-! Place by place. -/

section Places

variable {word : Nat → Nat → Prop} {t : Text} {offsets : List Nat} {place i : Nat} {c : Char}

theorem Shown.cons (shown : Shown word t offsets place c)
    (apart : place = 0 → ¬ BeginsWord word (i :: offsets) 0) :
    Shown word t (i :: offsets) (place + 1) c := by
  cases shown with
  | first begins => exact .first begins
  | second begins => exact .second begins
  | typed here found plain before =>
    refine .typed here found plain ?_
    rintro _ ⟨⟩
    cases place with
    | zero => exact apart rfl
    | succ place => exact before place rfl

theorem Edited.shown {kept : List (Char × Nat)} (edited : Edited word t kept)
    (single : ∀ {i j l}, word i j → ¬ word j l) (found : (kept.map Prod.fst)[place]? = some c) :
    Shown word t (kept.map Prod.snd) place c := by
  induction edited generalizing place with
  | nil => simp at found
  | @typed d index kept here plain rest ih =>
    have apart : ¬ BeginsWord word (index :: kept.map Prod.snd) 0 := by
      rintro ⟨_, j, ⟨⟩, next, isWord⟩
      cases kept with
      | nil => simp at next
      | cons entry kept =>
        cases next
        exact plain entry rfl isWord
    cases place with
    | zero =>
      cases found
      exact .typed rfl here apart nofun
    | succ place => exact (ih found).cons fun _ => apart
  | @arrow i j kept isWord rest ih =>
    have begins : BeginsWord word (i :: j :: kept.map Prod.snd) 0 := ⟨i, j, rfl, rfl, isWord⟩
    match place with
    | 0 =>
      cases found
      exact .first begins
    | 1 =>
      cases found
      exact .second begins
    | place + 2 =>
      refine ((ih found).cons ?_).cons nofun
      rintro _ ⟨_, l, ⟨⟩, _, other⟩
      exact single isWord other

end Places

theorem IsWord.single {mode : Normalization} {lists : Bool} {t : Text} {i j l : Nat}
    (isWord : IsWord mode lists t i j) : ¬ IsWord mode lists t j l := by
  intro other
  obtain ⟨_, n, _, ends, _, spelled⟩ := isWord.letters
  obtain ⟨_, _, begins, _, _, again⟩ := other.letters
  cases ends.symm.trans begins
  cases mode with
  | legacy =>
    obtain ⟨_, rfl⟩ := spelled
    exact absurd again.1 (by decide)
  | strict =>
    rcases spelled.2 with rfl | rfl <;> exact absurd again.1 (by decide)

theorem normalize_edited (mode : Normalization) (lists : Bool) (t : Text) :
    Edited (IsWord mode lists t) t (normalize mode lists t).kept := by
  cases mode with
  | legacy => exact normalizeLegacy_edited lists t
  | strict => exact normalizeStrict_edited lists t

theorem Source.Follows.inside {word : Char → Char → Prop} {t : Text} {source : Source}
    (follows : source.Follows word t) {i : Nat} (member : i ∈ source.offsets) : i < t.length := by
  obtain ⟨place, here⟩ := List.mem_iff_getElem?.1 member
  have within := (List.getElem?_eq_some_iff.1 here).1
  rw [follows.length] at within
  obtain ⟨c, typed⟩ := follows.exists_typed within
  rw [Source.position, List.getD_eq_getElem?_getD, here] at typed
  exact (List.getElem?_eq_some_iff.1 typed).1

theorem Source.Follows.maps_kept {word : Char → Char → Prop} {t : Text} {source : Source}
    (follows : source.Follows word t) :
    source.kept.map Prod.fst = source.chars ∧ source.kept.map Prod.snd = source.offsets :=
  ⟨List.map_fst_zip follows.length.ge, List.map_snd_zip follows.length.le⟩

theorem mem_offsets_iff (mode : Normalization) (lists : Bool) {t : Text} {i : Nat} {c : Char}
    (found : t[i]? = some c) : i ∈ (normalize mode lists t).offsets ↔ ¬ mode.Drops t i c := by
  cases mode with
  | strict =>
    have keeps : Keeps t 0 (strictFrom lists 0 {} none t) := keeps_normalizeStrict
    rw [normalize, normalizeStrict, mem_kept_iff keeps (Nat.zero_le i) found, Normalization.Drops]
    cases inString t i <;> simp
  | legacy =>
    simp only [normalize, normalizeLegacy, located, Normalization.Drops, List.mem_map, List.mem_filter]
    constructor
    · rintro ⟨⟨d, i⟩, ⟨member, solid⟩, rfl⟩
      cases (List.mk_mem_zipIdx_iff_getElem?.1 member).symm.trans found
      simpa using solid
    · intro solid
      exact ⟨(c, i), ⟨List.mk_mem_zipIdx_iff_getElem?.2 found, by simpa using solid⟩, rfl⟩

/-! What the legacy mode leaves. -/

section Settled

variable {t : Text} {lists : Bool}

theorem mem_arrows {c : Char} (member : c ∈ arrows t) : c ∈ t ∨ c = '-' ∨ c = '>' := by
  fun_induction arrows t with
  | case1 rest ih => grind
  | case2 d rest other ih => grind
  | case3 => cases member

theorem head?_arrows (found : (arrows t).head? = some 'N') : t.head? = some 'N' := by
  fun_cases arrows t with
  | case1 rest => simp [arrows] at found
  | case2 c rest other => simpa [arrows] using found
  | case3 => exact found

theorem arrowFree_arrows (t : Text) : ArrowFree (arrows t) := by
  fun_induction arrows t with
  | case1 rest ih => exact .cons (by decide) (.cons (by decide) ih)
  | case2 c rest other ih =>
    refine List.IsChain.cons ih fun d found begins same => ?_
    subst begins same
    obtain ⟨_, rfl⟩ := List.head?_eq_some_iff.1 (head?_arrows found)
    exact other _ rfl rfl
  | case3 => exact .nil

theorem normalizeLegacy_eq_self (solid : ' ' ∉ t) (free : lists = true → ArrowFree t) :
    normalizeLegacy lists t = ⟨t, List.range t.length, t.length⟩ := by
  have all : (located t).filter (·.1 ≠ ' ') = located t := by
    refine List.filter_eq_self.2 fun entry member => decide_eq_true ?_
    rintro space
    exact solid (space ▸ List.fst_mem_of_mem_zipIdx member)
  have chars : (if lists then arrows t else t) = t := by
    split
    case isTrue allowed => exact arrows_eq_self (free allowed)
    case isFalse => rfl
  rw [normalizeLegacy, all, located, List.zipIdx_map_fst, List.zipIdx_map_snd, chars,
    List.range_eq_range']

end Settled

theorem normalizeLegacy_settled (lists : Bool) (t : Text) :
    ' ' ∉ (normalizeLegacy lists t).chars ∧
      (lists = true → ArrowFree (normalizeLegacy lists t).chars) := by
  have solid : ' ' ∉ t.filter (· ≠ ' ') := by simp
  rw [normalizeLegacy_chars]
  cases lists with
  | true =>
    refine ⟨fun member => ?_, fun _ => arrowFree_arrows _⟩
    rcases mem_arrows member with member | sign | sign
    · exact solid member
    · cases sign
    · cases sign
  | false => exact ⟨solid, nofun⟩

/-- In both modes the source is the typed text without what the mode takes out, with the typed position of
each character. In the legacy mode it has no spaces and no words left, and is its own source. -/
theorem normalize_faithful (mode : Normalization) (lists : Bool) (t : Text) :
    (normalize mode lists t).Faithful mode lists t ∧
    ' ' ∉ (normalize .legacy lists t).chars ∧
    (lists = true → ArrowFree (normalize .legacy lists t).chars) ∧
    normalize .legacy lists (normalize .legacy lists t).chars =
      ⟨(normalize .legacy lists t).chars, List.range (normalize .legacy lists t).chars.length,
        (normalize .legacy lists t).chars.length⟩ := by
  have follows := normalize_follows mode lists t
  obtain ⟨solid, free⟩ := normalizeLegacy_settled lists t
  refine ⟨?_, solid, free, normalizeLegacy_eq_self solid free⟩
  constructor
  case stop => exact follows.stop
  case length => exact follows.length.symm
  case increasing => exact follows.increasing
  case inside => exact fun i member => follows.inside member
  case shown =>
    intro place c found
    rw [← follows.maps_kept.1] at found
    rw [← follows.maps_kept.2]
    exact (normalize_edited mode lists t).shown IsWord.single found
  case dropped =>
    intro i c found
    rw [mem_offsets_iff mode lists found, not_not]

/-- A word behind a string that has the same letters: the strict mode leaves the string alone, and the
legacy mode leaves no word in it. -/
theorem normalize_faithful_string :
    normalize .legacy true "a IN ('IN')".toList = ⟨"a->('->')".toList, [0, 2, 3, 5, 6, 7, 8, 9, 10], 11⟩ ∧
    normalize .strict true "a IN ('IN')".toList = ⟨"a->('IN')".toList, [0, 2, 3, 5, 6, 7, 8, 9, 10], 11⟩ ∧
    (normalize .strict true "a IN ('IN')".toList).Faithful .strict true "a IN ('IN')".toList ∧
    ArrowFree "a->('->')".toList := by
  obtain ⟨strict, _, free, _⟩ := normalize_faithful .strict true "a IN ('IN')".toList
  have legacy : normalize .legacy true "a IN ('IN')".toList =
      ⟨"a->('->')".toList, [0, 2, 3, 5, 6, 7, 8, 9, 10], 11⟩ := by decide
  rw [legacy] at free
  exact ⟨legacy, by decide, strict, free rfl⟩

end FilterQuery.Filter
