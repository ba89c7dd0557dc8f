import FilterQuery.Proofs.Marks

/-!
Where the characters of a source come from. Both modes leave characters out and keep the others in their
order, each with the position at which it was typed; where lists are allowed, an arrow may stand in the
place of two letters.
-/

namespace FilterQuery.Filter

open Text (Quoting isBlank eq_or_eq_of_toLower)

def Normalization.Spells : Normalization → Char → Char → Prop
  | legacy, first, second => first = 'I' ∧ second = 'N'
  | strict, first, second => (first = 'i' ∨ first = 'I') ∧ (second = 'n' ∨ second = 'N')

def Rewritable (mode : Normalization) (lists : Bool) (first second : Char) : Prop :=
  lists = true ∧ mode.Spells first second

/-- Each character is the one that was typed at its position, except that two letters may have been
rewritten to an arrow. -/
inductive Traced (word : Char → Char → Prop) (t : Text) : List (Char × Nat) → Prop where
  | nil : Traced word t []
  | typed {c : Char} {index : Nat} {kept : List (Char × Nat)} (found : t[index]? = some c)
      (rest : Traced word t kept) : Traced word t ((c, index) :: kept)
  | arrow {first second : Char} {i j : Nat} {kept : List (Char × Nat)} (begins : t[i]? = some first)
      (ends : t[j]? = some second) (isWord : word first second) (rest : Traced word t kept) :
      Traced word t (('-', i) :: ('>', j) :: kept)

def Source.kept (source : Source) : List (Char × Nat) := source.chars.zip source.offsets

/-- The source has been made of the typed text. -/
structure Source.Follows (word : Char → Char → Prop) (t : Text) (source : Source) : Prop where
  stop : source.stop = t.length
  length : source.offsets.length = source.chars.length
  increasing : source.offsets.Pairwise (· < ·)
  traced : Traced word t source.kept

/-- Where the strict mode takes two letters for a word: outside strings, one directly behind the other,
behind a blank and before a blank or an opening parenthesis. -/
structure StandsAlone (t : Text) (i j : Nat) : Prop where
  outside : inString t i = false
  adjacent : j = i + 1
  before : ∃ h b, i = h + 1 ∧ t[h]? = some b ∧ isBlank b = true
  behind : ∃ a, t[j + 1]? = some a ∧ (isBlank a = true ∨ a = '(')

/-- The mode rewrites the letters typed at the two positions, provided that nothing is kept between them. -/
structure IsWord (mode : Normalization) (lists : Bool) (t : Text) (i j : Nat) : Prop where
  letters : ∃ first second, t[i]? = some first ∧ t[j]? = some second ∧
    Rewritable mode lists first second
  alone : mode = .strict → StandsAlone t i j

/-- Each character is the one that was typed at its position, except where a word begins: its letters are
rewritten to an arrow. -/
inductive Edited (word : Nat → Nat → Prop) (t : Text) : List (Char × Nat) → Prop where
  | nil : Edited word t []
  | typed {c : Char} {index : Nat} {kept : List (Char × Nat)} (found : t[index]? = some c)
      (plain : ∀ next ∈ kept.head?, ¬ word index next.2) (rest : Edited word t kept) :
      Edited word t ((c, index) :: kept)
  | arrow {i j : Nat} {kept : List (Char × Nat)} (isWord : word i j) (rest : Edited word t kept) :
      Edited word t (('-', i) :: ('>', j) :: kept)

theorem Edited.traced {mode : Normalization} {lists : Bool} {t : Text} {kept : List (Char × Nat)}
    (edited : Edited (IsWord mode lists t) t kept) : Traced (Rewritable mode lists) t kept := by
  induction edited with
  | nil => exact .nil
  | typed found _ _ ih => exact .typed found ih
  | arrow isWord _ ih =>
    obtain ⟨first, second, begins, ends, spelled⟩ := isWord.letters
    exact .arrow begins ends spelled ih

section Legacy

variable {t : Text} {kept : List (Char × Nat)}

theorem normalizeLegacy_chars (lists : Bool) (t : Text) :
    (normalizeLegacy lists t).chars =
      if lists then arrows (t.filter (· ≠ ' ')) else t.filter (· ≠ ' ') := by
  have chars : ((located t).filter fun c => c.1 ≠ ' ').map Prod.fst = t.filter (· ≠ ' ') := by
    rw [← List.zipIdx_map_fst 0 t, List.filter_map, List.zipIdx_map_fst]
    rfl
  rw [normalizeLegacy, chars]

theorem length_arrows (t : Text) : (arrows t).length = t.length := by
  fun_induction arrows t with
  | case1 rest ih => simp [ih]
  | case2 c rest other ih => simp [ih]
  | case3 => rfl

theorem edited_of_typed {mode : Normalization} (each : ∀ entry ∈ kept, t[entry.2]? = some entry.1) :
    Edited (IsWord mode false t) t kept := by
  induction kept with
  | nil => exact .nil
  | cons entry kept ih =>
    rw [List.forall_mem_cons] at each
    refine .typed each.1 ?_ (ih each.2)
    rintro next _ ⟨⟨_, _, _, _, allowed, _⟩, _⟩
    cases allowed

theorem edited_arrows (each : ∀ entry ∈ kept, t[entry.2]? = some entry.1) :
    Edited (IsWord .legacy true t) t ((arrows (kept.map Prod.fst)).zip (kept.map Prod.snd)) := by
  generalize same : kept.map Prod.fst = chars
  fun_induction arrows chars generalizing kept with
  | case1 rest ih =>
    obtain ⟨⟨_, i⟩, later, rfl, rfl, tail⟩ := List.map_eq_cons_iff.1 same
    obtain ⟨⟨_, j⟩, others, rfl, rfl, rest⟩ := List.map_eq_cons_iff.1 tail
    rw [List.forall_mem_cons, List.forall_mem_cons] at each
    exact .arrow ⟨⟨_, _, each.1, each.2.1, rfl, rfl, rfl⟩, nofun⟩ (ih each.2.2 rest)
  | case2 c rest other ih =>
    obtain ⟨⟨_, i⟩, later, rfl, rfl, tail⟩ := List.map_eq_cons_iff.1 same
    rw [List.forall_mem_cons] at each
    refine .typed each.1 ?_ (ih each.2 tail)
    -- The next position is that of the next character, which would have to be an `N`.
    rintro ⟨_, j⟩ next ⟨⟨_, _, begins, ends, _, rfl, rfl⟩, _⟩
    cases later with
    | nil => simp at next
    | cons entry later =>
      obtain rfl : j = entry.2 := by
        cases shown : arrows rest with
        | nil => simp [shown] at next
        | cons => simp_all
      have first := each.1.symm.trans begins
      have second := (each.2 entry List.mem_cons_self).symm.trans ends
      exact other _ (Option.some.inj first) (by rw [← tail, List.map_cons, Option.some.inj second])
  | case3 => exact .nil

theorem typed_located {entry : Char × Nat} (member : entry ∈ (located t).filter (·.1 ≠ ' ')) :
    t[entry.2]? = some entry.1 :=
  List.mk_mem_zipIdx_iff_getElem?.1 (List.mem_filter.1 member).1

theorem normalizeLegacy_edited (lists : Bool) (t : Text) :
    Edited (IsWord .legacy lists t) t (normalizeLegacy lists t).kept := by
  cases lists with
  | true => exact edited_arrows fun entry => typed_located
  | false =>
    have kept : (normalizeLegacy false t).kept = (located t).filter (·.1 ≠ ' ') :=
      (List.zip_of_prod rfl rfl).symm
    rw [kept]
    exact edited_of_typed fun entry => typed_located

theorem normalizeLegacy_follows (lists : Bool) (t : Text) :
    (normalizeLegacy lists t).Follows (Rewritable .legacy lists) t := by
  constructor
  case stop => rfl
  case length =>
    simp only [normalizeLegacy]
    split <;> simp [length_arrows]
  case increasing =>
    -- Without the spaces, the positions are still those of the text in their order.
    have all : ((located t).map Prod.snd).Pairwise (· < ·) := by
      rw [located, List.zipIdx_map_snd]
      exact List.pairwise_lt_range' 1
    exact all.sublist (List.filter_sublist.map Prod.snd)
  case traced => exact (normalizeLegacy_edited lists t).traced

end Legacy

section Strict

variable {t : Text} {index : Nat} {kept : List (Char × Nat)} {c : Char} {rest : Text} {before : Option Char}

theorem getLast?_take_succ (found : t[index]? = some c) : (t.take (index + 1)).getLast? = some c := by
  rw [List.take_add_one, found]
  simp

theorem startsIn_iff_isWord (lists : Bool) (remaining : t.drop index = c :: rest)
    (last : before = (t.take index).getLast?) (outside : inString t index = false) :
    (lists && startsIn before c rest) = true ↔ IsWord .strict lists t index (index + 1) := by
  obtain ⟨found, beyond⟩ := drop_eq_cons remaining
  rw [Bool.and_eq_true]
  constructor
  · rintro ⟨allowed, starts⟩
    obtain ⟨⟨b, here, blank⟩, first, n, after, rest, rfl, second, bounded⟩ := startsIn_inv starts
    obtain ⟨next, beyond⟩ := drop_eq_cons beyond
    have spells : Normalization.strict.Spells c n :=
      ⟨eq_or_eq_of_toLower rfl first, eq_or_eq_of_toLower rfl second⟩
    refine ⟨⟨c, n, found, next, allowed, spells⟩, fun _ => ⟨outside, rfl, ?_, ?_⟩⟩
    · cases index with
      | zero => simp [here] at last
      | succ h =>
        obtain ⟨d, typed⟩ : ∃ d, t[h]? = some d := by
          have inside := (List.getElem?_eq_some_iff.1 found).1
          exact ⟨t[h], List.getElem?_eq_getElem (by omega)⟩
        rw [here, getLast?_take_succ typed] at last
        cases last
        exact ⟨h, b, rfl, typed, blank⟩
    · exact ⟨after, (drop_eq_cons beyond).1, bounded⟩
  · rintro ⟨⟨first, second, begins, ends, allowed, upper, lower⟩, alone⟩
    obtain ⟨_, _, ⟨h, b, rfl, typed, blank⟩, ⟨after, follows, bounded⟩⟩ := alone rfl
    refine ⟨allowed, ?_⟩
    cases begins.symm.trans found
    rw [List.drop_eq_getElem?_toList_append, ends, List.drop_eq_getElem?_toList_append, follows] at beyond
    subst last beyond
    rw [getLast?_take_succ typed]
    have first : c.toLower = 'i' := by rcases upper with rfl | rfl <;> rfl
    have second : second.toLower = 'n' := by rcases lower with rfl | rfl <;> rfl
    simp [startsIn, blank, first, second, bounded]

theorem edited_strictFrom {lists : Bool} {q : Quoting} (remaining : t.drop index = rest)
    (state : readerAt t index = q) (last : before = (t.take index).getLast?) :
    Edited (IsWord .strict lists t) t (strictFrom lists index q before rest) := by
  -- A string is no place for a word, and elsewhere the look around the letter decides.
  have held {i : Nat} {c : Char} {next : Char × Nat} (found : t[i]? = some c)
      (inside : (readerAt t i).holds c = true) : ¬ IsWord .strict lists t i next.2 := by
    rintro ⟨_, alone⟩
    have outside := (alone rfl).outside
    rw [inString_eq found, inside] at outside
    cases outside
  fun_induction strictFrom lists index q before rest with
  | case1 => exact .nil
  | case2 => exact .nil
  | case3 index q before c stays => exact .typed (drop_eq_cons remaining).1 (by simp) .nil
  | case4 index q before c n rest inside ih =>
    obtain ⟨found, remaining⟩ := drop_eq_cons remaining
    refine .typed found (fun _ _ => held found (by rw [state, inside])) (ih remaining ?_ ?_)
    · rw [readerAt_succ found, state]
    · rw [getLast?_take_succ found]
  | case5 index q before c n rest free blank ih =>
    obtain ⟨found, remaining⟩ := drop_eq_cons remaining
    exact ih remaining (by rw [readerAt_succ found, state]) (getLast?_take_succ found).symm
  | case6 index q before c n rest free solid starts ih =>
    obtain ⟨found, beyond⟩ := drop_eq_cons remaining
    obtain ⟨next, beyond⟩ := drop_eq_cons beyond
    have outside : inString t index = false := by
      rw [inString_eq found, state]
      simpa using free
    refine .arrow ((startsIn_iff_isWord lists remaining last outside).1 starts) (ih beyond ?_ ?_)
    · rw [readerAt_succ next, readerAt_succ found, state]
    · rw [getLast?_take_succ next]
  | case7 index q before c n rest free solid ordinary ih =>
    obtain ⟨found, beyond⟩ := drop_eq_cons remaining
    have outside : inString t index = false := by
      rw [inString_eq found, state]
      simpa using free
    refine .typed found ?_ (ih beyond ?_ ?_)
    · intro next _ isWord
      have adjacent := (isWord.alone rfl).adjacent
      rw [adjacent] at isWord
      exact ordinary ((startsIn_iff_isWord lists remaining last outside).2 isWord)
    · rw [readerAt_succ found, state]
    · rw [getLast?_take_succ found]

theorem normalizeStrict_edited (lists : Bool) (t : Text) :
    Edited (IsWord .strict lists t) t (normalizeStrict lists t).kept := by
  have kept : (normalizeStrict lists t).kept = strictFrom lists 0 {} none t :=
    (List.zip_of_prod rfl rfl).symm
  rw [kept]
  exact edited_strictFrom rfl rfl rfl

theorem Keeps.increasing (keeps : Keeps t index kept) : (kept.map Prod.snd).Pairwise (· < ·) := by
  induction keeps with
  | done => exact .nil
  | drop _ _ _ _ ih => exact ih
  | keep _ _ rest ih | rewrite _ _ _ _ rest ih =>
    apply List.Pairwise.cons
    · intro later member
      exact le_of_mem_kept rest member
    · exact ih

theorem normalizeStrict_follows (lists : Bool) (t : Text) :
    (normalizeStrict lists t).Follows (Rewritable .strict lists) t := by
  constructor
  case stop => rfl
  case length => simp [normalizeStrict]
  case increasing => exact keeps_normalizeStrict.increasing
  case traced => exact (normalizeStrict_edited lists t).traced

end Strict

theorem normalize_follows (mode : Normalization) (lists : Bool) (t : Text) :
    (normalize mode lists t).Follows (Rewritable mode lists) t := by
  cases mode with
  | legacy => exact normalizeLegacy_follows lists t
  | strict => exact normalizeStrict_follows lists t

/-! What stands at a position. -/

def Source.RewrittenAt (word : Char → Char → Prop) (t : Text) (source : Source) (position : Nat) : Prop :=
  ∃ k first second next, source.kept[k]? = some ('-', position) ∧
    source.kept[k + 1]? = some ('>', next) ∧ t[position]? = some first ∧ t[next]? = some second ∧
    word first second

theorem Traced.cases {word : Char → Char → Prop} {t : Text} {kept : List (Char × Nat)} {k : Nat}
    {c : Char} {position : Nat} (traced : Traced word t kept) (found : kept[k]? = some (c, position)) :
    t[position]? = some c ∨
    (∃ first second next, c = '-' ∧ kept[k + 1]? = some ('>', next) ∧ t[position]? = some first ∧
      t[next]? = some second ∧ word first second) ∨
    ∃ before begins second, c = '>' ∧ k = before + 1 ∧ kept[before]? = some ('-', begins) ∧
      t[position]? = some second := by
  induction traced generalizing k with
  | nil => cases found
  | typed here rest ih =>
    cases k with
    | zero =>
      cases found
      exact .inl here
    | succ k =>
      rcases ih found with typed | first | ⟨before, begins, second, sign, rfl, there⟩
      · exact .inl typed
      · exact .inr (.inl first)
      · exact .inr (.inr ⟨before + 1, begins, second, sign, rfl, there⟩)
  | arrow begins ends isWord rest ih =>
    -- The two characters of the arrow come first, and what is said of the others is shifted by two.
    match k with
    | 0 =>
      cases found
      exact .inr (.inl ⟨_, _, _, rfl, rfl, begins, ends, isWord⟩)
    | 1 =>
      cases found
      exact .inr (.inr ⟨0, _, _, rfl, rfl, rfl, ends⟩)
    | k + 2 =>
      rcases ih found with typed | first | ⟨before, begins, second, sign, rfl, there⟩
      · exact .inl typed
      · exact .inr (.inl first)
      · exact .inr (.inr ⟨before + 2, begins, second, sign, rfl, there⟩)

end FilterQuery.Filter
