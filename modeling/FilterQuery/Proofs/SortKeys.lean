import FilterQuery.Proofs.Letters
import FilterQuery.Proofs.Pieces
import FilterQuery.Proofs.Traversal
import FilterQuery.Proofs.Trimming
import FilterQuery.Table.Order

/-!
Sort keys as text, against their grammar. An entry is a name, and behind blanks possibly a direction;
entries are divided by commas, and `ORDER BY` may stand before them. Exactly the texts of this grammar are
read, and every list of keys is read back from its printed form. Names and keywords do not get in each
other's way: a name goes as far as it can, and a keyword is one only where a blank divides it from a name.
-/

namespace FilterQuery.SortKey

open Text (isBlank Blank Pieces isDigit_iff isAlpha_toLower isAlpha_of_toLower isBlank_of_isAlpha
  takeWhile_append_stop pieces_iff blank_nil blank_space blank_cons trim_between tight_of_solid)

/-! The grammar. Case does not count in it: besides the two forms of each letter, the long s is an `s` and
the kelvin sign is a `k`. -/

/-- The character is a form of the small letter. -/
def Folds (c letter : Char) : Prop :=
  c.toLower = letter ∨ c = 'ſ' ∧ letter = 's' ∨ c = 'K' ∧ letter = 'k'

def Spells (t word : Text) : Prop := List.Forall₂ Folds t word

def IsNameStart (c : Char) : Prop := c = '_' ∨ ∃ letter, letter.isAlpha = true ∧ Folds c letter

def IsNamePart (c : Char) : Prop := IsNameStart c ∨ c.isDigit = true ∨ c = '.'

structure IsIdentifier (t : Text) : Prop where
  begins : ∃ c rest, t = c :: rest ∧ IsNameStart c
  letters : ∀ c ∈ t, IsNamePart c

def IsDirection (t : Text) : Prop := Spells t "asc".toList ∨ Spells t "desc".toList

def directionOf (word : Text) : Direction :=
  if Text.sameIgnoringCase word "desc".toList then .descending else .ascending

/-- The text between two commas stands for the key. -/
inductive Entry : Text → SortKey → Prop where
  | plain {before name after : Text} (first : Blank before) (identifier : IsIdentifier name)
      (last : Blank after) : Entry (before ++ (name ++ after)) ⟨name, .ascending⟩
  | directed {before name between word after : Text} (first : Blank before)
      (identifier : IsIdentifier name) (gap : Blank between) (apart : between ≠ [])
      (direction : IsDirection word) (last : Blank after) :
      Entry (before ++ (name ++ (between ++ word ++ after))) ⟨name, directionOf word⟩

/-- The word stands before the rest, with all the blanks between them. -/
inductive Leads (word : Text) : Text → Text → Prop where
  | intro {spelled gap rest : Text} (spells : Spells spelled word) (blank : Blank gap)
      (apart : gap ≠ []) (stops : rest.head?.any isBlank = false) :
      Leads word (spelled ++ (gap ++ rest)) rest

/-- `ORDER BY` stands before the rest. -/
def Headed (t rest : Text) : Prop :=
  ∃ before front middle, t = before ++ front ∧ Blank before ∧ Leads "order".toList front middle ∧
    Leads "by".toList middle rest

/-- The rest is what stands behind `ORDER BY`, or the whole text if it does not begin with that. -/
def IsBody (t rest : Text) : Prop := Headed t rest ∨ rest = t ∧ ∀ other, ¬ Headed t other

/-! Characters and words. -/

section Characters

variable {c : Char}

theorem isNameStart_iff : isNameStart c = true ↔ IsNameStart c := by
  simp only [isNameStart, IsNameStart, Bool.or_eq_true, decide_eq_true_eq]
  constructor
  · rintro (((alpha | rfl) | rfl) | rfl)
    · exact .inr ⟨c.toLower, isAlpha_toLower alpha, .inl rfl⟩
    · exact .inl rfl
    · exact .inr ⟨'s', rfl, .inr (.inl ⟨rfl, rfl⟩)⟩
    · exact .inr ⟨'k', rfl, .inr (.inr ⟨rfl, rfl⟩)⟩
  · rintro (rfl | ⟨letter, ascii, folds | ⟨rfl, _⟩ | ⟨rfl, _⟩⟩)
    · exact .inl (.inl (.inr rfl))
    · refine .inl (.inl (.inl (isAlpha_of_toLower ?_)))
      rw [folds, ascii]
    · exact .inl (.inr rfl)
    · exact .inr rfl

theorem isNamePart_iff : isNamePart c = true ↔ IsNamePart c := by
  simp only [isNamePart, IsNamePart, Bool.or_eq_true, decide_eq_true_eq, isNameStart_iff, or_assoc]

theorem IsNamePart.solid (part : IsNamePart c) : isBlank c = false := by
  rw [← isNamePart_iff] at part
  simp only [isNamePart, isNameStart, Bool.or_eq_true, decide_eq_true_eq] at part
  rcases part with ((((alpha | rfl) | rfl) | rfl) | digit) | rfl
  · exact isBlank_of_isAlpha alpha
  · rfl
  · rfl
  · rfl
  · have numeral := isDigit_iff.1 digit
    simp [isBlank, Text.Ranges.has, Text.blankRanges]
    omega
  · rfl

theorem Folds.isNamePart {letter : Char} (folds : Folds c letter) (ascii : letter.isAlpha = true) :
    IsNamePart c := .inl (.inr ⟨letter, ascii, folds⟩)

end Characters

section Words

variable {t word : Text}

theorem sameIgnoringCase_iff
    (plain : ∀ letter ∈ word, letter.toLower = letter ∧ letter ≠ 's' ∧ letter ≠ 'k') :
    Text.sameIgnoringCase t word = true ↔ Spells t word := by
  rw [Text.sameIgnoringCase, beq_iff_eq]
  induction word generalizing t with
  | nil => cases t <;> simp [Spells]
  | cons letter word ih =>
    rw [List.forall_mem_cons] at plain
    obtain ⟨⟨small, notS, notK⟩, plain⟩ := plain
    cases t with
    | nil => simp [Spells]
    | cons c t =>
      have rest := ih plain (t := t)
      simp only [Spells] at rest ⊢
      simp [rest, small, Folds, notS, notK]

theorem map_fold_iff (plain : ∀ letter ∈ word, letter ≠ 'ſ' ∧ letter ≠ 'k') :
    (t.map fun c => if c = 'ſ' then 's' else c.toLower) = word ↔ Spells t word := by
  induction word generalizing t with
  | nil => cases t <;> simp [Spells]
  | cons letter word ih =>
    rw [List.forall_mem_cons] at plain
    obtain ⟨⟨ascii, notK⟩, plain⟩ := plain
    cases t with
    | nil => simp [Spells]
    | cons c t =>
      have first : (if c = 'ſ' then 's' else c.toLower) = letter ↔ Folds c letter := by
        by_cases long : c = 'ſ'
        · have lower : 'ſ'.toLower = 'ſ' := by decide
          simp [Folds, long, lower, Ne.symm ascii, notK, eq_comm]
        · simp [Folds, long, notK]
      rw [List.map_cons, List.cons.injEq, first, ih plain]
      simp [Spells]

theorem direction?_eq_some_iff {direction : Direction} :
    direction? t = some direction ↔ IsDirection t ∧ directionOf t = direction := by
  unfold direction?
  rw [Option.ite_none_right_eq_some, Option.some.injEq, map_fold_iff (by simp),
    map_fold_iff (by simp)]
  rfl

theorem Spells.isNamePart (spells : Spells t word) (ascii : ∀ letter ∈ word, letter.isAlpha = true) :
    ∀ c ∈ t, IsNamePart c := by
  induction spells with
  | nil => simp
  | cons folds _ ih =>
    rw [List.forall_mem_cons] at ascii ⊢
    exact ⟨folds.isNamePart ascii.1, ih ascii.2⟩

theorem IsDirection.isNamePart (direction : IsDirection t) : ∀ c ∈ t, IsNamePart c := by
  rcases direction with spells | spells <;> exact spells.isNamePart (List.all_eq_true.1 rfl)

theorem IsDirection.ne_nil (direction : IsDirection t) : t ≠ [] := by
  rcases direction with spells | spells <;> (rintro rfl; cases spells)

end Words

/-! Entries. -/

section Entries

variable {entry name word : Text} {key : SortKey}

theorem isIdentifier_iff : IsIdentifier name ↔
    name.head?.any isNameStart = true ∧ name.all isNamePart = true := by
  simp only [List.all_eq_true, isNamePart_iff]
  constructor
  · rintro ⟨⟨c, rest, rfl, start⟩, letters⟩
    exact ⟨isNameStart_iff.2 start, letters⟩
  · rintro ⟨begins, letters⟩
    cases name with
    | nil => cases begins
    | cons c rest => exact ⟨⟨c, rest, rfl, isNameStart_iff.1 begins⟩, letters⟩

instance (name : Text) : Decidable (IsIdentifier name) := decidable_of_iff _ isIdentifier_iff.symm

theorem IsIdentifier.solid (identifier : IsIdentifier name) (rest : Text) :
    (name ++ rest).head?.any isBlank = false := by
  obtain ⟨c, tail, rfl, start⟩ := identifier.begins
  exact IsNamePart.solid (.inl start)

theorem IsIdentifier.span (identifier : IsIdentifier name) {rest : Text}
    (stops : rest.head?.any isNamePart = false) :
    (name ++ rest).takeWhile isNamePart = name ∧ (name ++ rest).dropWhile isNamePart = rest :=
  takeWhile_append_stop rest (fun c member => isNamePart_iff.2 (identifier.letters c member)) stops

theorem stops_of_blank {gap : Text} (blank : Blank gap) : gap.head?.any isNamePart = false := by
  cases gap with
  | nil => rfl
  | cons c gap =>
    by_contra part
    have solid := (isNamePart_iff.1 (by simpa using part)).solid
    rw [blank c List.mem_cons_self] at solid
    cases solid

theorem ofPiece?_name {before rest : Text} (first : Blank before) (identifier : IsIdentifier name)
    (stops : rest.head?.any isNamePart = false) :
    ofPiece? (before ++ (name ++ rest)) = some key ↔
      Blank rest ∧ key = ⟨name, .ascending⟩ ∨
      IsDirection (Text.trim rest) ∧ key = ⟨name, directionOf (Text.trim rest)⟩ := by
  have trimmed : Text.trimStart (before ++ (name ++ rest)) = name ++ rest := by
    rw [Text.trimStart_blank first, Text.trimStart_eq_self (identifier.solid rest)]
  have begins : (name ++ rest).head?.any isNameStart = true := by
    obtain ⟨c, tail, rfl, start⟩ := identifier.begins
    exact isNameStart_iff.2 start
  obtain ⟨column, behind⟩ := identifier.span stops
  simp only [ofPiece?, trimmed, begins, column, behind, if_true]
  rw [← Text.trim_eq_nil_iff]
  cases Text.trim rest with
  | nil =>
    have none : ¬ IsDirection [] := fun direction => direction.ne_nil rfl
    simp [none, eq_comm]
  | cons c tail =>
    simp only [Option.map_eq_some_iff, direction?_eq_some_iff, List.cons_ne_nil, false_and, false_or]
    constructor
    · rintro ⟨_, ⟨direction, rfl⟩, rfl⟩
      exact ⟨direction, rfl⟩
    · rintro ⟨direction, rfl⟩
      exact ⟨_, ⟨direction, rfl⟩, rfl⟩

theorem Entry.ofPiece?_eq (reads : Entry entry key) : ofPiece? entry = some key := by
  cases reads with
  | plain first identifier last =>
    exact (ofPiece?_name first identifier (stops_of_blank last)).2 (.inl ⟨last, rfl⟩)
  | @directed before name between word after first identifier gap apart direction last =>
    have tight := tight_of_solid fun c member => (direction.isNamePart c member).solid
    have trimmed : Text.trim (between ++ word ++ after) = word := trim_between gap tight last
    have stops : (between ++ word ++ after).head?.any isNamePart = false := by
      obtain ⟨c, tail, rfl⟩ := List.exists_cons_of_ne_nil apart
      simpa using stops_of_blank gap
    refine (ofPiece?_name first identifier stops).2 (.inr ?_)
    rw [trimmed]
    exact ⟨direction, rfl⟩

theorem exists_name (found : ofPiece? entry = some key) :
    ∃ before name rest, entry = before ++ (name ++ rest) ∧ Blank before ∧ IsIdentifier name ∧
      rest.head?.any isNamePart = false := by
  obtain ⟨before, first, whole⟩ := Text.exists_trimStart entry
  unfold ofPiece? at found
  generalize Text.trimStart entry = t at found whole
  have begins : t.head?.any isNameStart = true := by
    by_contra other
    simp [other] at found
  refine ⟨before, t.takeWhile isNamePart, t.dropWhile isNamePart, ?_, first, isIdentifier_iff.2 ⟨?_, ?_⟩,
    Text.head?_dropWhile _ t⟩
  · rw [List.takeWhile_append_dropWhile]
    exact whole
  · cases t with
    | nil => cases begins
    | cons c t =>
      have part : isNamePart c = true := isNamePart_iff.2 (.inl (isNameStart_iff.1 begins))
      rw [List.takeWhile_cons_of_pos part]
      exact begins
  · exact List.all_takeWhile

theorem ofPiece?_eq_some_iff : ofPiece? entry = some key ↔ Entry entry key := by
  constructor
  · intro found
    obtain ⟨before, name, rest, rfl, first, identifier, stops⟩ := exists_name found
    rcases (ofPiece?_name first identifier stops).1 found with ⟨blank, rfl⟩ | ⟨direction, rfl⟩
    · exact .plain first identifier blank
    · obtain ⟨between, after, gap, last, whole⟩ := Text.exists_trim rest
      generalize Text.trim rest = word at direction whole ⊢
      subst whole
      refine .directed first identifier gap ?_ direction last
      -- Without a blank the letters of the direction would belong to the name.
      rintro rfl
      obtain ⟨c, tail, rfl⟩ := List.exists_cons_of_ne_nil direction.ne_nil
      have part := isNamePart_iff.2 (direction.isNamePart c List.mem_cons_self)
      simp [part] at stops
  · exact Entry.ofPiece?_eq

/-- The blanks before a direction can be left out in the pattern of an entry. -/
inductive Matches : Text → Text → Prop where
  | intro {before name between word after : Text} (first : Blank before)
      (identifier : IsIdentifier name) (gap : Blank between) (direction : word = [] ∨ IsDirection word)
      (last : Blank after) : Matches (before ++ (name ++ (between ++ word ++ after))) name

/-- Where they are left out, the name takes the letters of the direction: of all the names that the pattern
allows, the column is the longest. -/
theorem Matches.exists_entry (matched : Matches entry name) : ∃ key, Entry entry key ∧ name <+: key.column := by
  obtain @⟨before, name, between, word, after, first, identifier, gap, direction, last⟩ := matched
  rcases direction with rfl | direction
  · rw [List.append_nil]
    exact ⟨_, .plain first identifier (gap.append last), List.prefix_rfl⟩
  · cases between with
    | cons c between =>
      exact ⟨_, .directed first identifier gap (List.cons_ne_nil _ _) direction last, List.prefix_rfl⟩
    | nil =>
      have longer : IsIdentifier (name ++ word) := by
        obtain ⟨c, rest, rfl, start⟩ := identifier.begins
        refine ⟨⟨c, rest ++ word, rfl, start⟩, ?_⟩
        rw [List.forall_mem_append]
        exact ⟨identifier.letters, direction.isNamePart⟩
      refine ⟨⟨name ++ word, .ascending⟩, ?_, List.prefix_append name word⟩
      rw [List.nil_append, ← List.append_assoc name]
      exact .plain first longer last

theorem Entry.matches (reads : Entry entry key) : Matches entry key.column := by
  cases reads with
  | @plain before name after first identifier last =>
    exact .intro first identifier blank_nil (.inl rfl) last
  | directed first identifier gap _ direction last => exact .intro first identifier gap (.inr direction) last

end Entries

/-! What stands before the entries. -/

section Heads

variable {t rest word middle : Text}

theorem afterWord?_eq_some_iff
    (plain : ∀ letter ∈ word, letter.toLower = letter ∧ letter ≠ 's' ∧ letter ≠ 'k') :
    afterWord? word t = some rest ↔ Leads word t rest := by
  constructor
  · intro found
    unfold afterWord? at found
    split at found
    case isFalse => cases found
    case isTrue same =>
      have spells := (sameIgnoringCase_iff plain).1 same
      split at found
      case h_2 => cases found
      case h_1 c tail behind =>
        obtain ⟨blank, same⟩ := Option.ite_none_right_eq_some.1 found
        cases same
        obtain ⟨gap, gapBlank, whole⟩ := Text.exists_trimStart tail
        have leads : Leads word (t.take word.length ++ (c :: gap ++ Text.trimStart tail))
            (Text.trimStart tail) := by
          refine .intro spells (blank_cons.2 ⟨blank, gapBlank⟩) (List.cons_ne_nil _ _) ?_
          exact Text.head?_dropWhile isBlank tail
        rwa [List.cons_append, ← whole, ← behind, List.take_append_drop] at leads
  · rintro ⟨spells, blank, apart, stops⟩
    rename_i spelled gap
    have length : word.length = spelled.length := (List.Forall₂.length_eq spells).symm
    obtain ⟨c, gap, rfl⟩ := List.exists_cons_of_ne_nil apart
    rw [blank_cons] at blank
    have trimmed : Text.trimStart (gap ++ rest) = rest := by
      rw [Text.trimStart_blank blank.2, Text.trimStart_eq_self stops]
    have same := (sameIgnoringCase_iff plain).2 spells
    simp [afterWord?, length, same, blank.1, trimmed]

theorem Leads.begins {letter : Char} (leads : Leads (letter :: word) t rest) :
    ∃ c tail, t = c :: tail ∧ Folds c letter := by
  obtain ⟨spells, _, _, _⟩ := leads
  cases spells with
  | cons folds _ => exact ⟨_, _, rfl, folds⟩

theorem Leads.solid {letter : Char} (leads : Leads (letter :: word) t rest)
    (ascii : letter.isAlpha = true) : t.head?.any isBlank = false := by
  obtain ⟨c, tail, rfl, folds⟩ := leads.begins
  exact (folds.isNamePart ascii).solid

theorem Leads.rest_eq (leads : Leads word t rest) (ascii : ∀ letter ∈ word, letter.isAlpha = true) :
    rest = Text.trimStart (t.dropWhile isNamePart) := by
  obtain @⟨spelled, gap, rest, spells, blank, apart, stops⟩ := leads
  have letters : ∀ c ∈ spelled, isNamePart c = true := fun c member =>
    isNamePart_iff.2 (spells.isNamePart ascii c member)
  have ends : (gap ++ rest).head?.any isNamePart = false := by
    obtain ⟨c, tail, rfl⟩ := List.exists_cons_of_ne_nil apart
    simpa using stops_of_blank blank
  rw [(takeWhile_append_stop _ letters ends).2, Text.trimStart_blank blank, Text.trimStart_eq_self stops]

theorem leads_order_iff :
    afterWord? "order".toList t = some rest ↔ Leads "order".toList t rest :=
  afterWord?_eq_some_iff (by simp)

theorem leads_by_iff : afterWord? "by".toList t = some rest ↔ Leads "by".toList t rest :=
  afterWord?_eq_some_iff (by simp)

theorem headed_iff : Headed t rest ↔
    (afterWord? "order".toList (Text.trimStart t)).bind (afterWord? "by".toList) = some rest := by
  simp only [Option.bind_eq_some_iff, leads_order_iff, leads_by_iff]
  constructor
  · rintro ⟨before, front, middle, rfl, blank, order, behind⟩
    have trimmed : Text.trimStart (before ++ front) = front := by
      rw [Text.trimStart_blank blank, Text.trimStart_eq_self (order.solid rfl)]
    rw [trimmed]
    exact ⟨middle, order, behind⟩
  · rintro ⟨middle, order, behind⟩
    obtain ⟨before, blank, whole⟩ := Text.exists_trimStart t
    exact ⟨before, _, middle, whole, blank, order, behind⟩

theorem isBody_iff : IsBody t rest ↔ rest = body t := by
  simp only [IsBody, headed_iff, body]
  cases (afterWord? "order".toList (Text.trimStart t)).bind (afterWord? "by".toList) with
  | none => simp
  | some behind => simp [eq_comm]

end Heads

/-! Lists of keys. -/

section Lists

variable {t : Text} {keys : List SortKey} {e : OrderError}

theorem Entry.not_blank {entry : Text} {key : SortKey} (reads : Entry entry key) : ¬ Blank entry := by
  obtain ⟨before, name, rest, rfl, _, identifier, _⟩ := exists_name reads.ofPiece?_eq
  obtain ⟨c, tail, rfl, start⟩ := identifier.begins
  intro blank
  have solid := IsNamePart.solid (.inl start)
  rw [blank c (by simp)] at solid
  cases solid

theorem parse_of_blank (blank : Blank (body t)) : parse t = .ok [] := by
  simp [parse, Text.trim_eq_nil_iff.2 blank]

theorem parse_of_filled (filled : ¬ Blank (body t)) : parse t = (Text.cut ',' (body t)).mapM fun entry =>
    (ofPiece? entry).elim (.error ⟨Text.trim entry⟩) .ok := by
  rw [← Text.trim_eq_nil_iff, ← List.isEmpty_iff, Bool.not_eq_true] at filled
  simp only [parse, filled, Bool.false_eq_true, if_false]
  congr 1
  funext entry
  cases ofPiece? entry <;> rfl

theorem elim_eq_ok_iff {entry : Text} {key : SortKey} :
    (ofPiece? entry).elim (.error e) .ok = Except.ok key ↔ Entry entry key := by
  rw [← ofPiece?_eq_some_iff]
  cases ofPiece? entry <;> simp

theorem elim_eq_error_iff {entry : Text} {other : OrderError} :
    (ofPiece? entry).elim (.error e) .ok = Except.error other ↔ (∀ key, ¬ Entry entry key) ∧ other = e := by
  simp only [← ofPiece?_eq_some_iff]
  cases ofPiece? entry <;> simp [eq_comm]

theorem parse_eq_ok_iff : parse t = .ok keys ↔
    Blank (body t) ∧ keys = [] ∨
      ∃ entries, Pieces ',' entries (body t) ∧ List.Forall₂ Entry entries keys := by
  by_cases blank : Blank (body t)
  · -- The first piece of a blank text is blank, and that is no entry.
    have none : ¬ ∃ entries, Pieces ',' entries (body t) ∧ List.Forall₂ Entry entries keys := by
      rintro ⟨_, divided, each⟩
      have whole := divided.whole
      cases each with
      | nil => exact divided.filled rfl
      | cons reads _ =>
        rw [Text.join_cons] at whole
        rw [← whole] at blank
        exact reads.not_blank fun c member => blank c (List.mem_append_left _ member)
    simp [parse_of_blank blank, blank, none, eq_comm]
  · rw [parse_of_filled blank, mapM_eq_ok_iff]
    simp [elim_eq_ok_iff, pieces_iff, blank]

theorem parse_eq_error_iff : parse t = .error e ↔
    ¬ Blank (body t) ∧ ∃ before bad after, Pieces ',' (before ++ bad :: after) (body t) ∧
      (∀ entry ∈ before, ∃ key, Entry entry key) ∧ (∀ key, ¬ Entry bad key) ∧ e = ⟨Text.trim bad⟩ := by
  by_cases blank : Blank (body t)
  · simp [parse_of_blank blank, blank]
  · rw [parse_of_filled blank, mapM_eq_error_iff]
    simp only [elim_eq_ok_iff, elim_eq_error_iff, pieces_iff, blank, not_false_eq_true, true_and,
      eq_comm (a := Text.cut ',' (body t))]

end Lists

/-! Printing. -/

section Printing

variable {keys : List SortKey}

def printed (key : SortKey) : Text := key.column ++ ' ' :: key.direction.sql

def printedList (keys : List SortKey) : Text := Text.join ", ".toList (keys.map printed)

theorem entry_printed {before : Text} {key : SortKey} (blank : Blank before)
    (identifier : IsIdentifier key.column) : Entry (before ++ key.printed) key := by
  obtain ⟨column, direction⟩ := key
  have word : IsDirection direction.sql ∧ directionOf direction.sql = direction :=
    direction?_eq_some_iff.1 (by cases direction <;> decide)
  have entry : Entry (before ++ (column ++ ([' '] ++ direction.sql ++ [])))
      ⟨column, directionOf direction.sql⟩ :=
    .directed blank identifier blank_space (List.cons_ne_nil _ _) word.1 blank_nil
  rwa [word.2, List.append_nil] at entry

theorem comma_notin_printed {key : SortKey} (identifier : IsIdentifier key.column) :
    ',' ∉ ' ' :: key.printed := by
  have column : ',' ∉ key.column := fun member => by
    have part := isNamePart_iff.2 (identifier.letters _ member)
    revert part
    decide
  have direction : ',' ∉ key.direction.sql := by cases key.direction <;> decide
  simp [printed, column, direction]

theorem pieces_printedList {key : SortKey} (identifiers : ∀ other ∈ key :: keys, IsIdentifier other.column) :
    Pieces ',' (key.printed :: keys.map fun other => ' ' :: other.printed) (printedList (key :: keys)) := by
  rw [List.forall_mem_cons] at identifiers
  refine ⟨List.cons_ne_nil _ _, ?_, List.forall_mem_cons.2 ⟨?_, ?_⟩⟩
  · rw [printedList, List.map_cons, Text.join_cons, Text.join_cons, List.flatMap_map, List.flatMap_map]
    rfl
  · exact fun member => comma_notin_printed identifiers.1 (List.mem_cons_of_mem _ member)
  · rw [List.forall_mem_map]
    exact fun other member => comma_notin_printed (identifiers.2 other member)

theorem not_headed {name : Text} (identifier : IsIdentifier name) (direction : Direction) (after other : Text) :
    ¬ Headed (name ++ ' ' :: (direction.sql ++ after)) other := by
  rw [headed_iff, Text.trimStart_eq_self (identifier.solid _), Option.bind_eq_some_iff]
  rintro ⟨middle, order, found⟩
  have behind := (leads_order_iff.1 order).rest_eq (List.all_eq_true.1 rfl)
  rw [(identifier.span rfl).2] at behind
  have trimmed : Text.trimStart (' ' :: (direction.sql ++ after)) = direction.sql ++ after := by
    cases direction <;> rfl
  have next : Leads ['b', 'y'] middle other := leads_by_iff.1 found
  obtain ⟨c, tail, rfl, folds⟩ := next.begins
  rw [trimmed] at behind
  have first : c = 'A' ∨ c = 'D' := by
    cases direction <;> simp_all [Direction.sql]
  rcases first with rfl | rfl <;> exact absurd folds (by simp [Folds])

theorem headed_order_by {t : Text} (solid : t.head?.any isBlank = false) :
    Headed ("ORDER BY ".toList ++ t) t := by
  have order : afterWord? "order".toList ("ORDER BY ".toList ++ t) = some ("BY ".toList ++ t) := rfl
  have behind : afterWord? "by".toList ("BY ".toList ++ t) = some (Text.trimStart t) := rfl
  rw [Text.trimStart_eq_self solid] at behind
  exact ⟨[], _, _, rfl, blank_nil, leads_order_iff.1 order, leads_by_iff.1 behind⟩

theorem body_printedList (identifiers : ∀ key ∈ keys, IsIdentifier key.column) :
    body (printedList keys) = printedList keys ∧
      body ("ORDER BY ".toList ++ printedList keys) = printedList keys := by
  cases keys with
  | nil => exact ⟨rfl, rfl⟩
  | cons key keys =>
    rw [List.forall_mem_cons] at identifiers
    have whole : printedList (key :: keys) = key.column ++
        ' ' :: (key.direction.sql ++ (keys.map printed).flatMap (", ".toList ++ ·)) := by
      rw [printedList, List.map_cons, Text.join_cons, printed, List.append_assoc, List.cons_append]
    rw [whole]
    constructor
    · exact (isBody_iff.1 (.inr ⟨rfl, not_headed identifiers.1 _ _⟩)).symm
    · exact (isBody_iff.1 (.inl (headed_order_by (identifiers.1.solid _)))).symm

theorem forall₂_printed (identifiers : ∀ key ∈ keys, IsIdentifier key.column) :
    List.Forall₂ Entry (keys.map fun key => ' ' :: key.printed) keys := by
  rw [List.forall₂_map_left_iff, List.forall₂_same]
  exact fun key member => entry_printed blank_space (identifiers key member)

theorem parse_of_body {t : Text} (identifiers : ∀ key ∈ keys, IsIdentifier key.column)
    (rest : body t = printedList keys) : parse t = .ok keys := by
  rw [parse_eq_ok_iff, rest]
  cases keys with
  | nil => exact .inl ⟨blank_nil, rfl⟩
  | cons key keys =>
    refine .inr ⟨_, pieces_printedList identifiers, ?_⟩
    rw [List.forall_mem_cons] at identifiers
    exact .cons (entry_printed blank_nil identifiers.1) (forall₂_printed identifiers.2)

end Printing

/-! The grammar and the reader. -/

theorem Entry.longest {entry name : Text} {key : SortKey} (reads : Entry entry key)
    (matched : Matches entry name) : name <+: key.column := by
  obtain ⟨other, found, shorter⟩ := matched.exists_entry
  have same : some other = some key := found.ofPiece?_eq.symm.trans reads.ofPiece?_eq
  cases same
  exact shorter

/-- What is to be answered for the text behind the head. -/
structure Answers (rest : Text) (answer : Except OrderError (List SortKey)) : Prop where
  keys : ∀ keys, answer = .ok keys ↔
    Blank rest ∧ keys = [] ∨ ∃ entries, Pieces ',' entries rest ∧ List.Forall₂ Entry entries keys
  refusal : ∀ e, answer = .error e ↔
    ¬ Blank rest ∧ ∃ before bad after, Pieces ',' (before ++ bad :: after) rest ∧
      (∀ entry ∈ before, ∃ key, Entry entry key) ∧ (∀ key, ¬ Entry bad key) ∧ e = ⟨Text.trim bad⟩

/-- Keys are read back from their printed form, with `ORDER BY` before them or not. Every text has one body;
the keys of its entries are read in order, or the first that is no entry is refused. An entry is a text that
the pattern allows, with the longest name as its column. -/
theorem parse_grammar :
    (∀ keys, (∀ key ∈ keys, IsIdentifier key.column) →
      parse (printedList keys) = .ok keys ∧ parse ("ORDER BY ".toList ++ printedList keys) = .ok keys) ∧
    (∀ t, ∃ rest, (∀ other, IsBody t other ↔ other = rest) ∧ Answers rest (parse t)) ∧
    (∀ entry, (∃ name, Matches entry name) ↔ ∃ key, Entry entry key) ∧
    ∀ entry key, Entry entry key →
      Matches entry key.column ∧ ∀ name, Matches entry name → name <+: key.column := by
  refine ⟨?_, ?_, ?_, ?_⟩
  · intro keys identifiers
    obtain ⟨plain, headed⟩ := body_printedList identifiers
    exact ⟨parse_of_body identifiers plain, parse_of_body identifiers headed⟩
  · intro t
    exact ⟨body t, fun other => isBody_iff, fun keys => parse_eq_ok_iff, fun e => parse_eq_error_iff⟩
  · intro entry
    constructor
    · rintro ⟨name, matched⟩
      obtain ⟨key, reads, _⟩ := matched.exists_entry
      exact ⟨key, reads⟩
    · rintro ⟨key, reads⟩
      exact ⟨key.column, reads.matches⟩
  · intro entry key reads
    exact ⟨reads.matches, fun name => reads.longest⟩

/-- Columns that are named like keywords. -/
def keywords : List SortKey :=
  [⟨"order".toList, .descending⟩, ⟨"by".toList, .ascending⟩, ⟨"desc".toList, .descending⟩,
    ⟨"t.asc".toList, .ascending⟩]

theorem parse_grammar_keywords :
    (∀ key ∈ keywords, IsIdentifier key.column) ∧
    printedList keywords = "order DESC, by ASC, desc DESC, t.asc ASC".toList ∧
    parse (printedList keywords) = .ok keywords ∧
    parse ("ORDER BY ".toList ++ printedList keywords) = .ok keywords ∧
    Matches "orderdesc".toList "order".toList ∧
    ∃ key, Entry "orderdesc".toList key ∧ "order".toList <+: key.column := by
  have identifiers : ∀ key ∈ keywords, IsIdentifier key.column := by decide
  obtain ⟨plain, headed⟩ := parse_grammar.1 keywords identifiers
  have direction : IsDirection "desc".toList := .inr ((map_fold_iff (by simp)).1 rfl)
  have matched : Matches ([] ++ ("order".toList ++ ([] ++ "desc".toList ++ []))) "order".toList :=
    .intro blank_nil (by decide) blank_nil (.inr direction) blank_nil
  obtain ⟨key, reads⟩ := (parse_grammar.2.2.1 _).1 ⟨_, matched⟩
  exact ⟨identifiers, by decide, plain, headed, matched, key, reads,
    (parse_grammar.2.2.2 _ key reads).2 _ matched⟩

end FilterQuery.SortKey
