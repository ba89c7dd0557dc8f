import FilterQuery.Filter.Literal
import FilterQuery.Proofs.Numerals
import FilterQuery.Proofs.Trimming

/-!
Numbers with a point, as they are typed and as they are written. Typed, a number may have a power of ten
behind it; a double is always written without one.
-/

namespace FilterQuery.Decimal

def IsSign (t : Text) : Prop := t = [] ∨ t = ['-'] ∨ t = ['+']

/-- The power of ten behind a number, which may be left out. -/
inductive IsPower : Text → Prop where
  | none : IsPower []
  | some {mark : Char} {sign digits : Text} (letter : mark = 'e' ∨ mark = 'E') (signed : IsSign sign)
      (filled : digits ≠ []) (all : ∀ c ∈ digits, c.isDigit = true) : IsPower (mark :: (sign ++ digits))

/-- A number with a point as it is typed. There must be a digit on one side of the point. -/
structure Fraction where
  sign : Text
  whole : Text
  fraction : Text
  power : Text
  signed : IsSign sign
  left : ∀ c ∈ whole, c.isDigit = true
  right : ∀ c ∈ fraction, c.isDigit = true
  filled : whole ≠ [] ∨ fraction ≠ []
  raised : IsPower power

def Fraction.size (n : Fraction) : Text := n.whole ++ '.' :: (n.fraction ++ n.power)

def Fraction.text (n : Fraction) : Text := n.sign ++ n.size

/-! Signs. -/

theorem exists_sign (t : Text) : ∃ sign, IsSign sign ∧ t = sign ++ (takeSign t).2 := by
  unfold takeSign
  split
  · exact ⟨['-'], .inr (.inl rfl), rfl⟩
  · exact ⟨['+'], .inr (.inr rfl), rfl⟩
  · exact ⟨[], .inl rfl, rfl⟩

theorem takeSign_append {sign t : Text} (signed : IsSign sign)
    (unsigned : ∀ c ∈ t.head?, c ≠ '-' ∧ c ≠ '+') : (takeSign (sign ++ t)).2 = t := by
  rcases signed with rfl | rfl | rfl
  · rw [List.nil_append]
    unfold takeSign
    split
    · exact absurd rfl (unsigned '-' rfl).1
    · exact absurd rfl (unsigned '+' rfl).2
    · rfl
  · rfl
  · rfl

theorem not_sign_of_isDigit {c : Char} (digit : c.isDigit = true) : c ≠ '-' ∧ c ≠ '+' := by
  constructor <;> rintro rfl <;> cases digit

theorem exponent?_isSome {t : Text} : (exponent? t).isSome = true ↔ IsPower t := by
  cases t with
  | nil => exact ⟨fun _ => .none, fun _ => rfl⟩
  | cons mark rest =>
    simp only [exponent?]
    constructor
    · intro found
      have valid : (mark = 'e' ∨ mark = 'E') ∧ (takeSign rest).2 ≠ [] ∧
          ∀ c ∈ (takeSign rest).2, c.isDigit = true := by
        simpa [Option.isSome_ite] using found
      obtain ⟨sign, signed, whole⟩ := exists_sign rest
      rw [whole]
      exact .some valid.1 signed valid.2.1 valid.2.2
    · intro power
      cases power with
      | @some mark sign digits letter signed filled all =>
        have unsigned : ∀ c ∈ digits.head?, c ≠ '-' ∧ c ≠ '+' := fun c found =>
          not_sign_of_isDigit (all c (List.mem_of_mem_head? found))
        rw [takeSign_append signed unsigned]
        simpa [letter, filled] using all

theorem IsPower.point_not_mem {t : Text} (power : IsPower t) : '.' ∉ t := by
  cases power with
  | none => simp
  | @some mark sign digits letter signed filled all =>
    have behind : '.' ∉ digits := fun member => absurd (all '.' member) (by decide)
    rcases letter with rfl | rfl <;> rcases signed with rfl | rfl | rfl <;> simp [behind]

theorem IsPower.not_digit_head {t : Text} (power : IsPower t) : t.head?.any Char.isDigit = false := by
  cases power with
  | none => rfl
  | some letter => rcases letter with rfl | rfl <;> rfl

theorem IsPower.mark {c : Char} {t : Text} (power : IsPower (c :: t)) : c = 'e' ∨ c = 'E' := by
  cases power with
  | some letter => exact letter

/-! Reading. -/

theorem Fraction.mem_size {n : Fraction} {c : Char} :
    c ∈ n.size ↔ c ∈ n.whole ∨ c = '.' ∨ c ∈ n.fraction ∨ c ∈ n.power := by
  simp [size]

theorem Fraction.point_mem_size (n : Fraction) : '.' ∈ n.size := mem_size.2 (.inr (.inl rfl))

theorem Fraction.head_size (n : Fraction) : ∀ c ∈ n.size.head?, c.isDigit = true ∨ c = '.' := by
  intro c found
  unfold size at found
  cases begins : n.whole with
  | nil =>
    rw [begins] at found
    exact .inr (Option.some.inj found).symm
  | cons d rest =>
    rw [begins] at found
    obtain rfl : d = c := Option.some.inj found
    exact .inl (n.left d (by simp [begins]))

theorem Fraction.takeSign_text (n : Fraction) : (takeSign n.text).2 = n.size := by
  refine takeSign_append n.signed fun c found => ?_
  rcases n.head_size c found with digit | rfl
  · exact not_sign_of_isDigit digit
  · decide

theorem Fraction.scientific? (n : Fraction) : ∃ s, Decimal.scientific? n.size = some s := by
  obtain ⟨power, read⟩ := Option.isSome_iff_exists.1 (exponent?_isSome.2 n.raised)
  obtain ⟨whole, behind⟩ := Text.takeWhile_append_stop ('.' :: (n.fraction ++ n.power)) n.left rfl
  obtain ⟨fraction, rest⟩ := Text.takeWhile_append_stop n.power n.right n.raised.not_digit_head
  have some : ¬ (n.whole.isEmpty && n.fraction.isEmpty) = true := by
    simpa [← not_and_or] using n.filled
  simp only [Decimal.scientific?, size, whole, behind, fraction, rest, some, read, Option.map_some]
  exact ⟨_, rfl⟩

theorem exists_fraction_size {t : Text} {s : Scientific} (read : scientific? t = some s) (point : '.' ∈ t)
    {sign : Text} (signed : IsSign sign) : ∃ n : Fraction, n.text = sign ++ t := by
  have left : ∀ c ∈ t.takeWhile Char.isDigit, c.isDigit = true := fun c => List.mem_takeWhile_imp
  have whole : t.takeWhile Char.isDigit ++ t.dropWhile Char.isDigit = t := List.takeWhile_append_dropWhile
  have outside : '.' ∉ t.takeWhile Char.isDigit := fun member => absurd (left '.' member) (by decide)
  unfold scientific? at read
  generalize t.takeWhile Char.isDigit = front at *
  generalize t.dropWhile Char.isDigit = back at *
  subst whole
  have behind : '.' ∈ back := by simpa [outside] using point
  have power {rest : Text} {f : Int → Scientific} (mapped : (exponent? rest).map f = some s) :
      IsPower rest := by
    obtain ⟨_, found, _⟩ := Option.map_eq_some_iff.1 mapped
    exact exponent?_isSome.1 (Option.isSome_iff_exists.2 ⟨_, found⟩)
  dsimp only at read
  split at read
  case h_1 rest =>
    obtain ⟨filled, mapped⟩ := Option.ite_none_left_eq_some.1 read
    refine ⟨⟨sign, front, rest.takeWhile Char.isDigit, rest.dropWhile Char.isDigit, signed, left,
      fun c => List.mem_takeWhile_imp, ?_, power mapped⟩, ?_⟩
    · rw [← not_and_or]
      rintro ⟨rfl, empty⟩
      exact filled (by rw [empty]; rfl)
    · rw [Fraction.text, Fraction.size, List.takeWhile_append_dropWhile]
  case h_2 =>
    -- A power of ten has no point.
    obtain ⟨_, mapped⟩ := Option.ite_none_left_eq_some.1 read
    exact absurd behind (power mapped).point_not_mem

theorem sameIgnoringCase_point {t : Text} (point : '.' ∈ t) (word : Text)
    (plain : '.' ∉ word.map Char.toLower) : Text.sameIgnoringCase t word = false := by
  by_contra same
  have equal : t.map Char.toLower = word.map Char.toLower := by
    simpa [Text.sameIgnoringCase] using same
  exact plain (equal ▸ List.mem_map_of_mem (f := Char.toLower) point)

theorem float?_point {t : Text} (point : '.' ∈ (takeSign t).2) :
    float? t = ((scientific? (takeSign t).2).map Scientific.toFloat).map fun x =>
      if (takeSign t).1 then -x else x := by
  have inf := sameIgnoringCase_point point "inf".toList (by decide)
  have infinity := sameIgnoringCase_point point "infinity".toList (by decide)
  have nan := sameIgnoringCase_point point "nan".toList (by decide)
  simp only [float?, inf, infinity, nan, Bool.or_self, Bool.false_eq_true, if_false]

/-- Read as doubles are, of the texts with a point, exactly the fractions. -/
theorem float?_isSome_iff {t : Text} (point : '.' ∈ t) :
    (float? t).isSome = true ↔ ∃ n : Fraction, n.text = t := by
  constructor
  · intro found
    obtain ⟨sign, signed, whole⟩ := exists_sign t
    have inside : '.' ∈ (takeSign t).2 := by
      rw [whole] at point
      rcases List.mem_append.1 point with member | member
      · rcases signed with rfl | rfl | rfl <;> simp at member
      · exact member
    rw [float?_point inside, Option.isSome_map, Option.isSome_map] at found
    obtain ⟨s, read⟩ := Option.isSome_iff_exists.1 found
    obtain ⟨n, text⟩ := exists_fraction_size read inside signed
    exact ⟨n, text.trans whole.symm⟩
  · rintro ⟨n, rfl⟩
    obtain ⟨s, read⟩ := n.scientific?
    have inside : '.' ∈ (takeSign n.text).2 := by
      rw [n.takeSign_text]
      exact n.point_mem_size
    rw [float?_point inside, n.takeSign_text, read]
    rfl

theorem Fraction.looksNumeric (n : Fraction) : Filter.looksNumeric n.text = n.power.isEmpty := by
  simp only [Filter.looksNumeric, n.takeSign_text]
  cases power : n.power with
  | nil =>
    have left : '.' ∉ n.whole := fun member => absurd (n.left '.' member) (by decide)
    have right : '.' ∉ n.fraction := fun member => absurd (n.right '.' member) (by decide)
    have once : n.size.count '.' = 1 := by
      simp [size, power, List.count_eq_zero_of_not_mem left, List.count_eq_zero_of_not_mem right]
    have all : n.size.all (fun c => c.isDigit || c = '.') = true := by
      refine List.all_eq_true.2 fun c member => ?_
      rw [mem_size, power] at member
      rcases member with member | rfl | member | member
      · simp [n.left c member]
      · rfl
      · simp [n.right c member]
      · cases member
    have any : n.size.any Char.isDigit = true := by
      rcases n.filled with filled | filled
      · obtain ⟨d, member⟩ := List.exists_mem_of_ne_nil _ filled
        exact List.any_eq_true.2 ⟨d, mem_size.2 (.inl member), n.left d member⟩
      · obtain ⟨d, member⟩ := List.exists_mem_of_ne_nil _ filled
        exact List.any_eq_true.2 ⟨d, mem_size.2 (.inr (.inr (.inl member))), n.right d member⟩
    simp [once, all, any]
  | cons mark rest =>
    have letter : mark = 'e' ∨ mark = 'E' := IsPower.mark (power ▸ n.raised)
    have other : n.size.all (fun c => c.isDigit || c = '.') = false := by
      refine List.all_eq_false.2 ⟨mark, mem_size.2 (by simp [power]), ?_⟩
      rcases letter with rfl | rfl <;> decide
    simp [other]

theorem Fraction.power_eq_nil_iff (n : Fraction) : n.power = [] ↔ 'e' ∉ n.text ∧ 'E' ∉ n.text := by
  constructor
  · intro power
    have outside {c : Char} (mark : c.isDigit = false) (signless : ∀ sign, IsSign sign → c ∉ sign)
        (other : c ≠ '.') : c ∉ n.text := by
      intro member
      rw [text, List.mem_append, mem_size, power] at member
      rcases member with member | member | same | member | member
      · exact signless n.sign n.signed member
      · exact absurd (n.left c member) (by simp [mark])
      · exact other same
      · exact absurd (n.right c member) (by simp [mark])
      · cases member
    constructor <;> refine outside rfl ?_ (by decide) <;> rintro sign (rfl | rfl | rfl) <;> decide
  · rintro ⟨small, capital⟩
    by_contra raised
    obtain ⟨mark, rest, power⟩ := List.exists_cons_of_ne_nil raised
    have member : mark ∈ n.text := List.mem_append_right _ (mem_size.2 (by simp [power]))
    have letter : mark = 'e' ∨ mark = 'E' := IsPower.mark (power ▸ n.raised)
    rcases letter with rfl | rfl
    · exact small member
    · exact capital member

/-! Writing. -/

theorem isDigit_of_mem_shortest {b : Binary} {c : Char} (member : c ∈ b.shortest.digits) :
    c.isDigit = true := by
  simp only [Binary.shortest] at member
  generalize found : List.findSome? _ _ = attempt at member
  cases attempt with
  | none =>
    obtain rfl : c = '0' := by simpa using member
    rfl
  | some d =>
    obtain ⟨count, _, made⟩ := List.exists_of_findSome?_eq_some found
    obtain ⟨n, _, rfl⟩ := Option.map_eq_some_iff.1 made
    have inside := (List.dropWhile_sublist _).subset (List.mem_reverse.1 member)
    exact isDigit_of_mem_ofNat (List.mem_reverse.1 inside)

theorem mem_plainText {d : Digits} (digits : ∀ c ∈ d.digits, c.isDigit = true) {c : Char}
    (member : c ∈ d.plainText) : c.isDigit = true ∨ c = '.' := by
  have zero : '0'.isDigit = true := rfl
  unfold Digits.plainText at member
  split at member
  · simp only [List.mem_cons] at member
    rcases member with rfl | rfl | member
    · exact .inl zero
    · exact .inr rfl
    · exact .inl (digits c member)
  · simp only [List.mem_cons, List.mem_append, List.mem_replicate] at member
    rcases member with rfl | rfl | ⟨_, rfl⟩ | member
    · exact .inl zero
    · exact .inr rfl
    · exact .inl zero
    · exact .inl (digits c member)
  · split at member
    · simp only [List.mem_append, List.mem_replicate] at member
      rcases member with member | ⟨_, rfl⟩
      · exact .inl (digits c member)
      · exact .inl zero
    · simp only [List.mem_append, List.mem_cons] at member
      rcases member with member | rfl | member
      · exact .inl (digits c (List.mem_of_mem_take member))
      · exact .inr rfl
      · exact .inl (digits c (List.mem_of_mem_drop member))

end FilterQuery.Decimal

namespace FilterQuery.Value

open Float.Model (UnpackedFloat)

theorem isFinite_iff (x : Float) : x.isFinite = true ↔ x.isInf = false ∧ x.isNaN = false := by
  show x.toModel.unpack.isFinite = true ↔ x.toModel.unpack.isInf = false ∧ x.toModel.unpack.isNaN = false
  cases x.toModel.unpack <;> simp [UnpackedFloat.isFinite, UnpackedFloat.isInf, UnpackedFloat.isNaN]

theorem mem_digitsText {d : Decimal.Digits} (digits : ∀ c ∈ d.digits, c.isDigit = true) {c : Char}
    (member : c ∈ floatLayout.digitsText d) : c.isDigit = true ∨ c = '.' := by
  simp only [Decimal.Layout.digitsText, floatLayout, if_true, ite_self, List.append_nil] at member
  exact Decimal.mem_plainText digits member

theorem mem_floatText {x : Float} (finite : x.isFinite = true) {c : Char} (member : c ∈ floatLayout.text x) :
    c.isDigit = true ∨ c = '.' ∨ c = '-' := by
  obtain ⟨inf, nan⟩ := (isFinite_iff x).1 finite
  simp only [Decimal.Layout.text, inf, nan, Bool.false_eq_true, if_false] at member
  generalize size : (if x.toBits.toNat % Nat.pow 2 63 = 0 then _ else _) = digits at member
  have plain : ∀ c ∈ digits, c.isDigit = true ∨ c = '.' := by
    intro c inside
    rw [← size] at inside
    split at inside
    · obtain rfl : c = '0' := by simpa [floatLayout] using inside
      exact .inl rfl
    · exact mem_digitsText (fun c => Decimal.isDigit_of_mem_shortest) inside
  split at member
  · rcases List.mem_cons.1 member with rfl | member
    · exact .inr (.inr rfl)
    · exact (plain c member).imp_right .inl
  · exact (plain c member).imp_right .inl

theorem floatText_of_not_isFinite {x : Float} (infinite : x.isFinite = false) :
    floatLayout.text x ∈ ["inf".toList, "-inf".toList, "NaN".toList] := by
  rw [← Bool.not_eq_true, isFinite_iff, not_and_or, Bool.not_eq_false, Bool.not_eq_false] at infinite
  unfold Decimal.Layout.text
  cases nan : x.isNaN with
  | true => simp
  | false =>
    rw [nan] at infinite
    have inf : x.isInf = true := infinite.resolve_right nofun
    simp only [inf, if_true, Bool.false_eq_true, if_false]
    split <;> simp

theorem mem_floatText_cases {x : Float} {c : Char} (member : c ∈ floatLayout.text x) :
    c.isAlphanum = true ∨ c = '.' ∨ c = '-' := by
  cases finite : x.isFinite with
  | true =>
    refine (mem_floatText finite member).imp_left fun digit => ?_
    simp [Char.isAlphanum, digit]
  | false =>
    have words := floatText_of_not_isFinite finite
    have plain : ["inf".toList, "-inf".toList, "NaN".toList].all
        (·.all fun c => c.isAlphanum || c = '.' || c = '-') = true := rfl
    have part := List.all_eq_true.1 (List.all_eq_true.1 plain _ words) c member
    simpa [or_assoc] using part

end FilterQuery.Value
