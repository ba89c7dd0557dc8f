/-!
Text as a list of characters, and the few operations that every part of the library needs: the order
by code point, comparison without regard to ASCII case, cutting, joining and trimming.
-/

namespace FilterQuery

abbrev Text := List Char

namespace Text

/-- Order by code point. The first difference decides, and a beginning comes before its extensions. -/
def cmp : Text → Text → Ordering
  | [], [] => .eq
  | [], _ :: _ => .lt
  | _ :: _, [] => .gt
  | a :: as, b :: bs =>
    if a.toNat < b.toNat then .lt else if b.toNat < a.toNat then .gt else cmp as bs

theorem cmp_self (t : Text) : cmp t t = .eq := by
  induction t with
  | nil => rfl
  | cons c rest ih => simp [cmp, ih]

theorem cmp_eq_iff (s t : Text) : cmp s t = .eq ↔ s = t := by
  induction s generalizing t with
  | nil => cases t <;> simp [cmp]
  | cons a s ih =>
    cases t with
    | nil => simp [cmp]
    | cons b t =>
      have same : a.toNat = b.toNat ↔ a = b := Char.toNat_inj
      simp only [cmp, List.cons.injEq]
      split
      · simp; intro equal; subst equal; omega
      · split
        · simp; intro equal; subst equal; omega
        · rw [ih]
          have : a = b := same.1 (by omega)
          simp [this]

theorem cmp_gt_iff (s t : Text) : cmp s t = .gt ↔ cmp t s = .lt := by
  induction s generalizing t with
  | nil => cases t <;> simp [cmp]
  | cons a s ih =>
    cases t with
    | nil => simp [cmp]
    | cons b t =>
      simp only [cmp]
      by_cases less : a.toNat < b.toNat
      · have : ¬ b.toNat < a.toNat := by omega
        simp [less, this]
      · by_cases more : b.toNat < a.toNat <;> simp [less, more, ih]

theorem cmp_lt_trans {s t u : Text} (first : cmp s t = .lt) (second : cmp t u = .lt) :
    cmp s u = .lt := by
  induction s generalizing t u with
  | nil =>
    cases t <;> cases u <;> simp_all [cmp]
  | cons a s ih =>
    cases t with
    | nil => simp [cmp] at first
    | cons b t =>
      cases u with
      | nil => simp [cmp] at second
      | cons c u =>
        simp only [cmp] at first second ⊢
        grind

def sameIgnoringCase (s t : Text) : Bool :=
  s.map Char.toLower == t.map Char.toLower

/-- The pieces between the occurrences of `mark`; never an empty list. -/
def cut (mark : Char) : Text → List Text
  | [] => [[]]
  | c :: rest =>
    if c = mark then [] :: cut mark rest
    else match cut mark rest with
      | [] => [[c]]
      | piece :: pieces => (c :: piece) :: pieces

def cutOnce (mark : Char) (t : Text) : Option (Text × Text) :=
  match t.dropWhile (· != mark) with
  | [] => none
  | _ :: after => some (t.takeWhile (· != mark), after)

def join (separator : Text) : List Text → Text
  | [] => []
  | [piece] => piece
  | piece :: pieces => piece ++ separator ++ join separator pieces

def ofNat (n : Nat) : Text := Nat.toDigits 10 n

def ofInt (i : Int) : Text :=
  match i with
  | .ofNat n => ofNat n
  | .negSucc n => '-' :: ofNat (n + 1)

/-! Classes of characters, given by ranges of code points with both ends included. -/

abbrev Ranges := List (Nat × Nat)

def Ranges.has (ranges : Ranges) (c : Char) : Bool :=
  ranges.any fun range => range.1 ≤ c.toNat && c.toNat ≤ range.2

/-! Blank characters and the trimming of texts. -/

/-- The characters of the Unicode property White_Space. -/
def blankRanges : Ranges :=
  [(0x0009, 0x000D), (0x0020, 0x0020), (0x0085, 0x0085), (0x00A0, 0x00A0), (0x1680, 0x1680),
    (0x2000, 0x200A), (0x2028, 0x2029), (0x202F, 0x202F), (0x205F, 0x205F), (0x3000, 0x3000)]

def isBlank (c : Char) : Bool := blankRanges.has c

def trimStart (t : Text) : Text := t.dropWhile isBlank

def trimEnd (t : Text) : Text := (t.reverse.dropWhile isBlank).reverse

def trim (t : Text) : Text := trimEnd (trimStart t)

end Text

end FilterQuery
