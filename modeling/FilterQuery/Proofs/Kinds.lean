import Mathlib
import FilterQuery.Proofs.Keys
import FilterQuery.Proofs.Ranks
import FilterQuery.Proofs.Rows

/-!
When the order of rows is an order. Two rows are compared alike from both sides, whatever they hold. But
texts are compared as texts with each other and as numbers with numbers, integers are compared exactly
with each other and as doubles with doubles, and a value that is no number counts as equal to every
number. So one row can be before a second, the second before a third and the third before the first. The
order is transitive on the rows whose sorted columns hold kinds of values that agree, and on no more.
-/

namespace FilterQuery

theorem Text.cmp_eq_lt_iff (s t : Text) : cmp s t = .lt ↔ s < t := by
  induction s generalizing t with
  | nil => cases t <;> simp [cmp]
  | cons a s ih =>
    cases t with
    | nil => simp [cmp]
    | cons b t =>
      have less : a.toNat < b.toNat ↔ a < b := Iff.rfl
      have more : b.toNat < a.toNat ↔ b < a := Iff.rfl
      rw [List.cons_lt_cons_iff, cmp, ← ih]
      grind

theorem Text.cmp_ne_gt_iff (s t : Text) : cmp s t ≠ .gt ↔ s ≤ t := by
  rw [ne_eq, cmp_gt_iff, cmp_eq_lt_iff, not_lt]

/-- What the comparison of two values can depend on. An integer is short if it has at most 53 bits. -/
inductive Kind where
  | boolean | short | long | number | nan | text
deriving DecidableEq, Repr

namespace Kind

/-- Values of these kinds are whole numbers, and compared as such. -/
def isWhole : Kind → Bool
  | boolean | short | long => true
  | number | nan | text => false

/-- Values of these kinds have doubles of their own, and can be compared by them. -/
def isDouble : Kind → Bool
  | boolean | short | number => true
  | long | nan | text => false

/-- Values of both kinds can be sorted together. -/
def agrees (k l : Kind) : Bool :=
  k = l || k.isWhole && l.isWhole || k.isDouble && l.isDouble

theorem agrees_three {k l m : Kind} (first : k.agrees l = true) (second : l.agrees m = true)
    (third : k.agrees m = true) :
    (k = text ∧ l = text ∧ m = text) ∨ (k = nan ∧ l = nan ∧ m = nan) ∨
      (k.isWhole = true ∧ l.isWhole = true ∧ m.isWhole = true) ∨
      (k.isDouble = true ∧ l.isDouble = true ∧ m.isDouble = true) := by
  revert first second third
  cases k <;> cases l <;> cases m <;> decide

end Kind

namespace Value

/-- The kind of a value. Nulls have none, since they can stand in every column. -/
def kind? : Value → Option Kind
  | null => none
  | boolean _ => some .boolean
  | integer i => some (if i.toInt.natAbs < 2 ^ 53 then .short else .long)
  | float x => some (if x == x then .number else .nan)
  | text _ => some .text

theorem exists_kind {a : Value} (present : a.isNull = false) : ∃ k, a.kind? = some k := by
  cases a with
  | null => cases present
  | _ => exact ⟨_, rfl⟩

/-! The place of a value among those that agree with it: a whole number, or the rank of a double. -/

def whole? : Value → Option Int
  | boolean b => some b.toInt
  | integer i => some i.toInt
  | _ => none

def doubleRank? : Value → Option (Int ×ₗ Int ×ₗ Int)
  | boolean b => some (Double.rank (Float.ofInt b.toInt).toModel.unpack)
  | integer i =>
    if i.toInt.natAbs < 2 ^ 53 then some (Double.rank (Float.ofInt i.toInt).toModel.unpack) else none
  | float x => if x == x then some (Double.rank x.toModel.unpack) else none
  | _ => none

theorem exists_whole {a : Value} {k : Kind} (held : a.kind? = some k) (isWhole : k.isWhole = true) :
    ∃ i, a.whole? = some i := by
  cases a with
  | null => cases held
  | boolean b => exact ⟨_, rfl⟩
  | integer i => exact ⟨_, rfl⟩
  | float x =>
    cases held
    split at isWhole <;> cases isWhole
  | text t =>
    cases held
    cases isWhole

theorem exists_doubleRank {a : Value} {k : Kind} (held : a.kind? = some k)
    (isDouble : k.isDouble = true) : ∃ r, a.doubleRank? = some r := by
  cases a with
  | null => cases held
  | boolean b => exact ⟨_, rfl⟩
  | integer i =>
    cases held
    by_cases short : i.toInt.natAbs < 2 ^ 53
    · exact ⟨_, if_pos short⟩
    · rw [if_neg short] at isDouble
      cases isDouble
  | float x =>
    cases held
    by_cases number : (x == x) = true
    · exact ⟨_, if_pos number⟩
    · rw [if_neg number] at isDouble
      cases isDouble
  | text t =>
    cases held
    cases isDouble

theorem natAbs_toInt_lt (i : Int64) : i.toInt.natAbs < 2 ^ 64 := by
  have low := i.le_toInt
  have high := i.toInt_lt
  omega

theorem natAbs_boolean_lt (b : Bool) : b.toInt.natAbs < 2 ^ 53 := by
  cases b <;> decide

theorem toFloat?_boolean (b : Bool) : (boolean b).toFloat? = some (Float.ofInt b.toInt) := by
  cases b <;> rfl

theorem compare_eq_compareFloats {a b : Value} {x y : Float} (first : a.toFloat? = some x)
    (second : b.toFloat? = some y) (texts : ∀ s t, a = text s → b ≠ text t)
    (short : ∀ i j, a = integer i → b = integer j →
      i.toInt.natAbs < 2 ^ 53 ∨ j.toInt.natAbs < 2 ^ 53) :
    a.compare b = compareFloats x y := by
  unfold compare
  split
  · cases first
  · cases second
  · exact (texts _ _ rfl rfl).elim
  next i j =>
    cases first
    cases second
    exact (Double.compareFloats_ofInt (natAbs_toInt_lt i) (natAbs_toInt_lt j) (short i j rfl rfl)).symm
  · rw [first, second]

theorem compare_of_whole {a b : Value} {i j : Int} (first : a.whole? = some i)
    (second : b.whole? = some j) : a.compare b = some (Ord.compare i j) := by
  have small (b : Bool) := natAbs_boolean_lt b
  have bounded (b : Bool) : b.toInt.natAbs < 2 ^ 64 := (small b).trans (by decide)
  cases a <;> cases first <;> cases b <;> cases second
  case integer.refl.integer.refl => rfl
  case boolean.refl.boolean.refl b c =>
    rw [compare_eq_compareFloats (toFloat?_boolean b) (toFloat?_boolean c) nofun nofun]
    exact Double.compareFloats_ofInt (bounded b) (bounded c) (.inl (small b))
  case boolean.refl.integer.refl b j =>
    rw [compare_eq_compareFloats (toFloat?_boolean b) rfl nofun nofun]
    exact Double.compareFloats_ofInt (bounded b) (natAbs_toInt_lt j) (.inl (small b))
  case integer.refl.boolean.refl i c =>
    rw [compare_eq_compareFloats rfl (toFloat?_boolean c) nofun nofun]
    exact Double.compareFloats_ofInt (natAbs_toInt_lt i) (bounded c) (.inr (small c))

theorem doubleRank?_eq_some {a : Value} {r : Int ×ₗ Int ×ₗ Int} (held : a.doubleRank? = some r) :
    ∃ x, a.toFloat? = some x ∧ x.toModel.unpack ≠ .notANumber ∧ Double.rank x.toModel.unpack = r ∧
      (∀ t, a ≠ text t) ∧ ∀ i, a = integer i → i.toInt.natAbs < 2 ^ 53 := by
  have whole {i : Int} (most : i.natAbs < 2 ^ 64) : (Float.ofInt i).toModel.unpack ≠ .notANumber :=
    (Double.beq_self_eq_true _).1 (Double.ofInt_beq_self most)
  cases a with
  | null => cases held
  | boolean b =>
    cases held
    exact ⟨_, toFloat?_boolean b, whole ((natAbs_boolean_lt b).trans (by decide)), rfl, nofun, nofun⟩
  | integer i =>
    obtain ⟨short, ⟨⟩⟩ := Option.ite_none_right_eq_some.1 held
    refine ⟨_, rfl, whole (natAbs_toInt_lt i), rfl, nofun, ?_⟩
    rintro _ ⟨⟩
    exact short
  | float x =>
    obtain ⟨number, ⟨⟩⟩ := Option.ite_none_right_eq_some.1 held
    exact ⟨x, rfl, (Double.beq_self_eq_true x).1 number, rfl, nofun, nofun⟩
  | text t => cases held

theorem compare_of_doubleRank {a b : Value} {r s : Int ×ₗ Int ×ₗ Int} (first : a.doubleRank? = some r)
    (second : b.doubleRank? = some s) : a.compare b = some (Ord.compare r s) := by
  obtain ⟨x, read, number, rfl, solid, short⟩ := doubleRank?_eq_some first
  obtain ⟨y, read', number', rfl, -, -⟩ := doubleRank?_eq_some second
  rw [compare_eq_compareFloats read read' (fun s _ isText => absurd isText (solid s))
    (fun i _ isInteger _ => .inl (short i isInteger)), Double.compareFloats_eq,
    Double.compare_eq_rank number number']

theorem compare_nan {x : Float} (missing : ¬ (x == x) = true) (y : Float) :
    (float x).compare (float y) = none := by
  rw [Double.beq_self_eq_true, not_not] at missing
  show compareFloats x y = none
  rw [Double.compareFloats_eq, missing]
  rfl

/-! Values that agree are in order. -/

theorem sortOrder_swap (a b : Value) : b.sortOrder a = (a.sortOrder b).swap := by
  unfold sortOrder
  rw [compare_swap a b]
  cases a.isNull <;> cases b.isNull
  case false.false => cases a.compare b <;> rfl
  all_goals rfl

theorem sortOrder_ne_gt_iff (a b : Value) :
    a.sortOrder b ≠ .gt ↔ a.isNull = true ∨ b.isNull = false ∧ a.compare b ≠ some .gt := by
  unfold sortOrder
  cases a.isNull <;> cases b.isNull
  case false.false => rcases a.compare b with _ | _ | _ | _ <;> simp
  all_goals simp

theorem compare_trans_of_rank {α : Type} [Preorder α] {rank? : Value → Option α}
    (ranked : ∀ {a b i j}, rank? a = some i → rank? b = some j → (a.compare b ≠ some .gt ↔ i ≤ j))
    {a b c : Value} {i j k : α} (first : rank? a = some i) (second : rank? b = some j)
    (third : rank? c = some k) (below : a.compare b ≠ some .gt) (above : b.compare c ≠ some .gt) :
    a.compare c ≠ some .gt :=
  (ranked first third).2 (((ranked first second).1 below).trans ((ranked second third).1 above))

theorem kind?_eq_text {a : Value} (held : a.kind? = some .text) : ∃ t, a = text t := by
  cases a with
  | text t => exact ⟨t, rfl⟩
  | integer i =>
    rw [kind?] at held
    split at held <;> cases held
  | float x =>
    rw [kind?] at held
    split at held <;> cases held
  | _ => cases held

theorem kind?_eq_nan {a : Value} (held : a.kind? = some .nan) :
    ∃ x, a = float x ∧ ¬ (x == x) = true := by
  cases a with
  | float x =>
    rw [kind?] at held
    split at held
    · cases held
    next missing => exact ⟨x, rfl, missing⟩
  | integer i =>
    rw [kind?] at held
    split at held <;> cases held
  | _ => cases held

theorem compare_trans {a b c : Value} {k l m : Kind} (first : a.kind? = some k)
    (second : b.kind? = some l) (third : c.kind? = some m) (one : k.agrees l = true)
    (other : l.agrees m = true) (outer : k.agrees m = true) (below : a.compare b ≠ some .gt)
    (above : b.compare c ≠ some .gt) : a.compare c ≠ some .gt := by
  rcases Kind.agrees_three one other outer with
    ⟨rfl, rfl, rfl⟩ | ⟨rfl, rfl, rfl⟩ | ⟨whole, whole', whole''⟩ | ⟨double, double', double''⟩
  · obtain ⟨s, rfl⟩ := kind?_eq_text first
    obtain ⟨t, rfl⟩ := kind?_eq_text second
    obtain ⟨u, rfl⟩ := kind?_eq_text third
    have texts (s t : Text) : (text s).compare (text t) ≠ some .gt ↔ s ≤ t := by
      rw [← Text.cmp_ne_gt_iff]
      exact (Option.some_injective _).ne_iff
    exact (texts s u).2 (((texts s t).1 below).trans ((texts t u).1 above))
  · obtain ⟨x, rfl, missing⟩ := kind?_eq_nan first
    obtain ⟨z, rfl, -⟩ := kind?_eq_nan third
    rw [compare_nan missing z]
    exact nofun
  · obtain ⟨i, first⟩ := exists_whole first whole
    obtain ⟨j, second⟩ := exists_whole second whole'
    obtain ⟨k, third⟩ := exists_whole third whole''
    refine compare_trans_of_rank (fun first second => ?_) first second third below above
    rw [compare_of_whole first second, ← compare_le_iff_le]
    exact (Option.some_injective _).ne_iff
  · obtain ⟨r, first⟩ := exists_doubleRank first double
    obtain ⟨s, second⟩ := exists_doubleRank second double'
    obtain ⟨t, third⟩ := exists_doubleRank third double''
    refine compare_trans_of_rank (fun first second => ?_) first second third below above
    rw [compare_of_doubleRank first second, ← compare_le_iff_le]
    exact (Option.some_injective _).ne_iff

theorem sortOrder_trans {kinds : Set Kind} (agree : ∀ k ∈ kinds, ∀ l ∈ kinds, k.agrees l = true)
    {a b c : Value} (first : ∀ k ∈ a.kind?, k ∈ kinds) (second : ∀ k ∈ b.kind?, k ∈ kinds)
    (third : ∀ k ∈ c.kind?, k ∈ kinds) (below : a.sortOrder b ≠ .gt) (above : b.sortOrder c ≠ .gt) :
    a.sortOrder c ≠ .gt := by
  rw [sortOrder_ne_gt_iff] at below above ⊢
  by_cases null : a.isNull = true
  · exact .inl null
  obtain ⟨present, below⟩ := below.resolve_left null
  obtain ⟨present', above⟩ := above.resolve_left (by simp [present])
  obtain ⟨k, kindA⟩ := exists_kind (Bool.eq_false_iff.2 null)
  obtain ⟨l, kindB⟩ := exists_kind present
  obtain ⟨m, kindC⟩ := exists_kind present'
  have one := first k kindA
  have two := second l kindB
  have three := third m kindC
  exact .inr ⟨present', compare_trans kindA kindB kindC (agree k one l two) (agree l two m three)
    (agree k one m three) below above⟩

end Value

/-! Kinds that do not agree. -/

/-- A greater and a smaller value of a kind. No value tells NaN from NaN. -/
def Kind.greater : Kind → Value
  | boolean => .boolean true
  | short => .integer 1
  | long => .integer 9007199254740993
  | number => .float 1.0
  | nan => .float (0.0 / 0.0)
  | text => .text ['b']

def Kind.smaller : Kind → Value
  | boolean => .boolean false
  | short => .integer 0
  | long => .integer 9007199254740992
  | number => .float 0.0
  | nan => .float (0.0 / 0.0)
  | text => .text ['a']

/-- A value that tells no two values of some other kinds apart: NaN is equal to everything, a text to
every number, and a double to all integers that are rounded to it. -/
def Kind.blur : Kind → Value
  | number => .float 9007199254740992.0
  | k => k.smaller

theorem Kind.kind?_samples (k : Kind) :
    k.greater.kind? = some k ∧ k.smaller.kind? = some k ∧ k.blur.kind? = some k := by
  cases k <;> decide +kernel

/-- Whether one value of kind `l` is in the same place as two different values of kind `k`. -/
def Kind.Blurs (l k : Kind) : Prop :=
  k.greater.sortOrder l.blur = .eq ∧ l.blur.sortOrder k.smaller = .eq ∧
    k.greater.sortOrder k.smaller = .gt

theorem Kind.blurs_of_not_agrees {k l : Kind} (apart : k.agrees l = false) : Blurs l k ∨ Blurs k l := by
  unfold Blurs
  revert apart
  cases k <;> cases l <;> decide +kernel

namespace Direction

theorem orient_swap (d : Direction) (o : Ordering) : d.orient o.swap = (d.orient o).swap := by
  cases d <;> rfl

theorem orient_eq (d : Direction) : d.orient .eq = .eq := by
  cases d <;> rfl

end Direction

namespace Row

theorem lexOrder_swap (keys : List (Nat × Direction)) (a b : Row) :
    lexOrder keys b a = (lexOrder keys a b).swap := by
  induction keys with
  | nil => rfl
  | cons key keys ih =>
    rw [lexOrder, lexOrder, ih, Ordering.swap_then, ← Direction.orient_swap,
      Value.sortOrder_swap (a.cell key.1)]

/-- Every cell of the row is a null or of a kind allowed in its column. -/
def Fits (kinds : Nat → Set Kind) (row : Row) : Prop :=
  ∀ index, ∀ k ∈ (row.cell index).kind?, k ∈ kinds index

theorem transCmp_lexOrder {fits : Row → Prop} {keys : List (Nat × Direction)}
    (each : ∀ key ∈ keys, ∀ {a b c : Row}, fits a → fits b → fits c →
      (a.cell key.1).sortOrder (b.cell key.1) ≠ .gt → (b.cell key.1).sortOrder (c.cell key.1) ≠ .gt →
        (a.cell key.1).sortOrder (c.cell key.1) ≠ .gt) :
    Std.TransCmp fun a b : { row // fits row } => lexOrder keys a.1 b.1 := by
  induction keys with
  | nil => exact { eq_swap := rfl, isLE_trans := fun _ _ => rfl }
  | cons key keys ih =>
    obtain ⟨index, direction⟩ := key
    have rest := ih fun key member => each key (List.mem_cons_of_mem _ member)
    have upward : Std.TransCmp fun a b : { row // fits row } =>
        (a.1.cell index).sortOrder (b.1.cell index) :=
      { eq_swap := Value.sortOrder_swap _ _
        isLE_trans := by
          intro a b c below above
          rw [Ordering.isLE_iff_ne_gt] at below above ⊢
          exact each _ List.mem_cons_self a.2 b.2 c.2 below above }
    have oriented : Std.TransCmp fun a b : { row // fits row } =>
        direction.orient ((a.1.cell index).sortOrder (b.1.cell index)) := by
      cases direction with
      | ascending => exact upward
      | descending =>
        show Std.TransCmp fun a b : { row // fits row } =>
          ((a.1.cell index).sortOrder (b.1.cell index)).swap
        simp only [← Value.sortOrder_swap]
        exact upward.opposite
    exact Std.instTransCmpCompareLex

theorem transCmp_lexOrder_of_agrees {kinds : Nat → Set Kind} {keys : List (Nat × Direction)}
    (agree : ∀ key ∈ keys, ∀ k ∈ kinds key.1, ∀ l ∈ kinds key.1, k.agrees l = true) :
    Std.TransCmp fun a b : { row // Fits kinds row } => lexOrder keys a.1 b.1 :=
  transCmp_lexOrder fun key member _ _ _ first second third =>
    Value.sortOrder_trans (agree key member) (first key.1) (second key.1) (third key.1)

def only (width index : Nat) (v : Value) : Row := (List.replicate width .null).set index v

section Only

variable {width index : Nat}

theorem cell_only (inside : index < width) (v : Value) (j : Nat) :
    (only width index v).cell j = if j = index then v else .null := by
  unfold only cell
  rw [List.getD_eq_getElem?_getD, List.getElem?_set]
  by_cases here : j = index
  · simp [here, inside]
  · rw [if_neg (Ne.symm here), if_neg here, List.getElem?_replicate]
    split <;> rfl

theorem covers_only {keys : List (Nat × Direction)} (wide : ∀ key ∈ keys, key.1 < width) (v : Value) :
    (only width index v).Covers keys := by
  intro key member
  simpa [only] using wide key member

theorem fits_only {kinds : Nat → Set Kind} {v : Value} {k : Kind} (inside : index < width)
    (held : v.kind? = some k) (allowed : k ∈ kinds index) : Fits kinds (only width index v) := by
  intro j l found
  rw [cell_only inside] at found
  split at found
  next same =>
    subst same
    rw [held] at found
    cases found
    exact allowed
  next => cases found

theorem lexOrder_only_eq (keys : List (Nat × Direction)) (inside : index < width) {a b : Value}
    (same : a.sortOrder b = .eq) : lexOrder keys (only width index a) (only width index b) = .eq := by
  induction keys with
  | nil => rfl
  | cons key keys ih =>
    have cells : ((only width index a).cell key.1).sortOrder ((only width index b).cell key.1) = .eq := by
      rw [cell_only inside, cell_only inside]
      split
      · exact same
      · rfl
    rw [lexOrder, cells, Direction.orient_eq, ih]
    rfl

theorem lexOrder_only {keys : List (Nat × Direction)} (inside : index < width)
    (sorted : ∃ key ∈ keys, key.1 = index) :
    ∃ direction : Direction, ∀ a b : Value,
      lexOrder keys (only width index a) (only width index b) = direction.orient (a.sortOrder b) := by
  induction keys with
  | nil => simp at sorted
  | cons first keys ih =>
    by_cases here : first.1 = index
    · refine ⟨first.2, fun a b => ?_⟩
      rw [lexOrder, cell_only inside, cell_only inside, if_pos here, if_pos here]
      -- A later key for the column finds nothing new.
      cases found : a.sortOrder b with
      | eq => rw [lexOrder_only_eq keys inside found, Direction.orient_eq]; rfl
      | lt => cases first.2 <;> rfl
      | gt => cases first.2 <;> rfl
    · obtain ⟨direction, found⟩ := ih (by simpa [here] using sorted)
      refine ⟨direction, fun a b => ?_⟩
      rw [lexOrder, cell_only inside, cell_only inside, if_neg here, if_neg here, found]
      cases first.2 <;> rfl

end Only

theorem exists_width (keys : List (Nat × Direction)) : ∃ width, ∀ key ∈ keys, key.1 < width := by
  induction keys with
  | nil => exact ⟨0, by simp⟩
  | cons key keys ih =>
    obtain ⟨width, wide⟩ := ih
    refine ⟨max (key.1 + 1) width, List.forall_mem_cons.2 ⟨by omega, fun other member => ?_⟩⟩
    have := wide other member
    omega

theorem lexOrder_blurred {keys : List (Nat × Direction)} {key : Nat × Direction} (member : key ∈ keys)
    {kinds : Nat → Set Kind} {k l : Kind} (one : k ∈ kinds key.1) (other : l ∈ kinds key.1)
    (blurs : l.Blurs k) :
    ∃ a b c : Row, (a.Covers keys ∧ Fits kinds a) ∧ (b.Covers keys ∧ Fits kinds b) ∧
      (c.Covers keys ∧ Fits kinds c) ∧
      lexOrder keys a b = .eq ∧ lexOrder keys b c = .eq ∧ lexOrder keys a c = .gt := by
  obtain ⟨greater, smaller, -⟩ := k.kind?_samples
  obtain ⟨-, -, blur⟩ := l.kind?_samples
  obtain ⟨above, below, apart⟩ := blurs
  obtain ⟨width, wide⟩ := exists_width keys
  have inside := wide key member
  have high := fits_only inside greater one
  have low := fits_only inside smaller one
  have middle := fits_only inside blur other
  have covers (v : Value) : (only width key.1 v).Covers keys := covers_only wide v
  obtain ⟨direction, found⟩ := lexOrder_only inside ⟨key, member, rfl⟩
  have first := (found k.greater l.blur).trans (by rw [above, Direction.orient_eq])
  have second := (found l.blur k.smaller).trans (by rw [below, Direction.orient_eq])
  cases direction with
  | ascending =>
    exact ⟨_, _, _, ⟨covers _, high⟩, ⟨covers _, middle⟩, ⟨covers _, low⟩, first, second,
      (found _ _).trans apart⟩
  | descending =>
    refine ⟨_, _, _, ⟨covers _, low⟩, ⟨covers _, middle⟩, ⟨covers _, high⟩, ?_, ?_, ?_⟩
    · rw [lexOrder_swap, second]
      rfl
    · rw [lexOrder_swap, first]
      rfl
    · rw [found, Value.sortOrder_swap k.greater, apart]
      rfl

/-! The order as it is computed. -/

theorem order_swap (keys : List (Nat × Direction)) (a b : Row) :
    order keys b a = (order keys a b).map Ordering.swap := by
  induction keys with
  | nil => rfl
  | cons key keys ih =>
    rw [order, order]
    unfold lookUp
    cases a[key.1]? with
    | none => cases b[key.1]? <;> rfl
    | some v =>
      cases b[key.1]? with
      | none => rfl
      | some w =>
        dsimp only [bind, Except.bind]
        rw [Value.sortOrder_swap v, Direction.orient_swap]
        cases key.2.orient (v.sortOrder w) with
        | eq => exact ih
        | _ => rfl

theorem order_ne_gt_iff {keys : List (Nat × Direction)} {a b : Row} (first : a.Covers keys)
    (second : b.Covers keys) : order keys a b ≠ .ok .gt ↔ (lexOrder keys a b).isLE = true := by
  rw [order_eq first second]
  cases lexOrder keys a b <;> simp

/-- The order of rows is the same from both sides, and is there whenever both rows have all the values. It
is transitive on such rows of given kinds exactly if in each sorted column all kinds agree. -/
theorem order_transitive_iff (keys : List (Nat × Direction)) (kinds : Nat → Set Kind) :
    (∀ a b, order keys b a = (order keys a b).map Ordering.swap) ∧
      (∀ a b : Row, a.Covers keys → b.Covers keys → ∃ o, order keys a b = .ok o) ∧
      ((∀ a b c : Row, a.Covers keys ∧ Fits kinds a → b.Covers keys ∧ Fits kinds b →
          c.Covers keys ∧ Fits kinds c →
          order keys a b ≠ .ok .gt → order keys b c ≠ .ok .gt → order keys a c ≠ .ok .gt) ↔
        ∀ key ∈ keys, ∀ k ∈ kinds key.1, ∀ l ∈ kinds key.1, k.agrees l = true) := by
  refine ⟨order_swap keys, fun a b first second => ⟨_, order_eq first second⟩, ?_, ?_⟩
  · intro transitive key member k one l other
    by_contra apart
    obtain ⟨a, b, c, first, second, third, below, above, beyond⟩ :
        ∃ a b c : Row, (a.Covers keys ∧ Fits kinds a) ∧ (b.Covers keys ∧ Fits kinds b) ∧
          (c.Covers keys ∧ Fits kinds c) ∧
          lexOrder keys a b = .eq ∧ lexOrder keys b c = .eq ∧ lexOrder keys a c = .gt := by
      rcases Kind.blurs_of_not_agrees (Bool.eq_false_iff.2 apart) with blurs | blurs
      · exact lexOrder_blurred member one other blurs
      · exact lexOrder_blurred member other one blurs
    refine transitive a b c first second third ?_ ?_ ?_
    · rw [order_ne_gt_iff first.1 second.1, below]
      rfl
    · rw [order_ne_gt_iff second.1 third.1, above]
      rfl
    · rw [order_eq first.1 third.1, beyond]
  · intro agree a b c first second third below above
    have cmp := transCmp_lexOrder_of_agrees agree
    rw [order_ne_gt_iff first.1 second.1] at below
    rw [order_ne_gt_iff second.1 third.1] at above
    rw [order_ne_gt_iff first.1 third.1]
    exact cmp.isLE_trans (a := ⟨a, first.2⟩) (b := ⟨b, second.2⟩) (c := ⟨c, third.2⟩) below above

/-- Of these three rows, each is before the next: two texts, then a text and a number, then a number and
a text. -/
theorem order_cycle :
    order [(0, .ascending)] [.text "10".toList] [.text "9".toList] = .ok .lt ∧
      order [(0, .ascending)] [.text "9".toList] [.float 9.5] = .ok .lt ∧
      order [(0, .ascending)] [.float 9.5] [.text "10".toList] = .ok .lt := by
  refine ⟨?_, ?_, ?_⟩ <;> rfl

end Row

end FilterQuery
