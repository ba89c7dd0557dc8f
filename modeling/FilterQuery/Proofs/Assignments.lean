import FilterQuery.Proofs.Comparisons
import FilterQuery.Proofs.Composition
import FilterQuery.Proofs.Inference

/-!
Assigned values beside typed ones, from the spelling to SQL. A number or a truth value can be assigned to a
field that a filter names, or typed in the filter itself. Both ways come to the same SQL, as far as the
spelling is read alike and the filter takes it for one operand.
-/

namespace FilterQuery.Filter

/-- A minus sign that begins no number, since it stands before a point or behind an operand. -/
inductive Stray : Text → Prop where
  | point (rest : Text) : Stray ('-' :: '.' :: rest)
  | behind {operand : Operand} (bare : operand.isString = false) (rest : Text) :
      Stray (operand.text ++ '-' :: rest)

theorem Scanner.step_stray {nodes : List Node} {depth : Nat} {name typed : Text} {comparator : Comparator}
    {s : Scanner} (typing : Scanner.Typing nodes depth name comparator typed s) {next : Option Char}
    (stray : typed = [] → next.any Char.isDigit = false) : ∃ e, s.step true '-' next = .error e := by
  obtain ⟨start, stands⟩ := typing
  obtain ⟨quoteStart, index, rfl⟩ := stands.eq
  let s : Scanner := ⟨nodes, depth, .value start name comparator typed, false, {}, quoteStart, index⟩
  have compared : s.read true '-' next = s.readComparator true '-' next := by
    show (if startsNegative _ _ then _ else _) = _
    refine if_neg ?_
    cases typed with
    | nil => simp [s, startsNegative, stray rfl]
    | cons => simp [s, startsNegative]
  cases typed with
  | nil => exact ⟨⟨.incompleteClause .value, index⟩, by rw [step, compared]; rfl⟩
  | cons => exact ⟨⟨.duplicateComparator, index⟩, by rw [step, compared]; rfl⟩

theorem scan_front (column : Word) (comparator : Comparator) {front rest : Text}
    (bounded : (front ++ '-' :: rest).head? ≠ some '=')
    (reads : Scanner.Reads front (some '-') (Scanner.Typing [] 0 column.text comparator [])
      (Scanner.Typing [] 0 column.text comparator front))
    (stray : front = [] → rest.head?.any Char.isDigit = false) :
    ∃ e, scan true (column.text ++ comparator.spelling ++ (front ++ '-' :: rest)) = .error e := by
  have ahead : front.head?.or (some '-') ≠ some '=' := by
    cases front with
    | nil => simp
    | cons c front => simpa using bounded
  have whole := (Scanner.reads_column column _).append
    ((Scanner.reads_comparator comparator _ ahead).append reads)
  obtain ⟨after, ran, typing⟩ := whole {} ⟨rfl, rfl, rfl, rfl, rfl⟩
  have next : front = [] → (rest.head?.or none).any Char.isDigit = false := by
    intro empty
    rw [Option.or_none]
    exact stray empty
  obtain ⟨e, refused⟩ := Scanner.step_stray typing next
  refine ⟨e, ?_⟩
  have cut : column.text ++ comparator.spelling ++ (front ++ '-' :: rest) =
      column.text ++ (comparator.spelling ++ front) ++ '-' :: rest := by simp
  have run : Scanner.run true none {} (column.text ++ comparator.spelling ++ (front ++ '-' :: rest)) =
      .error e := by
    rw [cut, Scanner.run_append, List.head?_cons, Option.some_or, ran]
    show Scanner.run true none after ('-' :: rest) = _
    rw [Scanner.run, refused]
    rfl
  rw [scan, run]
  rfl

theorem Stray.scan {raw : Text} (stray : Stray raw) (column : Word) (comparator : Comparator) :
    ∃ e, Filter.scan true (column.text ++ comparator.spelling ++ raw) = .error e := by
  cases stray with
  | point rest =>
    exact @scan_front column comparator [] ('.' :: rest) (by simp) (Scanner.reads_nil _ _) fun _ => rfl
  | @behind operand bare rest =>
    obtain ⟨c, tail, begins, differs⟩ := operand.head_text
    refine scan_front column comparator ?_ (Scanner.reads_operand operand _) fun empty => ?_
    · simpa [begins] using differs
    · rw [begins] at empty
      cases empty

def conditionText (column : Text) (comparator : Comparator) (value : Text) : Text :=
  column ++ ' ' :: comparator.sql ++ [' '] ++ value ++ [' ']

theorem conditionText_inj {column s t : Text} {comparator : Comparator} :
    conditionText column comparator s = conditionText column comparator t ↔ s = t := by
  simp [conditionText]

section Compile

variable (options : Options) (fields : Bindings) (column : Word) {comparator : Comparator}
  (plain : comparator ≠ .inList) (before behind : Nat)
include plain

theorem Stray.compile {raw : Text} (stray : Stray raw) (solid : ∀ c ∈ raw, isSolid c = true)
    (unopened : '(' ∉ raw) (greater : '>' ∉ raw)
    (free : options = ⟨.legacy, true⟩ → ArrowFree (column.text ++ comparator.spelling ++ raw)) :
    ∃ e, Filter.compile options fields (comparisonText column.text comparator before behind raw) =
      .error e := by
  have chars := normalize_comparison column comparator before behind solid options unopened free
  have refused : ∃ e, Filter.scan options.inLists (column.text ++ comparator.spelling ++ raw) = .error e := by
    cases options.inLists with
    | true => exact stray.scan column comparator
    | false =>
      rw [scan_arrowless (minus_not_mem_front column plain) greater]
      exact stray.scan column comparator
  obtain ⟨e, refused⟩ := refused
  simp only [Filter.compile, parse, Source.scan, chars, refused]
  exact ⟨_, rfl⟩

theorem compile_comparison {operand : Operand} (bare : operand.isString = false)
    (free : options = ⟨.legacy, true⟩ → ArrowFree (column.text ++ comparator.spelling ++ operand.text)) :
    Filter.compile options fields (comparisonText column.text comparator before behind operand.text) =
      .ok (conditionText column.text comparator
        (resolve ⟨column.text, comparator, finalizeValue comparator operand.text⟩ fields)) := by
  have parsed := parse_comparison options column plain before behind bare free
  rw [compile_eq parsed]
  simp [render, renderNode, plain, conditionText]

end Compile

end FilterQuery.Filter

namespace FilterQuery.Value

open FilterQuery.Filter (coerceBare)
open Decimal (Fraction)

/-! Numbers and truth values as operands of a filter. -/

section Operands

open FilterQuery.Filter

variable {raw : Text} {value : Value} {c : Char}

def isTypedChar (c : Char) : Bool :=
  c.isDigit || ".+-".toList.contains c || "truefals".toList.contains c.toLower

theorem isTypedChar_of_isDigit (digit : c.isDigit = true) : isTypedChar c = true := by
  simp [isTypedChar, digit]

theorem isTypedChar_of_mem_sign {sign : Text} (signed : Decimal.IsSign sign) (member : c ∈ sign) :
    isTypedChar c = true := by
  rcases signed with rfl | rfl | rfl
  · cases member
  · obtain rfl := List.mem_singleton.1 member
    rfl
  · obtain rfl := List.mem_singleton.1 member
    rfl

theorem isTypedChar_of_mem_power {power : Text} (raised : Decimal.IsPower power) (member : c ∈ power) :
    isTypedChar c = true := by
  cases raised with
  | none => cases member
  | some letter signed _ all =>
    rcases List.mem_cons.1 member with rfl | member
    · rcases letter with rfl | rfl <;> rfl
    · rcases List.mem_append.1 member with member | member
      · exact isTypedChar_of_mem_sign signed member
      · exact isTypedChar_of_isDigit (all c member)

theorem letter_of_truth {b : Bool} (spelled : Text.sameIgnoringCase raw (boolean b).display = true)
    (member : c ∈ raw) : "truefals".toList.contains c.toLower = true := by
  have lower : c.toLower ∈ (boolean b).display.map Char.toLower := by
    rw [← beq_iff_eq.1 spelled]
    exact List.mem_map_of_mem member
  have letters : ∀ c ∈ (boolean b).display.map Char.toLower, "truefals".toList.contains c = true := by
    cases b <;> exact List.all_eq_true.1 rfl
  exact letters _ lower

theorem Inferred.chars (found : Inferred raw value) (typed : ∀ t, value ≠ .text t) :
    ∀ c ∈ raw, isTypedChar c = true := by
  intro c member
  cases found with
  | truth b spelled =>
    exact Bool.or_eq_true_iff.2 (.inr (letter_of_truth spelled member))
  | whole n text =>
    subst text
    rcases n.chars member with digit | rfl | rfl
    · exact isTypedChar_of_isDigit digit
    · rfl
    · rfl
  | fraction n text =>
    subst text
    rcases List.mem_append.1 member with member | member
    · exact isTypedChar_of_mem_sign n.signed member
    · rcases Fraction.mem_size.1 member with member | rfl | member | member
      · exact isTypedChar_of_isDigit (n.left c member)
      · rfl
      · exact isTypedChar_of_isDigit (n.right c member)
      · exact isTypedChar_of_mem_power n.raised member
  | word => exact absurd rfl (typed raw)

theorem isWordChar_of_letter (letter : "truefals".toList.contains c.toLower = true) : isWordChar c = true := by
  have letters : ∀ c ∈ "truefals".toList, c.isAlpha = true := List.all_eq_true.1 rfl
  have lower : c.toLower.isAlpha = true := letters _ (List.contains_iff_mem.1 letter)
  exact isWordChar_of_name (by simp [Char.isAlphanum, Text.isAlpha_of_toLower lower])

theorem isWordChar_of_isTypedChar (typed : isTypedChar c = true) (other : c ≠ '-') : isWordChar c = true := by
  simp only [isTypedChar, Bool.or_eq_true, or_assoc] at typed
  rcases typed with digit | mark | letter
  · exact isWordChar_of_isDigit digit
  · have signs : c = '.' ∨ c = '+' := by simpa [other] using mark
    rcases signs with rfl | rfl <;> rfl
  · exact isWordChar_of_letter letter

theorem isSolid_of_isTypedChar (typed : isTypedChar c = true) : isSolid c = true := by
  by_cases minus : c = '-'
  · rw [minus]
    rfl
  · exact isSolid_of_isWordChar (isWordChar_of_isTypedChar typed minus)

theorem not_pointed {operand : Operand} (bare : operand.isString = false) :
    ¬ "-.".toList <+: operand.text := by
  rintro ⟨rest, whole⟩
  cases operand with
  | word w =>
    have text : '-' :: '.' :: rest = w.text := whole
    exact absurd (w.plain '-' (by simp [← text])) (by decide)
  | negative w number =>
    have text : '.' :: rest = w.text := (List.cons.inj whole).2
    rw [← text] at number
    cases number
  | string q => cases bare

theorem exists_word {t : Text} (filled : t ≠ []) (plain : ∀ c ∈ t, isWordChar c = true)
    (number : t.head?.any Char.isAlpha = false) : ∃ w : Word, w.text = t := by
  refine ⟨⟨t, filled, plain, ?_⟩, rfl⟩
  obtain ⟨c, rest, rfl⟩ := List.exists_cons_of_ne_nil filled
  exact Decimal.sameIgnoringCase_sign number rfl rest ['n']

theorem exists_signed {sign t : Text} (signed : Decimal.IsSign sign) (plain : ∀ c ∈ t, isWordChar c = true)
    (begins : ∃ c rest, t = c :: rest ∧ (c.isDigit = true ∨ c = '.' ∧ sign ≠ ['-'])) :
    ∃ operand : Operand, operand.isString = false ∧ operand.text = sign ++ t := by
  obtain ⟨c, rest, rfl, start⟩ := begins
  have number : c.isAlpha = false := by
    rcases start with digit | ⟨rfl, _⟩
    · exact Text.isAlpha_of_isDigit digit
    · rfl
  rcases signed with rfl | rfl | rfl
  · obtain ⟨w, text⟩ := exists_word (List.cons_ne_nil c rest) plain number
    exact ⟨.word w, rfl, text⟩
  · obtain ⟨w, text⟩ := exists_word (List.cons_ne_nil c rest) plain number
    have digit : w.text.head?.any Char.isDigit = true := by
      rw [text]
      exact start.resolve_right fun other => other.2 rfl
    exact ⟨.negative w digit, rfl, congrArg ('-' :: ·) text⟩
  · have all : ∀ d ∈ '+' :: c :: rest, isWordChar d = true := List.forall_mem_cons.2 ⟨rfl, plain⟩
    obtain ⟨w, text⟩ := exists_word (List.cons_ne_nil _ _) all rfl
    exact ⟨.word w, rfl, text⟩

/-- Two minus signs keep a fraction from being an operand: one before the point, and one in the power of ten. -/
theorem fraction_operand (n : Fraction) :
    (∃ operand : Operand, operand.isString = false ∧ operand.text = n.text) ∨
      Stray n.text ∧ ("-.".toList <+: n.text ∨ n.power ≠ []) := by
  by_cases pointed : n.sign = ['-'] ∧ n.whole = []
  · have text : n.text = '-' :: '.' :: (n.fraction ++ n.power) := by
      simp [Fraction.text, Fraction.size, pointed]
    rw [text]
    exact .inr ⟨.point _, .inl ⟨_, rfl⟩⟩
  · have begins (t : Text) : ∃ c rest, n.whole ++ '.' :: t = c :: rest ∧
        (c.isDigit = true ∨ c = '.' ∧ n.sign ≠ ['-']) := by
      cases whole : n.whole with
      | nil => exact ⟨'.', t, rfl, .inr ⟨rfl, fun minus => pointed ⟨minus, whole⟩⟩⟩
      | cons d rest => exact ⟨d, rest ++ '.' :: t, rfl, .inl (n.left d (by simp [whole]))⟩
    have operand {t : Text} (plain : ∀ c ∈ t, isWordChar c = true) :
        ∃ operand : Operand, operand.isString = false ∧
          operand.text = n.sign ++ (n.whole ++ '.' :: (n.fraction ++ t)) := by
      refine exists_signed n.signed ?_ (begins _)
      simp only [List.forall_mem_append, List.forall_mem_cons]
      exact ⟨fun c member => isWordChar_of_isDigit (n.left c member), rfl,
        fun c member => isWordChar_of_isDigit (n.right c member), plain⟩
    -- What can still go wrong is the sign of the power.
    obtain ⟨sign, whole, fraction, power, signed, left, right, filled, raised⟩ := n
    cases raised with
    | none => exact .inl (operand (by simp))
    | @some mark middle digits letter separates some all =>
      have mark : isWordChar mark = true := by rcases letter with rfl | rfl <;> rfl
      have plain : ∀ c ∈ digits, isWordChar c = true := fun c member => isWordChar_of_isDigit (all c member)
      rcases separates with rfl | rfl | rfl
      · exact .inl (operand (List.forall_mem_cons.2 ⟨mark, plain⟩))
      · obtain ⟨front, bare, text⟩ := operand (List.forall_mem_singleton.2 mark)
        have stray : Stray (front.text ++ '-' :: digits) := .behind bare digits
        refine .inr ⟨?_, .inr (List.cons_ne_nil _ _)⟩
        simpa [text, Fraction.text, Fraction.size] using stray
      · exact .inl (operand (List.forall_mem_cons.2 ⟨mark, List.forall_mem_cons.2 ⟨rfl, plain⟩⟩))

theorem truth_operand {b : Bool} (spelled : Text.sameIgnoringCase raw (boolean b).display = true) :
    ∃ operand : Operand, operand.isString = false ∧ operand.text = raw := by
  have filled : raw ≠ [] := by
    rintro rfl
    cases b <;> cases spelled
  have plain : ∀ c ∈ raw, isWordChar c = true := fun c member =>
    isWordChar_of_letter (letter_of_truth spelled member)
  have ordinary : Text.sameIgnoringCase raw "in".toList = false := by
    rw [sameIgnoringCase_of_same spelled]
    cases b <;> rfl
  exact ⟨.word ⟨raw, filled, plain, ordinary⟩, rfl, rfl⟩

theorem Inferred.operand_or_stray (found : Inferred raw value) (typed : ∀ t, value ≠ .text t) :
    (∃ operand : Operand, operand.isString = false ∧ operand.text = raw) ∨
      Stray raw ∧ ("-.".toList <+: raw ∨ ∃ x, value = .float x ∧ ¬ ('e' ∉ raw ∧ 'E' ∉ raw)) := by
  cases found with
  | truth b spelled => exact .inl (truth_operand spelled)
  | whole n text => exact .inl ⟨n.operand, n.isString_operand, n.text_operand.trans text⟩
  | fraction n text x =>
    subst text
    refine (fraction_operand n).imp_right fun ⟨stray, cause⟩ => ⟨stray, cause.imp_right fun raised => ?_⟩
    exact ⟨x, rfl, n.power_eq_nil_iff.not.1 raised⟩
  | word => exact absurd rfl (typed raw)

theorem Inferred.not_mem (found : Inferred raw value) (typed : ∀ t, value ≠ .text t) {mark : Char}
    (other : isTypedChar mark = false) : mark ∉ raw := by
  intro member
  rw [found.chars typed mark member] at other
  cases other

theorem Inferred.isMergeField_coerceBare (found : Inferred raw value) (typed : ∀ t, value ≠ .text t) :
    isMergeField (coerceBare raw) = false := by
  have absent : '$' ∉ raw := found.not_mem typed rfl
  cases found with
  | truth b spelled =>
    rw [coerceBare_truth spelled]
    cases b <;> rfl
  | whole n text =>
    subst text
    rw [n.coerceBare]
    exact (isConstant_ofInt _).isMergeField
  | fraction n text x read =>
    subst text
    refine isMergeField_of_head fun dollar => ?_
    have member := List.mem_of_mem_head? dollar
    rw [coerceBare_fraction n read] at member
    split at member
    · exact absurd (mem_floatText_cases member) (by decide)
    · exact absent member
  | word => exact absurd rfl (typed raw)

theorem Inferred.finalizeValue (found : Inferred raw value) (typed : ∀ t, value ≠ .text t)
    {comparator : Comparator} (exactly : comparator ≠ .like) :
    Filter.finalizeValue comparator raw = coerceBare raw := by
  have field : isMergeField raw = false := isMergeField_of_head fun dollar =>
    found.not_mem typed rfl (List.mem_of_mem_head? dollar)
  have unquoted : raw.head?.any Text.isQuote = false := by
    cases raw with
    | nil => rfl
    | cons c rest =>
      have solid := isSolid_of_isTypedChar (found.chars typed c List.mem_cons_self)
      simp only [isSolid, Bool.and_eq_true, Bool.not_eq_true'] at solid
      exact solid.1.2
  simp only [Filter.finalizeValue, field, exactly, unquoted]
  rfl

theorem escapeSpecial_canonicalText (typed : ∀ t, value ≠ .text t) :
    escapeSpecial value.canonicalText = value.canonicalText := by
  cases value with
  | null => rfl
  | boolean b => cases b <;> rfl
  | integer i => exact escapeSpecial_ofInt i.toInt
  | float x =>
    simp only [canonicalText]
    split
    · exact escapeSpecial_plain fun c => mem_floatText_cases
    · rfl
  | text t => exact absurd rfl (typed t)

theorem mergedText_typed (typed : ∀ t, value ≠ .text t) {comparator : Comparator}
    (exactly : comparator ≠ .like) : mergedText comparator value = value.canonicalText := by
  have escaped := escapeSpecial_canonicalText typed
  cases value with
  | text t => exact absurd rfl (typed t)
  | _ => simpa only [mergedText, exactly, if_false] using escaped

end Operands

/-! The two ways from a spelling to SQL. -/

section Ways

open FilterQuery.Filter

variable {raw field : Text} {value : Value}

theorem assignment?_field (isField : isMergeField ('$' :: field) = true)
    (solid : ∀ c ∈ raw, Text.isBlank c = false) :
    assignment? (field ++ '=' :: raw) = some (field, infer raw) := by
  have word : ∀ c ∈ field, isWordChar c = true := fun c member =>
    (Word.ofField field isField).plain c (List.mem_cons_of_mem _ member)
  have unequal : ∀ c ∈ field, (c != '=') = true := by
    intro c member
    rw [bne_iff_ne]
    rintro rfl
    exact absurd (word '=' member) (by decide)
  have visible : ∀ c ∈ field, Text.isBlank c = false := by
    intro c member
    have plain := word c member
    simp only [isWordChar, Bool.and_eq_true, Bool.not_eq_true'] at plain
    exact plain.1.1
  obtain ⟨left, right⟩ := Text.takeWhile_append_stop ('=' :: raw) unequal rfl
  have cut : Text.cutOnce '=' (field ++ '=' :: raw) = some (field, raw) := by
    rw [Text.cutOnce, right, left]
  cases field with
  | nil => cases isField
  | cons c rest =>
    have undollared : c ≠ '$' := by
      rintro rfl
      cases isField
    have name : fieldName (c :: rest) = c :: rest := by
      rw [fieldName, Text.trim_eq_self visible, List.dropWhile_cons_of_neg (by simpa using undollared)]
    rw [assignment?, cut]
    simp [name, Text.trim_eq_self solid]

section Filters

variable {comparator : Comparator} (plain : comparator ≠ .inList) (exactly : comparator ≠ .like)
  (options : Options) (fields : Bindings) (column : Word) (before behind : Nat)
include plain exactly

theorem compile_field (isField : isMergeField ('$' :: field) = true) (typed : ∀ t, value ≠ .text t)
    (free : options = ⟨.legacy, true⟩ → ¬ "IN".toList <:+: column.text ∧ ¬ "IN".toList <:+: field) :
    compile options (fields.insert field value)
        (comparisonText column.text comparator before behind ('$' :: field)) =
      .ok (conditionText column.text comparator value.canonicalText) := by
  have arrowless (legacy : options = ⟨.legacy, true⟩) :
      ArrowFree (column.text ++ comparator.spelling ++ '$' :: field) := by
    have front := (arrowFree_of_absent (free legacy).1).append_other comparator.not_mem_spelling
    have single : ArrowFree ('$' :: field) := .cons (by decide) (arrowFree_of_absent (free legacy).2)
    exact front.append single (by simp)
  have bare : (Operand.word (.ofField field isField)).isString = false := rfl
  have text : (Operand.word (.ofField field isField)).text = '$' :: field := rfl
  have compiled := compile_comparison options (fields.insert field value) column plain before behind bare
    arrowless
  have merged : resolve ⟨column.text, comparator, '$' :: field⟩ (fields.insert field value) =
      value.canonicalText := by
    rw [← mergedText_typed typed exactly]
    simp [resolve, plain, isField, Bindings.get?_insert]
  have final : finalizeValue comparator ('$' :: field) = '$' :: field := if_pos isField
  rwa [text, final, merged] at compiled

/-- What is typed comes to the same SQL as what is assigned, exactly if the two readers agree on it and the
filter reads it as one operand. -/
theorem Inferred.compile_iff (found : Inferred raw value) (typed : ∀ t, value ≠ .text t)
    (free : options = ⟨.legacy, true⟩ → ¬ "IN".toList <:+: column.text) :
    compile options fields (comparisonText column.text comparator before behind raw) =
        .ok (conditionText column.text comparator value.canonicalText) ↔
      (∀ x, value = .float x → x.isFinite = true ∧ 'e' ∉ raw ∧ 'E' ∉ raw) ∧ ¬ "-.".toList <+: raw := by
  have arrowless (legacy : options = ⟨.legacy, true⟩) :
      ArrowFree (column.text ++ comparator.spelling ++ raw) := by
    have front := (arrowFree_of_absent (free legacy)).append_other comparator.not_mem_spelling
    exact front.append_other (found.not_mem typed rfl)
  rcases found.operand_or_stray typed with ⟨operand, bare, text⟩ | ⟨stray, cause⟩
  · have compiled := compile_comparison options fields column plain before behind bare
      fun legacy => text ▸ arrowless legacy
    have kept : resolve ⟨column.text, comparator, coerceBare raw⟩ fields = coerceBare raw := by
      simp [resolve, found.isMergeField_coerceBare typed]
    have whole : ¬ "-.".toList <+: raw := text ▸ not_pointed bare
    rw [text, found.finalizeValue typed exactly, kept] at compiled
    rw [compiled, Except.ok.injEq, conditionText_inj, eq_comm, found.agrees_iff, and_iff_left whole]
  · have solid : ∀ c ∈ raw, isSolid c = true := fun c member =>
      isSolid_of_isTypedChar (found.chars typed c member)
    obtain ⟨e, refused⟩ := stray.compile options fields column plain before behind solid
      (found.not_mem typed rfl) (found.not_mem typed rfl) arrowless
    -- The filter is refused, so one of the two conditions has to fail.
    rw [refused]
    simp only [reduceCtorEq, false_iff, not_and, not_not]
    intro agrees
    rcases cause with pointed | ⟨x, same, raised⟩
    · exact pointed
    · exact absurd (agrees x same).2 raised

end Filters

end Ways

/-- An assigned value has the text that the spelling has in a filter, if and only if it is no number with a
point that has a power of ten or is not finite. What a filter takes for a number or for a truth value is never
assigned as a text. For numbers and truth values, a filter with the assigned field and one with the spelling
itself come to the same SQL under the same condition, unless the spelling begins with a minus sign and a
point: that is no operand of a filter. In the legacy mode, names with the letters of an arrow are not read as
names. -/
theorem infer_agrees_iff (raw : Text) (unquoted : Text.quoted? raw = none)
    (present : Text.sameIgnoringCase raw "null".toList = false) :
    ((infer raw).canonicalText = coerceBare raw ↔ IsPlain raw) ∧
    (IsRecognized raw → ∀ t, infer raw ≠ .text t) ∧
    ((∀ t, infer raw ≠ .text t) → ∀ (options : Filter.Options) (fields : Bindings) (column : Filter.Word)
      (comparator : Filter.Comparator) (field : Text) (before behind : Nat),
      comparator ≠ .inList → comparator ≠ .like → Filter.isMergeField ('$' :: field) = true →
      (options = ⟨.legacy, true⟩ → ¬ "IN".toList <:+: column.text ∧ ¬ "IN".toList <:+: field) →
      ∃ value sql, assignment? (field ++ '=' :: raw) = some (field, value) ∧
        Filter.compile options (fields.insert field value)
          (Filter.comparisonText column.text comparator before behind ('$' :: field)) = .ok sql ∧
        (Filter.compile options (fields.insert field value)
          (Filter.comparisonText column.text comparator before behind raw) = .ok sql ↔
          IsPlain raw ∧ ¬ "-.".toList <+: raw)) := by
  have found := inferred unquoted present
  refine ⟨found.agrees_iff, ?_, ?_⟩
  · intro recognized t same
    rw [same] at found
    obtain rfl := found.eq_text
    exact found.not_recognized recognized
  · intro typed options fields column comparator field before behind plain exactly isField free
    have solid : ∀ c ∈ raw, Text.isBlank c = false := by
      intro c member
      have visible := isSolid_of_isTypedChar (found.chars typed c member)
      simp only [Filter.isSolid, Bool.and_eq_true, Bool.not_eq_true'] at visible
      exact visible.1.1
    refine ⟨infer raw, _, assignment?_field isField solid,
      compile_field plain exactly options fields column before behind isField typed free, ?_⟩
    exact found.compile_iff plain exactly options _ column before behind typed fun legacy => (free legacy).1

theorem infer_agrees_iff_signed :
    let raw := "+01.50".toList
    Text.quoted? raw = none ∧ Text.sameIgnoringCase raw "null".toList = false ∧ IsRecognized raw ∧ IsPlain raw ∧
    (infer raw).canonicalText = coerceBare raw ∧
    ∃ value sql, assignment? "x=+01.50".toList = some (['x'], value) ∧
      Filter.compile {} (Bindings.empty.insert ['x'] value) "c == $x".toList = .ok sql ∧
      Filter.compile {} (Bindings.empty.insert ['x'] value) "c == +01.50".toList = .ok sql := by
  intro raw
  have unquoted : Text.quoted? raw = none := by decide
  have present : Text.sameIgnoringCase raw "null".toList = false := by decide
  have recognized : IsRecognized raw := .inl ⟨by decide +kernel, by decide +kernel⟩
  have canonical : (infer raw).canonicalText = coerceBare raw := by decide +kernel
  let column : Filter.Word := ⟨['c'], by simp, List.forall_mem_singleton.2 rfl, rfl⟩
  obtain ⟨agrees, typed, same⟩ := infer_agrees_iff raw unquoted present
  obtain ⟨value, sql, assigned, merged, equal⟩ := same (typed recognized) {} .empty column .eq ['x'] 1 1
    (by decide) (by decide) (by decide) fun _ => ⟨by decide, by decide⟩
  have plain := agrees.1 canonical
  exact ⟨unquoted, present, recognized, plain, canonical, value, sql, assigned, merged,
    equal.2 ⟨plain, by decide⟩⟩

/-- A power of ten is worked out when the number is assigned and kept when it is typed; a minus sign before a
point is part of a number only when it is assigned. -/
theorem infer_disagrees :
    (infer "1.5e3".toList).canonicalText = "1500".toList ∧ coerceBare "1.5e3".toList = "1.5e3".toList ∧
    (infer "-.5".toList).canonicalText = "-0.5".toList ∧
    Filter.compile {} .empty "c == -.5".toList = .error ⟨.incompleteClause .value, 5⟩ := by
  refine ⟨by decide +kernel, by decide +kernel, by decide +kernel, by decide +kernel⟩

end FilterQuery.Value
