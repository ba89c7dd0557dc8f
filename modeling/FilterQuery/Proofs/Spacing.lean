import Mathlib.Data.List.Chain
import FilterQuery.Proofs.Acceptance
import FilterQuery.Proofs.Offsets
import FilterQuery.Proofs.Trimming

/-!
Filters that both modes read alike. They are typed with spaces around the operators, without strings,
and without the two letters that the legacy mode takes for an arrow.
-/

namespace FilterQuery.Filter

def Lexeme.isOperator : Lexeme → Bool
  | comparator _ | connective _ => true
  | _ => false

/-- A lexeme as it is mostly typed: an operator stands between two spaces. -/
def Lexeme.spaced (lexeme : Lexeme) : Text :=
  if lexeme.isOperator then ' ' :: lexeme.text ++ [' '] else lexeme.text

def spacedText (lexemes : List Lexeme) : Text := lexemes.flatMap Lexeme.spaced

theorem spacedText_cons (lexeme : Lexeme) (lexemes : List Lexeme) :
    spacedText (lexeme :: lexemes) = lexeme.spaced ++ spacedText lexemes := rfl

theorem layout_spacedText (lexemes : List Lexeme) : Layout lexemes (spacedText lexemes) := by
  induction lexemes with
  | nil => exact .stop
  | cons lexeme lexemes ih =>
    rw [spacedText_cons, Lexeme.spaced]
    split
    · have between : Layout (lexeme :: lexemes) (' ' :: (lexeme.text ++ ' ' :: spacedText lexemes)) :=
        .blank rfl (.next (.blank rfl ih))
      simpa using between
    · exact .next ih

def Lexeme.Bare (lexeme : Lexeme) : Prop := ∀ q, lexeme ≠ .operand (.string q)

theorem Lexeme.filter_spaced {lexeme : Lexeme} (bare : lexeme.Bare) :
    lexeme.spaced.filter (· ≠ ' ') = lexeme.text := by
  have solid : lexeme.text.filter (· ≠ ' ') = lexeme.text := by
    refine List.filter_eq_self.2 fun c member => decide_eq_true ?_
    rintro rfl
    exact absurd (lexeme.solid_text bare ' ' member) (by decide)
  rw [spaced]
  split
  · simpa using solid
  · exact solid

theorem filter_spacedText {lexemes : List Lexeme} (bare : ∀ lexeme ∈ lexemes, lexeme.Bare) :
    (spacedText lexemes).filter (· ≠ ' ') = spelled lexemes := by
  induction lexemes with
  | nil => rfl
  | cons lexeme lexemes ih =>
    rw [List.forall_mem_cons] at bare
    rw [spacedText_cons, List.filter_append, Lexeme.filter_spaced bare.1, ih bare.2]
    rfl

/-- No `I` stands directly before an `N`. -/
def ArrowFree (t : Text) : Prop := t.IsChain fun first second => first = 'I' → second ≠ 'N'

theorem arrowFree_of_absent {t : Text} (free : ¬ "IN".toList <:+: t) : ArrowFree t := by
  refine List.isChain_iff_forall_rel_of_append_cons_cons.2 ?_
  rintro first second before after rfl rfl rfl
  exact free ⟨before, after, by simp⟩

theorem ArrowFree.append {s t : Text} (first : ArrowFree s) (second : ArrowFree t)
    (apart : t.head? ≠ some 'N') : ArrowFree (s ++ t) := by
  refine List.IsChain.append first second ?_
  rintro _ _ c found _ rfl
  exact apart found

theorem ArrowFree.append_other {s t : Text} (free : ArrowFree s) (other : 'N' ∉ t) :
    ArrowFree (s ++ t) := by
  have rest : ArrowFree t := by
    refine List.isChain_iff_forall_rel_of_append_cons_cons.2 ?_
    rintro first second before after rfl _ rfl
    simp at other
  refine free.append rest fun found => other (List.mem_of_mem_head? found)

theorem ArrowFree.cons {c : Char} {t : Text} (other : c ≠ 'I') (free : ArrowFree t) :
    ArrowFree (c :: t) :=
  List.IsChain.cons free fun _ _ same => absurd same other

theorem arrows_eq_self {t : Text} (free : ArrowFree t) : arrows t = t := by
  fun_induction arrows t with
  | case1 rest ih => exact absurd rfl (List.IsChain.rel free rfl)
  | case2 c rest other ih => rw [ih (List.IsChain.tail free)]
  | case3 => rfl

theorem parse_spacedText (mode : Normalization) {sentence : Sentence}
    (bare : ∀ lexeme ∈ sentence.lexemes, lexeme.Bare) (free : ArrowFree (spelled sentence.lexemes)) :
    parse ⟨mode, true⟩ (spacedText sentence.lexemes) = .ok sentence.chain.nodes := by
  have chars : (normalize mode true (spacedText sentence.lexemes)).chars =
      spelled sentence.lexemes := by
    cases mode with
    | strict => exact normalizeStrict_sentence sentence (layout_spacedText sentence.lexemes)
    | legacy =>
      rw [normalize, normalizeLegacy_chars, if_pos rfl, filter_spacedText bare]
      exact arrows_eq_self free
  have scanned := scan_sentence sentence
  rw [← chars] at scanned
  simp only [parse, Source.scan, scanned]
  rfl

theorem trim_spacedText_ne_nil {sentence : Sentence}
    (bare : ∀ lexeme ∈ sentence.lexemes, lexeme.Bare) :
    Text.trim (spacedText sentence.lexemes) ≠ [] := by
  have filled : spelled sentence.lexemes ≠ [] := by
    intro empty
    have scanned := scan_sentence sentence
    rw [empty] at scanned
    obtain ⟨node, found, _⟩ := sentence.chain.last_node
    rw [← Except.ok.inj scanned] at found
    cases found
  obtain ⟨c, member⟩ := List.exists_mem_of_ne_nil _ filled
  obtain ⟨lexeme, among, inside⟩ := List.mem_flatMap.1 member
  have solid := lexeme.solid_text (bare lexeme among) c inside
  rw [← filter_spacedText bare] at member
  simp only [isSolid, Bool.and_eq_true, Bool.not_eq_true'] at solid
  intro empty
  have blank := Text.trim_eq_nil_iff.1 empty c (List.mem_filter.1 member).1
  rw [solid.1.1] at blank
  cases blank

end FilterQuery.Filter
