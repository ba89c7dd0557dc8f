import Mathlib.Data.List.Induction
import FilterQuery.Text.Quoting

/-!
Complete strings. A quotation is a text in quotes that ends where its closing quote stands: inside it
the same quote only occurs escaped, and the closing quote is not escaped. A reader that keeps track of
quotes is in the string from the first quote to the last, and out of it behind.
-/

namespace FilterQuery.Text

theorem isEscapedAfter_snoc (t : Text) (c : Char) :
    isEscapedAfter (t ++ [c]) = (c = '\\' && !isEscapedAfter t) := by
  rw [← Quoting.escaped_afterText, ← Quoting.escaped_afterText, Quoting.afterText_append]
  rfl

theorem Quoting.holds_outside (c : Char) : ({} : Quoting).holds c = isQuote c := by
  simp [Quoting.holds]

theorem Quoting.after_plain {q : Quoting} {c : Char} (outside : q.opened = none)
    (quote : isQuote c = false) (slash : c ≠ '\\') : q.after c = {} := by
  simp [Quoting.after, outside, quote, slash]

theorem Quoting.after_outside {c : Char} (quote : isQuote c = false) (slash : c ≠ '\\') :
    ({} : Quoting).after c = {} :=
  after_plain rfl quote slash

/-- What lies in no string satisfies `ok`, for a reader that stands at `q` before the text. -/
def Quoting.Outside (q : Quoting) (ok : Char → Prop) (t : Text) : Prop :=
  ∀ before c after, t = before ++ c :: after → (q.afterText before).holds c = true ∨ ok c

namespace Quoting

variable {q : Quoting} {ok : Char → Prop} {c : Char} {s t : Text}

theorem outside_cons :
    q.Outside ok (c :: t) ↔ (q.holds c = true ∨ ok c) ∧ (q.after c).Outside ok t := by
  constructor
  · intro outside
    refine ⟨outside [] c t rfl, ?_⟩
    intro before found after cut
    exact outside (c :: before) found after (by rw [cut]; rfl)
  · rintro ⟨here, later⟩ before found after cut
    cases before with
    | nil =>
      cases cut
      exact here
    | cons first before =>
      cases cut
      exact later before found after rfl

theorem Outside.append (first : q.Outside ok s) (second : (q.afterText s).Outside ok t) :
    q.Outside ok (s ++ t) := by
  induction s generalizing q with
  | nil => exact second
  | cons c s ih =>
    rw [List.cons_append, outside_cons]
    rw [outside_cons] at first
    exact ⟨first.1, ih first.2 second⟩

theorem outside_of_forall (each : ∀ c ∈ t, ok c) : q.Outside ok t := by
  intro before c after cut
  exact .inr (each c (by simp [cut]))

end Quoting

structure Quotation where
  quote : Char
  isQuote : Text.isQuote quote = true
  body : Text
  /-- Each such quote in the body comes after an odd run of backslashes. -/
  guarded : ∀ before after, body = before ++ quote :: after → isEscapedAfter before = true
  /-- The closing quote does not. -/
  complete : isEscapedAfter body = false

namespace Quotation

def text (q : Quotation) : Text := q.quote :: q.body ++ [q.quote]

theorem quote_ne_backslash (q : Quotation) : q.quote ≠ '\\' := by
  intro same
  have quote := q.isQuote
  rw [same] at quote
  exact absurd quote (by decide)

theorem after_quote (q : Quotation) : ({} : Quoting).after q.quote = ⟨some q.quote, false⟩ := by
  simp [Quoting.after, q.isQuote, q.quote_ne_backslash]

theorem afterText_inside (q : Quotation) {before after : Text} (cut : q.body = before ++ after) :
    (⟨some q.quote, false⟩ : Quoting).afterText before = ⟨some q.quote, isEscapedAfter before⟩ := by
  induction before using List.reverseRecOn generalizing after with
  | nil => rfl
  | append_singleton front c ih =>
    have cutBefore : q.body = front ++ c :: after := by simpa using cut
    have kept : (c = q.quote && !isEscapedAfter front) = false := by
      by_cases same : c = q.quote
      · subst same
        simp [q.guarded front after cutBefore]
      · simp [same]
    rw [Quoting.afterText_append, ih cutBefore, isEscapedAfter_snoc]
    simp [Quoting.afterText, Quoting.after, kept]

theorem afterText_text (q : Quotation) : ({} : Quoting).afterText q.text = {} := by
  have body := q.afterText_inside (q.body.append_nil).symm
  have whole : ({} : Quoting).afterText q.text =
      ((({} : Quoting).after q.quote).afterText q.body).after q.quote := by
    simp [text, Quoting.afterText]
  rw [whole, q.after_quote, body, q.complete]
  simp [Quoting.after, q.quote_ne_backslash]

theorem outside_text (q : Quotation) (ok : Char → Prop) : ({} : Quoting).Outside ok q.text := by
  intro before c after cut
  refine .inl ?_
  cases before with
  | nil =>
    obtain ⟨rfl, _⟩ := List.cons.inj cut
    simp [Quoting.afterText, Quoting.holds, q.isQuote]
  | cons first front =>
    obtain ⟨rfl, inner⟩ := List.cons.inj cut
    -- What is read behind the first quote and before a character is a beginning of the body.
    have beginning : ∃ rest, q.body = front ++ rest := by
      rcases List.eq_nil_or_concat after with rfl | ⟨rest, last, rfl⟩
      · exact ⟨[], by simpa using (List.append_inj' inner rfl).1⟩
      · have ends : q.body ++ [q.quote] = (front ++ c :: rest) ++ [last] := by simpa using inner
        exact ⟨c :: rest, (List.append_inj' ends rfl).1⟩
    obtain ⟨rest, beginning⟩ := beginning
    have state : ({} : Quoting).afterText (q.quote :: front) =
        (({} : Quoting).after q.quote).afterText front := rfl
    rw [state, q.after_quote, q.afterText_inside beginning]
    simp [Quoting.holds]

end Quotation

end FilterQuery.Text
