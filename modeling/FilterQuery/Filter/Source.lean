import FilterQuery.Text.Basic
import FilterQuery.Text.Quoting

/-!
Filter text made ready for scanning: blanks are taken out and the word `IN` is written as an arrow,
and each remaining character knows where it stood in the text that was typed.

The legacy mode takes out every space and turns every `IN` into an arrow, in strings too. The strict
mode leaves strings alone and only takes `IN` for a word of its own.
-/

namespace FilterQuery.Filter

open Text (Quoting isBlank isQuote)

inductive Normalization where
  | legacy | strict
deriving DecidableEq, Repr

structure Source where
  chars : Text
  /-- The typed position of each character. -/
  offsets : List Nat
  /-- The length of the typed text. -/
  stop : Nat
deriving DecidableEq, Repr

def Source.position (source : Source) (index : Nat) : Nat :=
  source.offsets.getD index source.stop

def arrows : Text → Text
  | 'I' :: 'N' :: rest => '-' :: '>' :: arrows rest
  | c :: rest => c :: arrows rest
  | [] => []

def located (t : Text) : List (Char × Nat) := t.zipIdx

def normalizeLegacy (lists : Bool) (t : Text) : Source :=
  let kept := (located t).filter (·.1 ≠ ' ')
  let chars := kept.map Prod.fst
  { chars := if lists then arrows chars else chars
    offsets := kept.map Prod.snd
    stop := t.length }

/-- Whether the word `in` begins with `c`: it comes after a blank and before a blank or an opening
parenthesis. -/
def startsIn (before : Option Char) (c : Char) (rest : Text) : Bool :=
  match before, rest with
  | some b, n :: after :: _ =>
    isBlank b && c.toLower = 'i' && n.toLower = 'n' && (isBlank after || after = '(')
  | _, _ => false

/-- What the strict mode keeps of the text from `index` on, where `before` is the character read last. -/
def strictFrom (lists : Bool) (index : Nat) (q : Quoting) (before : Option Char) :
    Text → List (Char × Nat)
  | [] => []
  | [c] => if !q.holds c && isBlank c then [] else [(c, index)]
  | c :: n :: rest =>
    if q.holds c then (c, index) :: strictFrom lists (index + 1) (q.after c) (some c) (n :: rest)
    else if isBlank c then strictFrom lists (index + 1) (q.after c) (some c) (n :: rest)
    else if lists && startsIn before c (n :: rest) then
      ('-', index) :: ('>', index + 1) ::
        strictFrom lists (index + 2) ((q.after c).after n) (some n) rest
    else (c, index) :: strictFrom lists (index + 1) (q.after c) (some c) (n :: rest)

def normalizeStrict (lists : Bool) (t : Text) : Source :=
  let kept := strictFrom lists 0 {} none t
  { chars := kept.map Prod.fst, offsets := kept.map Prod.snd, stop := t.length }

def normalize (mode : Normalization) (lists : Bool) (t : Text) : Source :=
  match mode with
  | .legacy => normalizeLegacy lists t
  | .strict => normalizeStrict lists t

end FilterQuery.Filter
