import FilterQuery.Proofs.Composition

/-!
Spaces mean nothing to the legacy mode. The scanner is given the same characters wherever the spaces of a
filter stand, and nothing that it decides depends on where the characters were typed: two texts that differ
in their spaces only have the same condition, or the same error at the same character.
-/

namespace FilterQuery.Filter

/-- The text without its spaces. -/
def squeezed (t : Text) : Text := t.filter (· ≠ ' ')

theorem squeezed_space (t : Text) : squeezed (' ' :: t) = squeezed t := by simp [squeezed]

theorem squeezed_cons {c : Char} (solid : c ≠ ' ') (t : Text) :
    squeezed (c :: t) = c :: squeezed t := by simp [squeezed, solid]

theorem exists_before (t : Text) (start index : Nat) :
    ∃ before after, t = before ++ after ∧ squeezed before = (squeezed t).take index ∧
      (((t.zipIdx start).filter (·.1 ≠ ' ')).map Prod.snd).getD index (start + t.length) =
        start + before.length := by
  induction t generalizing start index with
  | nil => exact ⟨[], [], rfl, by simp [squeezed], by simp⟩
  | cons c t ih =>
    have length : start + (c :: t).length = start + 1 + t.length := by
      rw [List.length_cons]
      omega
    rw [length, List.zipIdx_cons]
    by_cases space : c = ' '
    · subst space
      obtain ⟨before, after, whole, same, place⟩ := ih (start + 1) index
      refine ⟨' ' :: before, after, by rw [whole]; rfl, ?_, ?_⟩
      · rw [squeezed_space, squeezed_space, same]
      · rw [List.filter_cons_of_neg (by simp), place, List.length_cons]
        omega
    · rw [List.filter_cons_of_pos (by simpa using space), List.map_cons]
      -- The character itself is the one in question, or it is one of those before.
      cases index with
      | zero => exact ⟨[], c :: t, rfl, by simp [squeezed], rfl⟩
      | succ index =>
        obtain ⟨before, after, whole, same, place⟩ := ih (start + 1) index
        refine ⟨c :: before, after, by rw [whole]; rfl, ?_, ?_⟩
        · rw [squeezed_cons space, squeezed_cons space, same, List.take_succ_cons]
        · rw [List.getD_cons_succ, place, List.length_cons]
          omega

theorem squeezed_take_position (lists : Bool) (t : Text) (index : Nat) :
    squeezed (t.take ((normalizeLegacy lists t).position index)) = (squeezed t).take index := by
  obtain ⟨before, after, whole, same, place⟩ := exists_before t 0 index
  have position : (normalizeLegacy lists t).position index = before.length := by
    simpa [Source.position, normalizeLegacy, located] using place
  rw [position, ← same]
  nth_rewrite 1 [whole]
  rw [List.take_left]

theorem squeezed_take_locate (lists : Bool) (t : Text) (e : CompileError) :
    squeezed (t.take ((normalizeLegacy lists t).locate e).position) =
      match e.cause with
      | .unclosedGroup _ | .trailingLogical => squeezed t
      | _ => (squeezed t).take e.position := by
  have atEnd : squeezed (t.take (normalizeLegacy lists t).stop) = squeezed t :=
    congrArg squeezed (List.take_length ..)
  obtain ⟨cause, index⟩ := e
  cases cause with
  | unclosedGroup | trailingLogical => exact atEnd
  | _ => exact squeezed_take_position lists t index

theorem Source.locate_cause (source : Source) (e : CompileError) :
    (source.locate e).cause = e.cause := by
  unfold Source.locate
  split <;> rfl

theorem normalizeLegacy_squeezed (lists : Bool) {t t' : Text} (same : squeezed t = squeezed t') :
    (normalizeLegacy lists t).chars = (normalizeLegacy lists t').chars := by
  have same : t.filter (· ≠ ' ') = t'.filter (· ≠ ' ') := same
  rw [normalizeLegacy_chars, normalizeLegacy_chars, same]

theorem compile_eq_error {options : Options} {t : Text} {e : CompileError} (fields : Bindings)
    (failed : scan options.inLists (normalize options.normalization options.inLists t).chars = .error e) :
    compile options fields t =
      .error ((normalize options.normalization options.inLists t).locate e) := by
  rw [compile, parse, Source.scan, failed]
  rfl

/-- In the legacy mode two texts that differ in spaces only are compiled to the same condition, or they are
refused for the same cause and at the same character: before the one position and before the other, the same
has been typed but for the spaces. -/
theorem compile_squeezed (lists : Bool) (fields : Bindings) (t t' : Text)
    (same : squeezed t = squeezed t') :
    (∃ sql, compile ⟨.legacy, lists⟩ fields t = .ok sql ∧
      compile ⟨.legacy, lists⟩ fields t' = .ok sql) ∨
    ∃ e e', compile ⟨.legacy, lists⟩ fields t = .error e ∧
      compile ⟨.legacy, lists⟩ fields t' = .error e' ∧ e.cause = e'.cause ∧
      squeezed (t.take e.position) = squeezed (t'.take e'.position) := by
  have chars := normalizeLegacy_squeezed lists same
  cases scanned : scan lists (normalizeLegacy lists t).chars with
  | ok nodes =>
    have scanned' := scanned
    rw [chars] at scanned'
    exact .inl ⟨_, compile_eq (parse_eq_scan scanned), compile_eq (parse_eq_scan scanned')⟩
  | error e =>
    have scanned' := scanned
    rw [chars] at scanned'
    refine .inr ⟨_, _, compile_eq_error fields scanned, compile_eq_error fields scanned', ?_, ?_⟩
    · rw [Source.locate_cause, Source.locate_cause]
    · show squeezed (t.take ((normalizeLegacy lists t).locate e).position) = _
      rw [squeezed_take_locate, same, ← squeezed_take_locate]
      rfl

/-- The same mark is at fault behind a string and spaces, and behind a string without them. -/
theorem compile_squeezed_mark :
    (squeezed "a  == 'x y' & b".toList = squeezed "a=='xy'&  b".toList ∧
      compile {} {} "a  == 'x y' & b".toList = .error ⟨.singleLogical '&', 12⟩ ∧
      compile {} {} "a=='xy'&  b".toList = .error ⟨.singleLogical '&', 7⟩) ∧
    squeezed ("a  == 'x y' & b".toList.take 12) = squeezed ("a=='xy'&  b".toList.take 7) := by
  have same : squeezed "a  == 'x y' & b".toList = squeezed "a=='xy'&  b".toList := by decide
  have failed : compile {} {} "a  == 'x y' & b".toList = .error ⟨.singleLogical '&', 12⟩ := by decide
  have failed' : compile {} {} "a=='xy'&  b".toList = .error ⟨.singleLogical '&', 7⟩ := by decide
  refine ⟨⟨same, failed, failed'⟩, ?_⟩
  rcases compile_squeezed true {} _ _ same with ⟨sql, compiled, _⟩ | ⟨e, e', found, found', _, place⟩
  · cases failed.symm.trans compiled
  · cases failed.symm.trans found
    cases failed'.symm.trans found'
    exact place

end FilterQuery.Filter
