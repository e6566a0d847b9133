import DuckMachine.Proofs.Asm.Line

/-
  Instructions that stand alone.

  An instruction can be written without a line around it, between blanks. The text is then a body of
  the grammar of lines, and it can also be read as a line: one without a label and without a comment
  (`standalone_iff`). A label may be written before it and a comment after it, and the line still
  has the same instruction (`Standalone.derives_labelled`).
-/

namespace DuckMachine

open Text Grammar

namespace Grammar

/-- Whether a text is an instruction on registers with these parts, between blanks. -/
def Standalone (fields : Fields) (text : Text) : Prop :=
  ∃ before body after, AllBlank before ∧ AllBlank after ∧ IsBody (.full fields) body ∧
    text = before ++ (body ++ after)

theorem IsBody.standalone {fields : Fields} {body : Text} (h : IsBody (.full fields) body) :
    Standalone fields body :=
  ⟨[], body, [], by simp [AllBlank], by simp [AllBlank], h, by simp⟩

theorem forall_opensComment_iff {text : Text} :
    (∀ c ∈ text, Form.opensComment c = false) ↔ '#' ∉ text ∧ ';' ∉ text := by
  constructor
  · intro none_opens
    exact ⟨fun hash => absurd (none_opens _ hash) (by decide),
      fun semicolon => absurd (none_opens _ semicolon) (by decide)⟩
  · rintro ⟨no_hash, no_semicolon⟩ c hc
    unfold Form.opensComment
    rw [Bool.or_eq_false_iff, beq_eq_false_iff_ne, beq_eq_false_iff_ne]
    exact ⟨fun hash => no_hash (hash ▸ hc), fun semicolon => no_semicolon (semicolon ▸ hc)⟩

/-- A text that stands alone is a line without a label in which no comment begins. -/
theorem standalone_iff {fields : Fields} {text : Text} :
    Standalone fields text ↔
      Derives none (.full fields) text ∧ ∀ c ∈ text, Form.opensComment c = false := by
  constructor
  · rintro ⟨before, body, after, blank, blank_after, written, rfl⟩
    have none_left : AllBlank [] := by simp [AllBlank]
    have surrounds : Surrounds body none _ := .line blank .absent none_left blank_after .absent
    have plain : Plain (before ++ (body ++ after)) :=
      plain_append.mpr ⟨(inner_of_blank blank).plain,
        plain_append.mpr ⟨written.plain, (inner_of_blank blank_after).plain⟩⟩
    refine ⟨⟨body, written, ?_⟩, fun c hc => (plain c hc).1⟩
    simpa using surrounds
  · rintro ⟨⟨body, written, surrounds⟩, none_opens⟩
    obtain ⟨blank, unlabelled, blank_gap, blank_after, is_comment⟩ := surrounds
    rename_i before colon gap after comment
    cases unlabelled
    cases is_comment with
    | absent =>
      refine ⟨before ++ gap, body, after, List.forall_mem_append.mpr ⟨blank, blank_gap⟩,
        blank_after, written, ?_⟩
      simp
    | @present c text opens newline =>
      rw [none_opens c (by simp)] at opens
      cases opens

/-- With a label before it and a comment after it, a text that stands alone is a line. -/
theorem Standalone.derives_labelled {fields : Fields} {text : Text} (h : Standalone fields text)
    {label blanks comment : Text} (name : IsName label) (blank : AllBlank blanks)
    (is_comment : IsComment comment) :
    Derives (some label) (.full fields) (blanks ++ label ++ ':' :: text ++ comment) := by
  obtain ⟨before, body, after, blank_before, blank_after, written, rfl⟩ := h
  have surrounds : Surrounds body (some label) _ :=
    .line blank (.present ⟨name, rfl⟩) blank_before blank_after is_comment
  refine ⟨body, written, ?_⟩
  simpa using surrounds

end Grammar

/-- Whatever blanks there are around an instruction that stands alone, its parts are found. -/
theorem Fields.read?_trim_eq_some_iff {fields : Fields} {text : Text} :
    read? text.trim = some fields ↔ Standalone fields text := by
  rw [read?_eq_some_iff]
  constructor
  · intro written
    obtain ⟨before, after, blank, blank_after, whole⟩ := trim_append text
    exact ⟨before, text.trim, after, blank, blank_after, written, whole.symm⟩
  · rintro ⟨before, body, after, blank, blank_after, written, rfl⟩
    rw [trim_blanks_append blank, trim_append_blanks body blank_after,
      trim_of_ends written.leaves_isBlank written.endsSolid]
    exact written

/-- Only an instruction on registers means an instruction. -/
theorem Form.full_of_statement {form : Form} {i : Instr} (h : form.statement = .ok (.full i)) :
    ∃ fields, form = .full fields ∧ fields.instr = .ok i := by
  cases form with
  | nothing => cases h
  | full fields =>
    obtain ⟨denoted, read, same⟩ := map_eq_ok_iff.mp (mapError_eq_ok_iff.mp h)
    rw [Statement.full.injEq] at same
    exact ⟨fields, rfl, same ▸ read⟩
  | data value =>
    cases value with
    | none => cases h
    | some text =>
      obtain ⟨word, -, different⟩ := map_eq_ok_iff.mp h
      cases different
  | symbolic op predicate target symbol =>
    rw [Form.statement_symbolic] at h
    obtain ⟨cond, -, h⟩ := bind_eq_ok_iff.mp h
    obtain ⟨number, -, h⟩ := bind_eq_ok_iff.mp h
    split at h <;> cases h

theorem Line.derives_of_parse {label : Option Text} {i : Instr} {text : Text}
    (h : Line.parse text = .ok ⟨label, .full i⟩) :
    ∃ fields, Derives label (.full fields) text ∧ fields.instr = .ok i := by
  obtain ⟨form, found, denoted⟩ := Line.parse_eq_ok_iff.mp h
  obtain ⟨fields, rfl, read⟩ := Form.full_of_statement denoted
  exact ⟨fields, Form.ofLine?_eq_some_iff.mp found, read⟩

namespace Instr

theorem ofText_of_standalone {fields : Fields} {text : Text} (h : Standalone fields text) :
    ofText text = fields.instr := by
  unfold ofText
  rw [Fields.read?_trim_eq_some_iff.mpr h]

/-- A text of which an instruction is read, or of which a part is wrong, stands alone. -/
theorem standalone_of_ofText {text : Text} (h : ofText text ≠ .error (.malformed text)) :
    ∃ fields, Standalone fields text := by
  unfold ofText at h
  cases found : Fields.read? text.trim with
  | none =>
    rw [found] at h
    exact absurd rfl h
  | some fields => exact ⟨fields, Fields.read?_trim_eq_some_iff.mp found⟩

/-- An instruction is read from a text that stands alone just as it is from a line: the text is
    accepted if it is a line with this instruction, without a label and without a comment. If a part
    of it is wrong, the line is wrong in the same way. And a line that has a label before the text
    and a comment after it has the label and the same instruction. -/
theorem ofText_agrees_with_parse :
    (∀ text i, ofText text = .ok i ↔
      Line.parse text = .ok ⟨none, .full i⟩ ∧ '#' ∉ text ∧ ';' ∉ text) ∧
    (∀ text e, ofText text = .error e → (∀ whole, e ≠ .malformed whole) →
      Line.parse text = .error (.field e)) ∧
    ∀ text i, ofText text = .ok i → ∀ label blanks mark comment, IsName label → AllBlank blanks →
      (mark = '#' ∨ mark = ';') → '\n' ∉ comment →
      Line.parse (blanks ++ label ++ ':' :: text ++ mark :: comment) =
        .ok ⟨some label, .full i⟩ := by
  refine ⟨?_, ?_, ?_⟩
  · intro text i
    constructor
    · intro accepted
      obtain ⟨fields, alone⟩ := standalone_of_ofText (by rw [accepted]; simp)
      obtain ⟨derived, none_opens⟩ := standalone_iff.mp alone
      rw [ofText_of_standalone alone] at accepted
      rw [Line.parse_of_derives derived, accepted]
      exact ⟨rfl, forall_opensComment_iff.mp none_opens⟩
    · rintro ⟨parsed, none_opens⟩
      obtain ⟨fields, derived, denoted⟩ := Line.derives_of_parse parsed
      have alone := standalone_iff.mpr ⟨derived, forall_opensComment_iff.mpr none_opens⟩
      rw [ofText_of_standalone alone, denoted]
  · intro text e refused part
    obtain ⟨fields, alone⟩ := standalone_of_ofText (by rw [refused]; simpa using part text)
    rw [ofText_of_standalone alone] at refused
    rw [Line.parse_of_derives (standalone_iff.mp alone).1, refused]
    rfl
  · intro text i accepted label blanks mark comment name blank opens newline
    obtain ⟨fields, alone⟩ := standalone_of_ofText (by rw [accepted]; simp)
    have is_comment : IsComment (mark :: comment) := by
      apply IsComment.present _ newline
      rcases opens with rfl | rfl <;> decide
    rw [ofText_of_standalone alone] at accepted
    rw [Line.parse_of_derives (alone.derives_labelled name blank is_comment), accepted]
    rfl

/-- An instruction with blanks wherever they are allowed, line feeds among them. -/
def spacedText : Text := "\n SUB/ZP\u00a0\n r1 ,r2\t, r15[ -12 ]\n".toList

/-- What the spaced text says. -/
def spacedInstr : Instr :=
  { op := .sub, cond := Cond.zero.union Cond.positive, target := 1, src1 := 2, src2 := 15,
    offset := -12 }

theorem ofText_agrees_with_parse_spacedText :
    Line.parse spacedText = .ok ⟨none, .full spacedInstr⟩ ∧
      Line.parse ("\t".toList ++ "x1".toList ++ ':' :: spacedText ++ ';' :: "# :".toList) =
        .ok ⟨some "x1".toList, .full spacedInstr⟩ ∧
      ofText "ADD r0,r0,r0;".toList ≠ .ok { op := .add, target := 0, src1 := 0, src2 := 0 } ∧
      Line.parse "ADD r16,r0,r0".toList = .error (.field (.badRegister "r16".toList)) := by
  have accepted : ofText spacedText = .ok spacedInstr := by decide
  have refused : ofText "ADD r16,r0,r0".toList = .error (.badRegister "r16".toList) := by decide
  have name : IsName "x1".toList := ⟨'x', ['1'], rfl, by decide,
    List.forall_mem_singleton.mpr (isWordChar_of_isDigit (by decide))⟩
  have blank : AllBlank "\t".toList := List.forall_mem_singleton.mpr (by decide)
  obtain ⟨same, wrong, labelled⟩ := ofText_agrees_with_parse
  refine ⟨((same _ _).mp accepted).1, ?_, ?_, ?_⟩
  · exact labelled _ _ accepted _ _ ';' _ name blank (.inr rfl) (by decide)
  · intro semicolon
    exact ((same _ _).mp semicolon).2.2 (by decide)
  · exact wrong _ _ refused (by simp)

end Instr

end DuckMachine
