import DuckMachine.Asm.Resolve
import DuckMachine.Proofs.Asm.Recognition
import DuckMachine.Proofs.Instr.Written

/-
  Lines read back.

  An instruction written with or without a label is read as that instruction under that label
  (`parse_renderLabelled`), and blanks at the end of a line change nothing of what it means
  (`parse_trimEnd`): in both cases the grammar says how the line is derived. What a line means
  always fits: its instruction has a word, its target register exists and its label is a name.
-/

namespace DuckMachine

open Text Grammar

namespace Grammar

/-! ## Blanks at the end of a line -/

/-- A line without the blanks at its end still consists of the same label and body. -/
theorem Surrounds.trimEnd {body line : Text} {label : Option Text} (h : Surrounds body label line)
    (solid : EndsSolid body) : Surrounds body label line.trimEnd := by
  have of_kept {kept blanks text : Text} (whole : kept ++ blanks = text) (blank : AllBlank blanks)
      (solid : EndsSolid kept) (surrounds : Surrounds body label kept) :
      Surrounds body label text.trimEnd := by
    rw [← whole, trimEnd_append_blanks _ blank, trimEnd_of_endsSolid solid]
    exact surrounds
  obtain ⟨blank, written, blank_gap, blank_after, is_comment⟩ := h
  rename_i before colon gap after comment
  cases is_comment with
  | @present c text opens newline =>
    -- The blanks belong to the comment, whose first character is none.
    obtain ⟨blanks, blank_end, whole⟩ := trimEnd_append text
    have no_blank : isBlank c = false := by
      by_contra is_blank
      rw [opensComment_of_isBlank (Bool.not_eq_false _ ▸ is_blank)] at opens
      cases opens
    have shorter : IsComment (c :: text.trimEnd) :=
      .present opens fun found => newline (mem_of_mem_trimEnd found)
    refine of_kept ?_ blank_end ?_ (.line blank written blank_gap blank_after shorter)
    · simp only [List.append_assoc, List.cons_append, whole]
    · simp only [← List.append_assoc]
      exact endsSolid_append (List.cons_ne_nil _ _)
        (endsSolid_cons no_blank (endsSolid_trimEnd text))
  | absent =>
    by_cases empty : body = []
    · subst empty
      have blanks : AllBlank (gap ++ after) := List.forall_mem_append.mpr ⟨blank_gap, blank_after⟩
      have none_left : AllBlank [] := by simp [AllBlank]
      cases written with
      | absent =>
        have all := List.forall_mem_append.mpr ⟨blank, blanks⟩
        refine of_kept ?_ all solid (.line none_left .absent none_left none_left .absent)
        simp
      | present writes =>
        obtain ⟨is_name, rfl⟩ := writes
        refine of_kept ?_ blanks ?_
          (.line blank (.present ⟨is_name, rfl⟩) none_left none_left .absent)
        · simp
        · simp only [List.append_nil, ← List.append_assoc]
          exact endsSolid_append (List.cons_ne_nil _ _) (endsSolid_singleton (by decide))
    · have none_left : AllBlank [] := by simp [AllBlank]
      refine of_kept ?_ blank_after ?_ (.line blank written blank_gap none_left .absent)
      · simp
      · simp only [List.append_nil, ← List.append_assoc]
        exact endsSolid_append empty solid

/-- A line without the blanks at its end is derived in the same way. -/
theorem Derives.trimEnd {label : Option Text} {form : Form} {line : Text}
    (h : Derives label form line) : Derives label form line.trimEnd := by
  obtain ⟨body, written, surrounds⟩ := h
  exact ⟨body, written, surrounds.trimEnd written.endsSolid⟩

/-- The label of a line is a name. -/
theorem Derives.isName {label : Option Text} {form : Form} {line : Text}
    (h : Derives label form line) : ∀ name ∈ label, IsName name := by
  obtain ⟨body, -, surrounds⟩ := h
  cases surrounds with
  | line _ written _ _ _ => exact written.forall_mem fun _ _ ⟨is_name, _⟩ => is_name

end Grammar

/-! ## Written instructions as lines -/

theorem Numeral.isRow_decimal (n : Nat) : IsRow Char.isDigit (decimal n) :=
  ⟨decimal_ne_nil n, fun _ => isDigit_of_mem_decimal⟩

namespace Instr

theorem isRegister_registerName (number : Nat) : IsRegister (registerName number) :=
  ⟨_, Numeral.isRow_decimal number, rfl⟩

theorem isNumber_integer (n : Int) : IsNumber (Numeral.integer n) := by
  cases n with
  | ofNat n => exact .plain (Numeral.isRow_decimal n)
  | negSucc n => exact .negative (Numeral.isRow_decimal (n + 1))

theorem writes_predicateText (i : Instr) :
    Maybe WritesPredicate i.writtenPredicate i.predicateText := by
  unfold writtenPredicate predicateText
  split
  · exact .absent
  · exact .present ⟨⟨i.cond.render_ne_nil, i.cond.isAlpha_of_mem_render⟩, rfl⟩

theorem writes_offsetText (i : Instr) : Maybe WritesOffset i.writtenOffset i.offsetText := by
  unfold writtenOffset offsetText
  split
  · exact .absent
  · exact .present ⟨[], [], by simp [AllBlank], by simp [AllBlank], isNumber_integer i.offset, rfl⟩

/-- The text of an instruction is a body. -/
theorem isBody_render (i : Instr) : IsBody (.full i.fields) i.render := by
  have opcode : IsRow Char.isAlpha i.fields.opcode :=
    ⟨i.op.mnemonic_ne_nil, i.op.isAlpha_of_mem_mnemonic⟩
  have slash : Maybe WritesPredicate i.fields.predicate i.predicateText := i.writes_predicateText
  have gap : IsRow isBlank [' '] := ⟨List.cons_ne_nil _ _, by simp; decide⟩
  have target : IsRegister i.fields.target := isRegister_registerName i.target
  have src1 : IsRegister i.fields.src1 := isRegister_registerName i.src1
  have src2 : IsRegister i.fields.src2 := isRegister_registerName i.src2
  have comma : IsComma [','] := ⟨[], [], by simp [AllBlank], by simp [AllBlank], rfl⟩
  have bracket : Maybe WritesOffset i.fields.offset i.offsetText := i.writes_offsetText
  rw [render_eq]
  exact IsBody.full opcode slash gap target comma src1 comma src2 bracket

/-- The text of an instruction consists of word characters, spaces and the marks between its
    parts. -/
theorem not_mem_render {c : Char} (word : isWordChar c = false)
    (mark : c ∉ [' ', ',', '/', '[', ']', '-']) (i : Instr) : c ∉ i.render := by
  simp only [List.mem_cons, List.not_mem_nil, or_false, not_or] at mark
  obtain ⟨space, comma, slash, opening, closing, minus⟩ := mark
  have inside {text : Text} (h : ∀ d ∈ text, isWordChar d = true) : c ∉ text := by
    intro found
    rw [h c found] at word
    cases word
  have letters {text : Text} (h : ∀ d ∈ text, d.isAlpha = true) : c ∉ text :=
    inside fun d hd => isWordChar_of_isAlpha (h d hd)
  have digits {text : Text} (h : IsRow Char.isDigit text) : c ∉ text :=
    inside fun d hd => isWordChar_of_isDigit (h.2 d hd)
  have register (number : Nat) : c ∉ registerName number :=
    inside (isRegister_registerName number).word
  have number {text : Text} (h : IsNumber text) : c ∉ text := by
    cases h with
    | plain row => exact digits row
    | negative row => exact List.not_mem_cons_of_ne_of_not_mem minus (digits row)
  have predicate : c ∉ i.predicateText := by
    unfold predicateText
    split
    · exact List.not_mem_nil
    · exact List.not_mem_cons_of_ne_of_not_mem slash (letters i.cond.isAlpha_of_mem_render)
  have offset : c ∉ i.offsetText := by
    unfold offsetText
    split
    · exact List.not_mem_nil
    · simp [number (isNumber_integer i.offset), opening, closing]
  simp [render_eq, operandText, letters i.op.isAlpha_of_mem_mnemonic, predicate, register, offset,
    space, comma]

theorem newline_not_mem_render (i : Instr) : '\n' ∉ i.render :=
  i.not_mem_render (by decide) (by decide)

theorem derives_renderLabelled {label : Option Text} (h : ∀ name ∈ label, IsName name)
    (i : Instr) : Derives label (.full i.fields) (renderLabelled label i) := by
  refine ⟨i.render, i.isBody_render, ?_⟩
  have none_left : AllBlank [] := by simp [AllBlank]
  cases label with
  | none =>
    have surrounds : Surrounds i.render none _ :=
      .line none_left .absent none_left none_left .absent
    simpa [renderLabelled] using surrounds
  | some name =>
    have space : AllBlank [' '] := by simp [AllBlank]; decide
    have surrounds : Surrounds i.render (some name) _ :=
      .line none_left (.present ⟨h name rfl, rfl⟩) space none_left .absent
    simpa [renderLabelled] using surrounds

end Instr

namespace Line

theorem parse_eq_ok_iff {text : Text} {line : Line} :
    parse text = .ok line ↔
      ∃ form, Form.ofLine? text = some (line.label, form) ∧
        form.statement = .ok line.statement := by
  unfold parse
  cases Form.ofLine? text with
  | none => simp
  | some found =>
    obtain ⟨label, form⟩ := found
    simp only [map_eq_ok_iff, Option.some.injEq, Prod.mk.injEq]
    constructor
    · rintro ⟨statement, h, rfl⟩
      exact ⟨form, ⟨rfl, rfl⟩, h⟩
    · rintro ⟨_, ⟨rfl, rfl⟩, h⟩
      exact ⟨line.statement, h, rfl⟩

/-- A line with an instruction on registers means what the parts of the instruction denote. -/
theorem parse_of_derives {label : Option Text} {fields : Fields} {text : Text}
    (h : Derives label (.full fields) text) :
    parse text = (fields.instr.map fun i => ⟨label, .full i⟩).mapError LineError.field := by
  unfold parse
  rw [Form.ofLine?_eq_some_iff.mpr h]
  dsimp only [Form.statement]
  cases fields.instr <;> rfl

/-- An instruction that fits a word is read back from its text, together with its label. -/
theorem parse_renderLabelled {label : Option Text} {i : Instr}
    (names : ∀ name ∈ label, IsName name) (fits : i.Encodable) :
    parse (renderLabelled label i) = .ok ⟨label, .full i⟩ := by
  rw [parse_of_derives (i.derives_renderLabelled names), Instr.instr_fields fits]
  rfl

/-- A line without the blanks at its end means what the line means. -/
theorem parse_trimEnd {text : Text} {line : Line} (h : parse text = .ok line) :
    parse text.trimEnd = .ok line := by
  obtain ⟨form, found, denoted⟩ := parse_eq_ok_iff.mp h
  have derived := (Form.ofLine?_eq_some_iff.mp found).trimEnd
  exact parse_eq_ok_iff.mpr ⟨form, Form.ofLine?_eq_some_iff.mpr derived, denoted⟩

theorem isName_of_parse {text name : Text} {line : Line} (h : parse text = .ok line)
    (labelled : name ∈ line.label) : IsName name := by
  obtain ⟨form, found, -⟩ := parse_eq_ok_iff.mp h
  exact (Form.ofLine?_eq_some_iff.mp found).isName name labelled

end Line

/-! ## What a line means fits -/

/-- Whether the parts of a statement fit an instruction word, the distance of its label apart. -/
def Statement.Fits : Statement → Prop
  | .full instr => instr.Encodable
  | .symbolic op _ target _ =>
    (∀ number ∈ target, number < registerCount) ∧ (op = .jump → target = none)
  | _ => True

/-- The predicate of an operation on a label, `ALWAYS` if there is none. -/
def Form.readCond : Option Text → Except LineError Cond
  | some text => (readPredicate text).mapError LineError.field
  | none => .ok Cond.always

/-- The target register of an operation on a label, if there is one. -/
def Form.readTarget : Option Text → Except LineError (Option Nat)
  | some text => ((readRegister text).map some).mapError LineError.field
  | none => .ok none

theorem Form.statement_symbolic (op : SymbolicOp) (predicate target : Option Text)
    (symbol : Text) :
    (Form.symbolic op predicate target symbol).statement = (do
      let cond ← readCond predicate
      let target ← readTarget target
      if op = .jump ∧ target.isSome then .error .jumpTarget
      else .ok (.symbolic op cond target symbol)) := by
  cases predicate <;> cases target <;> rfl

theorem Form.lt_of_readTarget {text : Option Text} {target : Option Nat}
    (h : readTarget text = .ok target) : ∀ number ∈ target, number < registerCount := by
  cases text with
  | none =>
    rw [← Except.ok.inj h]
    simp
  | some text =>
    simp only [readTarget, mapError_eq_ok_iff, map_eq_ok_iff] at h
    obtain ⟨found, read, rfl⟩ := h
    simpa using lt_of_readRegister read

theorem Form.fits_of_statement {form : Form} {statement : Statement}
    (h : form.statement = .ok statement) : statement.Fits := by
  cases form with
  | nothing =>
    rw [← Except.ok.inj h]
    trivial
  | full fields =>
    simp only [Form.statement, mapError_eq_ok_iff, map_eq_ok_iff] at h
    obtain ⟨instr, denoted, rfl⟩ := h
    exact Instr.encodable_of_instr denoted
  | data value =>
    cases value with
    | none =>
      rw [← Except.ok.inj h]
      trivial
    | some text =>
      obtain ⟨word, -, rfl⟩ := map_eq_ok_iff.mp h
      trivial
  | symbolic op predicate target symbol =>
    rw [Form.statement_symbolic] at h
    obtain ⟨cond, -, h⟩ := bind_eq_ok_iff.mp h
    obtain ⟨number, register, h⟩ := bind_eq_ok_iff.mp h
    by_cases barred : op = .jump ∧ number.isSome
    · rw [if_pos barred] at h
      cases h
    · rw [if_neg barred] at h
      rw [← Except.ok.inj h]
      refine ⟨Form.lt_of_readTarget register, ?_⟩
      intro jump
      rw [not_and, Option.not_isSome_iff_eq_none] at barred
      exact barred jump

/-- What a line means fits: the instruction can be encoded, and an operation on a label has a
    target that exists, or none if it is a jump. -/
theorem Line.fits_of_parse {text : Text} {line : Line} (h : Line.parse text = .ok line) :
    line.statement.Fits := by
  obtain ⟨form, -, statement⟩ := Line.parse_eq_ok_iff.mp h
  exact Form.fits_of_statement statement

end DuckMachine
