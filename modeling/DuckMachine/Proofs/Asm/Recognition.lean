import DuckMachine.Proofs.Asm.Scanners

/-
  Reading a line finds its derivation.

  Each of the four readers of a body finds the bodies of its form and no others
  (`FormKind.read?_eq_some_iff`). The commas of a body and the letters that it begins with tell its
  form, so that a body has at most one (`IsBody.unique`). The form that is read from a line is the
  one from which the grammar derives it (`Form.ofLine?_eq_some_iff`), in whatever order the forms
  are tried (`Form.findSome?_readLine?`).
-/

namespace DuckMachine

open Text Grammar

/-! ## Bodies -/

/-- The four forms, without their parts. -/
inductive FormKind where
  | nothing | full | data | symbolic
  deriving DecidableEq, Repr

/-- Which of the four forms this is. -/
def Form.kind : Form → FormKind
  | .nothing => .nothing
  | .full _ => .full
  | .data _ => .data
  | .symbolic .. => .symbolic

namespace FormKind

/-- The body of one form. -/
def read? : FormKind → Text → Option Form
  | nothing, body => if body = [] then some .nothing else none
  | full, body => (Fields.read? body).map Form.full
  | data, body => Form.readData? body
  | symbolic, body => Form.readSymbolic? body

end FormKind

theorem Fields.read?_eq_some_iff {body : Text} {f : Fields} :
    read? body = some f ↔ IsBody (.full f) body := by
  constructor
  · intro h
    simp only [read?, Scan.letters, Option.bind_eq_bind, Option.bind_eq_some_iff, Prod.exists,
      Scan.run_eq_some_iff, Scan.blanks_eq_some_iff, Scan.register_eq_some_iff,
      Scan.comma_eq_some_iff, Option.ite_none_right_eq_some, Option.some.injEq] at h
    obtain ⟨opcode, _, ⟨letters, -, rfl⟩, predicate, _, slash, _, ⟨gap, blanks, -, rfl⟩,
      target, _, ⟨is_target, -, rfl⟩, _, ⟨first, is_first, -, rfl⟩,
      src1, _, ⟨is_src1, -, rfl⟩, _, ⟨second, is_second, -, rfl⟩,
      src2, _, ⟨is_src2, -, rfl⟩, offset, rest, bracket, rfl, rfl⟩ := h
    obtain ⟨slash, written, rfl⟩ := Scan.writes_of_predicate slash
    obtain ⟨bracket, written_offset, rfl⟩ := Scan.writes_of_offset bracket
    rw [List.append_nil]
    exact .full letters written blanks is_target is_first is_src1 is_second is_src2 written_offset
  · intro h
    cases h with
    | full opcode slash gap target first src1 second src2 bracket =>
      have digits {text rest : Text} (comma : IsComma text) : Leaves Char.isDigit (text ++ rest) :=
        comma.leaves fun c => isWordChar_of_isDigit
      rw [read?, Scan.letters, Scan.run_append opcode.1 opcode.2 (leaves_isAlpha_slash slash gap)]
      simp only [Option.bind_eq_bind, Option.bind_some, Scan.predicate_of_writes slash gap,
        Scan.blanks_eq_some_iff.mpr ⟨_, gap, target.leaves_isBlank _, rfl⟩,
        Scan.register_eq_some_iff.mpr ⟨target, digits first, rfl⟩,
        Scan.comma_eq_some_iff.mpr ⟨_, first, src1.leaves_isBlank _, rfl⟩,
        Scan.register_eq_some_iff.mpr ⟨src1, digits second, rfl⟩,
        Scan.comma_eq_some_iff.mpr ⟨_, second, src2.leaves_isBlank _, rfl⟩,
        Scan.register_eq_some_iff.mpr ⟨src2, leaves_isDigit_bracket bracket, rfl⟩,
        Scan.offset_of_writes bracket, if_pos]

/-- A data word is found, whether a value is written or not. -/
theorem Form.readData?_eq_some_iff {body : Text} {form : Form} :
    readData? body = some form ↔ ∃ value, form = .data value ∧ IsBody (.data value) body := by
  constructor
  · intro h
    simp only [readData?, Scan.letters, Option.bind_eq_bind, Option.bind_eq_some_iff, Prod.exists,
      Scan.run_eq_some_iff] at h
    obtain ⟨name, rest, ⟨-, -, rfl⟩, h⟩ := h
    split at h
    · cases h
    · next known =>
      rw [not_not] at known
      subst known
      split at h
      · next empty =>
        subst empty
        exact ⟨none, (Option.some.inj h).symm, .data .absent⟩
      · simp only [Option.bind_eq_some_iff, Prod.exists, Scan.blanks_eq_some_iff,
          Option.ite_none_right_eq_some, Option.some.injEq] at h
        obtain ⟨_, ⟨gap, row, -, rfl⟩, value, _, scanned, rfl, rfl⟩ := h
        obtain ⟨is_value, rfl⟩ := Scan.dataValue_eq_some_iff.mp scanned
        exact ⟨some value, rfl, .data (.present ⟨gap, row, is_value, rfl⟩)⟩
  · rintro ⟨value, rfl, written⟩
    cases written with
    | data operand =>
      have letters {rest : Text} (leaves : Leaves Char.isAlpha rest) :
          Scan.letters (dataName ++ rest) = some (dataName, rest) :=
        Scan.run_append isRow_dataName.1 isRow_dataName.2 leaves
      cases operand with
      | absent =>
        rw [readData?, letters (leaves_nil _)]
        rfl
      | present writes =>
        obtain ⟨gap, row, is_value, rfl⟩ := writes
        have stop {rest : Text} : Leaves Char.isAlpha (gap ++ rest) :=
          row.leaves fun c => not_of_isBlank fun c => isWordChar_of_isAlpha
        simp only [readData?, letters stop, Option.bind_eq_bind, Option.bind_some, ne_eq,
          not_true_eq_false, if_false, List.append_eq_nil_iff, row.1, false_and,
          Scan.blanks_eq_some_iff.mpr ⟨gap, row, is_value.leaves_isBlank, rfl⟩,
          Scan.dataValue_eq_some_iff.mpr ⟨is_value, rfl⟩, if_pos]

theorem Form.readSymbolic?_eq (body : Text) :
    readSymbolic? body = (do
      let (name, text) ← Scan.letters body
      let op ← SymbolicOp.ofMnemonic? name
      let (predicate, text) ← Scan.predicate text
      let text ← Scan.blanks text
      let (symbol, rest) ← Scan.name (Scan.optionalTarget text).2
      if rest = [] then
        some (.symbolic op predicate (Scan.optionalTarget text).1 symbol)
      else none) :=
  rfl

/-- An operation on a label is found, with a target register or without. -/
theorem Form.readSymbolic?_eq_some_iff {body : Text} {form : Form} :
    readSymbolic? body = some form ↔
      ∃ op predicate target symbol, form = .symbolic op predicate target symbol ∧
        IsBody (.symbolic op predicate target symbol) body := by
  constructor
  · intro h
    simp only [readSymbolic?_eq, Scan.letters, Option.bind_eq_bind, Option.bind_eq_some_iff,
      Prod.exists, Scan.run_eq_some_iff, Scan.blanks_eq_some_iff, Option.ite_none_right_eq_some,
      Option.some.injEq] at h
    obtain ⟨name, _, ⟨-, -, rfl⟩, op, known, predicate, _, slash, operands, ⟨gap, row, -, rfl⟩,
      symbol, _, found, rfl, rfl⟩ := h
    obtain ⟨slash, written, rfl⟩ := Scan.writes_of_predicate slash
    obtain ⟨register, target, is_name, rfl⟩ := Scan.operands_iff.mp ⟨rfl, found⟩
    rw [← SymbolicOp.mnemonic_of_ofMnemonic? known]
    exact ⟨op, predicate, _, symbol, rfl, .symbolic written row target is_name⟩
  · rintro ⟨op, predicate, target, symbol, rfl, written⟩
    cases written with
    | @symbolic _ _ _ _ gap register _ slash row target is_name =>
      obtain ⟨found, name⟩ := Scan.operands_iff.mpr ⟨register, target, is_name, rfl⟩
      have leaves : Leaves isBlank (register ++ symbol) := by
        cases target with
        | absent =>
          have leaves := leaves_isBlank_name is_name []
          rwa [List.append_nil] at leaves
        | present writes =>
          obtain ⟨comma, is_register, -, rfl⟩ := writes
          rw [List.append_assoc]
          exact is_register.leaves_isBlank _
      rw [readSymbolic?_eq, Scan.letters, Scan.run_append op.isRow_mnemonic.1 op.isRow_mnemonic.2
        (leaves_isAlpha_slash slash row)]
      simp only [Option.bind_eq_bind, Option.bind_some, SymbolicOp.ofMnemonic?_mnemonic,
        Scan.predicate_of_writes slash row, Scan.blanks_eq_some_iff.mpr ⟨gap, row, leaves, rfl⟩,
        name, found, if_pos]

/-- The reader of a form finds the bodies of that form, with their parts, and nothing else. -/
theorem FormKind.read?_eq_some_iff {kind : FormKind} {body : Text} {form : Form} :
    kind.read? body = some form ↔ form.kind = kind ∧ IsBody form body := by
  cases kind with
  | nothing =>
    simp only [read?, Option.ite_none_right_eq_some, Option.some.injEq]
    constructor
    · rintro ⟨rfl, rfl⟩
      exact ⟨rfl, .nothing⟩
    · rintro ⟨same, written⟩
      cases written <;> cases same
      exact ⟨rfl, rfl⟩
  | full =>
    simp only [read?, Option.map_eq_some_iff, Fields.read?_eq_some_iff]
    constructor
    · rintro ⟨fields, written, rfl⟩
      exact ⟨rfl, written⟩
    · rintro ⟨same, written⟩
      cases form <;> cases same
      exact ⟨_, written, rfl⟩
  | data =>
    rw [read?, Form.readData?_eq_some_iff]
    constructor
    · rintro ⟨value, rfl, written⟩
      exact ⟨rfl, written⟩
    · rintro ⟨same, written⟩
      cases form <;> cases same
      exact ⟨_, rfl, written⟩
  | symbolic =>
    rw [read?, Form.readSymbolic?_eq_some_iff]
    constructor
    · rintro ⟨op, predicate, target, symbol, rfl, written⟩
      exact ⟨rfl, written⟩
    · rintro ⟨same, written⟩
      cases form <;> cases same
      exact ⟨_, _, _, _, rfl, written⟩

/-! ## One form for a body -/

/-- The letters that a body of a form begins with. -/
def Form.name : Form → Text
  | .nothing => []
  | .full fields => fields.opcode
  | .data _ => dataName
  | .symbolic op _ _ _ => op.mnemonic

theorem Grammar.IsBody.takeWhile_isAlpha {form : Form} {body : Text} (h : IsBody form body) :
    body.takeWhile Char.isAlpha = form.name := by
  cases h with
  | nothing => rfl
  | full opcode slash gap =>
    exact takeWhile_append_of_leaves opcode.2 (leaves_isAlpha_slash slash gap)
  | data operand =>
    refine takeWhile_append_of_leaves isRow_dataName.2 ?_
    cases operand with
    | absent => exact leaves_nil _
    | present writes =>
      obtain ⟨gap, row, -, rfl⟩ := writes
      exact row.leaves fun c => not_of_isBlank fun c => isWordChar_of_isAlpha
  | @symbolic op _ _ _ _ _ _ slash gap =>
    exact takeWhile_append_of_leaves op.isRow_mnemonic.2 (leaves_isAlpha_slash slash gap)

/-- The form of a body with so many commas that begins with these letters. -/
def FormKind.tell (commas : Nat) (name : Text) : FormKind :=
  if commas = 2 then full
  else if name = [] then nothing
  else if name = Form.dataName then data
  else symbolic

theorem Form.kind_eq_tell (form : Form) : form.kind = .tell form.commas form.name := by
  cases form with
  | nothing => rfl
  | full fields => rfl
  | data value => rfl
  | symbolic op predicate target symbol => cases op <;> cases target <;> rfl

/-- The commas of a body and the letters that it begins with tell its form. -/
theorem Grammar.IsBody.kind_eq {form : Form} {body : Text} (h : IsBody form body) :
    form.kind = .tell (body.count ',') (body.takeWhile Char.isAlpha) := by
  rw [h.count_comma, h.takeWhile_isAlpha, Form.kind_eq_tell]

/-- A body has at most one form, with at most one choice of its parts. -/
theorem Grammar.IsBody.unique {form other : Form} {body : Text} (h : IsBody form body)
    (h' : IsBody other body) : form = other := by
  have same : form.kind = other.kind := by rw [h.kind_eq, h'.kind_eq]
  have read := FormKind.read?_eq_some_iff.mpr ⟨same, h⟩
  rw [FormKind.read?_eq_some_iff.mpr ⟨rfl, h'⟩] at read
  exact (Option.some.inj read).symm

/-- The readers of the forms can be tried in any order. -/
theorem findSome?_read? {order : List FormKind} (all : ∀ kind, kind ∈ order) {body : Text}
    {form : Form} : order.findSome? (fun kind => kind.read? body) = some form ↔
      IsBody form body := by
  have sound {found : Form} (h : order.findSome? (fun kind => kind.read? body) = some found) :
      IsBody found body := by
    obtain ⟨kind, -, read⟩ := List.exists_of_findSome?_eq_some h
    exact (FormKind.read?_eq_some_iff.mp read).2
  constructor
  · exact sound
  · intro written
    have read := FormKind.read?_eq_some_iff.mpr ⟨rfl, written⟩
    cases tried : order.findSome? fun kind => kind.read? body with
    | none =>
      rw [List.findSome?_eq_none_iff.mp tried _ (all form.kind)] at read
      cases read
    | some found => rw [(sound tried).unique written]

/-- The order in which the forms are tried. -/
def FormKind.all : List FormKind := [nothing, full, data, symbolic]

theorem Form.ofBody?_eq_findSome? (body : Text) :
    ofBody? body = FormKind.all.findSome? fun kind => kind.read? body := by
  unfold ofBody?
  by_cases empty : body = []
  · simp [FormKind.all, FormKind.read?, empty]
  · simp only [FormKind.all, FormKind.read?, List.findSome?, empty, if_false]
    cases (Fields.read? body).map Form.full <;> cases readData? body <;>
      cases readSymbolic? body <;> rfl

theorem Form.ofBody?_eq_some_iff {body : Text} {form : Form} :
    ofBody? body = some form ↔ IsBody form body := by
  have all : ∀ kind, kind ∈ FormKind.all := by
    intro kind
    cases kind <;> decide
  rw [ofBody?_eq_findSome?, findSome?_read? all]

/-! ## Lines -/

namespace Form

/-- The body among what stands after the label of a line, unless the comment goes on after the end
    of the line. -/
def bodyOf? (rest : Text) : Option Text :=
  if '\n' ∈ (rest.cutAt opensComment).2 then none else some (rest.cutAt opensComment).1.trim

/-- The label and the body of a line. -/
def split? (line : Text) : Option (Option Text × Text) :=
  match Scan.label line.trimStart with
  | some (found, rest) => (bodyOf? rest).map fun body => (some found, body)
  | none => (bodyOf? line.trimStart).map fun body => (none, body)

theorem ofLine?_eq_split? (line : Text) :
    ofLine? line =
      (split? line).bind fun (label, body) => (ofBody? body).map fun form => (label, form) := by
  unfold ofLine? split? bodyOf?
  cases known : Scan.label line.trimStart with
  | none =>
    by_cases newline : '\n' ∈ (line.trimStart.cutAt opensComment).2
    · simp only [known, newline, if_true, Option.map_none, Option.bind_none]
    · simp only [known, newline, if_false, Option.map_some, Option.bind_some]
  | some parts =>
    by_cases newline : '\n' ∈ (parts.2.cutAt opensComment).2
    · simp only [known, newline, if_true, Option.map_none, Option.bind_none]
    · simp only [known, newline, if_false, Option.map_some, Option.bind_some]

/-- A comment begins where no other character is left. -/
theorem isComment_iff {comment : Text} :
    IsComment comment ↔ Leaves (fun c => !opensComment c) comment ∧ '\n' ∉ comment := by
  constructor
  · intro h
    cases h with
    | absent => exact ⟨leaves_nil _, List.not_mem_nil⟩
    | present opens newline =>
      refine ⟨leaves_cons.mpr (by rw [opens]; rfl), List.not_mem_cons_of_ne_of_not_mem ?_ newline⟩
      rintro rfl
      exact absurd opens (by decide)
  · rintro ⟨leaves, newline⟩
    cases comment with
    | nil => exact .absent
    | cons c text =>
      have opens := leaves_cons.mp leaves
      rw [Bool.not_eq_false'] at opens
      exact .present opens (List.not_mem_of_not_mem_cons newline)

/-- A text in which no comment begins is cut off at the comment after it. -/
theorem cutAt_comment {text comment : Text} (plain : Plain text) (is_comment : IsComment comment) :
    (text ++ comment).cutAt opensComment = (text, comment) := by
  have inside : ∀ c ∈ text, (!opensComment c) = true := by
    intro c hc
    rw [(plain c hc).1]
    rfl
  have leaves := (isComment_iff.mp is_comment).1
  rw [cutAt, takeWhile_append_of_leaves inside leaves, dropWhile_append_of_leaves inside leaves]

/-- The body is found between blanks and a comment. -/
theorem bodyOf?_eq_some {gap body after comment : Text} (blank : AllBlank gap)
    (plain : Plain body) (leaves : Leaves isBlank body) (solid : EndsSolid body)
    (blank_after : AllBlank after) (is_comment : IsComment comment) :
    bodyOf? (gap ++ (body ++ (after ++ comment))) = some body := by
  have front : Plain (gap ++ (body ++ after)) :=
    plain_append.mpr ⟨(inner_of_blank blank).plain,
      plain_append.mpr ⟨plain, (inner_of_blank blank_after).plain⟩⟩
  have cut := cutAt_comment front is_comment
  rw [List.append_assoc, List.append_assoc] at cut
  rw [bodyOf?, cut, if_neg (isComment_iff.mp is_comment).2, trim_blanks_append blank,
    trim_append_blanks body blank_after, trim_of_ends leaves solid]

theorem surrounded_of_bodyOf? {rest body : Text} (h : bodyOf? rest = some body) :
    ∃ gap after comment, AllBlank gap ∧ AllBlank after ∧ IsComment comment ∧
      gap ++ (body ++ (after ++ comment)) = rest := by
  unfold bodyOf? at h
  split at h
  · cases h
  · next newline =>
    obtain ⟨gap, after, blank, blank_after, trimmed⟩ := trim_append (rest.cutAt opensComment).1
    rw [Option.some.inj h] at trimmed
    refine ⟨gap, after, (rest.cutAt opensComment).2, blank, blank_after, ?_, ?_⟩
    · exact isComment_iff.mpr ⟨leaves_dropWhile _ _, newline⟩
    · rw [← List.append_assoc body, ← List.append_assoc gap, trimmed, cutAt_append]

/-- Blanks before a body change nothing. -/
theorem bodyOf?_trimStart (rest : Text) : bodyOf? rest.trimStart = bodyOf? rest := by
  obtain ⟨blanks, blank, -, whole⟩ :=
    trimStart_eq_iff.mp (rfl : rest.trimStart = rest.trimStart)
  have plain : ∀ c ∈ blanks, (!opensComment c) = true := by
    intro c hc
    rw [opensComment_of_isBlank (blank c hc)]
    rfl
  have cut : rest.cutAt opensComment =
      (blanks ++ (rest.trimStart.cutAt opensComment).1,
        (rest.trimStart.cutAt opensComment).2) := by
    conv_lhs => rw [← whole]
    rw [cutAt, List.takeWhile_append_of_pos plain, List.dropWhile_append_of_pos plain, cutAt]
  rw [bodyOf?, bodyOf?, cut, trim_blanks_append blank]

theorem surrounds_of_split? {line body : Text} {label : Option Text}
    (h : split? line = some (label, body)) : Surrounds body label line := by
  obtain ⟨before, blank, -, start⟩ :=
    trimStart_eq_iff.mp (rfl : line.trimStart = line.trimStart)
  rw [← start]
  unfold split? at h
  split at h
  · next found rest labelled =>
    obtain ⟨is_name, whole⟩ := Scan.label_eq_some_iff.mp labelled
    obtain ⟨_, found_body, same⟩ := Option.map_eq_some_iff.mp h
    simp only [Prod.mk.injEq] at same
    obtain ⟨rfl, rfl⟩ := same
    obtain ⟨gap, after, comment, blank_gap, blank_after, is_comment, rfl⟩ :=
      surrounded_of_bodyOf? found_body
    rw [whole, ← List.singleton_append, ← List.append_assoc found]
    exact .line blank (.present ⟨is_name, rfl⟩) blank_gap blank_after is_comment
  · obtain ⟨_, found_body, same⟩ := Option.map_eq_some_iff.mp h
    simp only [Prod.mk.injEq] at same
    obtain ⟨rfl, rfl⟩ := same
    obtain ⟨gap, after, comment, blank_gap, blank_after, is_comment, whole⟩ :=
      surrounded_of_bodyOf? found_body
    rw [← whole, ← List.nil_append (gap ++ _)]
    exact .line blank .absent blank_gap blank_after is_comment

/-- There is no label where no colon comes before the comment. -/
theorem label_eq_none {text comment : Text} (plain : Plain text) (is_comment : IsComment comment) :
    Scan.label (text ++ comment).trimStart = none := by
  obtain ⟨blanks, blank, -, whole⟩ :=
    trimStart_eq_iff.mp (rfl : (text ++ comment).trimStart = (text ++ comment).trimStart)
  rw [Option.eq_none_iff_forall_ne_some]
  rintro ⟨found, rest⟩ labelled
  obtain ⟨is_name, start⟩ := Scan.label_eq_some_iff.mp labelled
  -- A label and its colon would lie before the first character that begins a comment.
  have before_comment : ∀ c ∈ blanks ++ (found ++ [':']), (!opensComment c) = true := by
    simp only [List.forall_mem_append, List.forall_mem_singleton, Bool.not_eq_true']
    exact ⟨fun c hc => opensComment_of_isBlank (blank c hc),
      fun c hc => opensComment_of_isWordChar (is_name.isWordChar hc), by decide⟩
  have cut := congrArg Prod.fst (cutAt_comment plain is_comment)
  rw [← whole, start, ← List.singleton_append, ← List.append_assoc found, ← List.append_assoc,
    cutAt, List.takeWhile_append_of_pos before_comment] at cut
  have before_colon : blanks ++ (found ++ [':']) ++ _ = text := cut
  have colon : ':' ∈ text := by simp [← before_colon]
  exact (plain ':' colon).2 rfl

theorem split?_of_surrounds {line body : Text} {label : Option Text} (h : Surrounds body label line)
    (plain : Plain body) (leaves : Leaves isBlank body) (solid : EndsSolid body) :
    split? line = some (label, body) := by
  obtain ⟨blank, written, blank_gap, blank_after, is_comment⟩ := h
  rename_i before colon gap after comment
  cases written with
  | absent =>
    have front : Plain (before ++ (gap ++ (body ++ after))) := by
      simp only [plain_append]
      exact ⟨(inner_of_blank blank).plain, (inner_of_blank blank_gap).plain, plain,
        (inner_of_blank blank_after).plain⟩
    have no_label := label_eq_none front is_comment
    have blanks : AllBlank (before ++ gap) := List.forall_mem_append.mpr ⟨blank, blank_gap⟩
    have found := bodyOf?_eq_some blanks plain leaves solid blank_after is_comment
    simp only [List.append_assoc, List.nil_append] at no_label found ⊢
    rw [split?, no_label, bodyOf?_trimStart, found]
    rfl
  | @present name _ writes =>
    obtain ⟨is_name, rfl⟩ := writes
    have found := bodyOf?_eq_some blank_gap plain leaves solid blank_after is_comment
    have labelled : Scan.label (name ++ ':' :: (gap ++ (body ++ (after ++ comment)))) =
        some (name, gap ++ (body ++ (after ++ comment))) :=
      Scan.label_eq_some_iff.mpr ⟨is_name, rfl⟩
    rw [List.append_assoc, List.singleton_append, split?, trimStart_blanks_append blank,
      trimStart_of_leaves (leaves_isBlank_name is_name _), labelled]
    dsimp only
    rw [found]
    rfl

end Form

/-- A line of one form: its label and the form with its parts. -/
def FormKind.readLine? (kind : FormKind) (line : Text) : Option (Option Text × Form) :=
  (Form.split? line).bind fun (label, body) => (kind.read? body).map fun form => (label, form)

theorem Form.split?_eq_some_iff {form : Form} {body : Text} (h : IsBody form body) {line : Text}
    {label : Option Text} : split? line = some (label, body) ↔ Surrounds body label line :=
  ⟨surrounds_of_split?, fun surrounds =>
    split?_of_surrounds surrounds h.plain h.leaves_isBlank h.endsSolid⟩

/-- Reading bodies by whatever finds the bodies of some forms finds the lines of these forms. -/
theorem Form.readBy_eq_some_iff {read : Text → Option Form} {P : Form → Prop}
    (reads : ∀ body form, read body = some form ↔ P form ∧ IsBody form body) {line : Text}
    {label : Option Text} {form : Form} :
    ((split? line).bind fun (label, body) => (read body).map fun form => (label, form)) =
      some (label, form) ↔ P form ∧ Derives label form line := by
  simp only [Option.bind_eq_some_iff, Prod.exists, Option.map_eq_some_iff, Prod.mk.injEq, reads]
  constructor
  · rintro ⟨_, body, surrounds, _, ⟨holds, written⟩, rfl, rfl⟩
    exact ⟨holds, body, written, (split?_eq_some_iff written).mp surrounds⟩
  · rintro ⟨holds, body, written, surrounds⟩
    exact ⟨label, body, (split?_eq_some_iff written).mpr surrounds, form, ⟨holds, written⟩, rfl,
      rfl⟩

/-- The reader of a form finds the derivations of lines of that form and nothing else. -/
theorem FormKind.readLine?_eq_some_iff {kind : FormKind} {line : Text} {label : Option Text}
    {form : Form} :
    kind.readLine? line = some (label, form) ↔ form.kind = kind ∧ Derives label form line :=
  Form.readBy_eq_some_iff (P := fun form => form.kind = kind) fun _ _ => read?_eq_some_iff

/-- What is read from a line is what the grammar derives it from. -/
theorem Form.ofLine?_eq_some_iff {line : Text} {label : Option Text} {form : Form} :
    ofLine? line = some (label, form) ↔ Derives label form line := by
  rw [ofLine?_eq_split?, readBy_eq_some_iff (P := fun _ => True)]
  · rw [true_and]
  · intro body form
    rw [ofBody?_eq_some_iff, true_and]

/-- The grammar derives a line in one way at most. -/
theorem Grammar.Derives.unique {line : Text} {label label' : Option Text} {form form' : Form}
    (h : Derives label form line) (h' : Derives label' form' line) :
    label = label' ∧ form = form' := by
  have read := Form.ofLine?_eq_some_iff.mpr h
  rw [Form.ofLine?_eq_some_iff.mpr h', Option.some.injEq, Prod.mk.injEq] at read
  exact ⟨read.1.symm, read.2.symm⟩

/-- The forms of a line can be tried in any order. -/
theorem Form.findSome?_readLine? {order : List FormKind} (all : ∀ kind, kind ∈ order)
    (line : Text) : order.findSome? (fun kind => kind.readLine? line) = ofLine? line := by
  cases tried : order.findSome? fun kind => kind.readLine? line with
  | some parts =>
    obtain ⟨kind, -, read⟩ := List.exists_of_findSome?_eq_some tried
    exact (ofLine?_eq_some_iff.mpr (FormKind.readLine?_eq_some_iff.mp read).2).symm
  | none =>
    symm
    rw [Option.eq_none_iff_forall_ne_some]
    rintro ⟨label, form⟩ read
    have own := FormKind.readLine?_eq_some_iff.mpr ⟨rfl, ofLine?_eq_some_iff.mp read⟩
    rw [List.findSome?_eq_none_iff.mp tried _ (all form.kind)] at own
    cases own

end DuckMachine
