import DuckMachine.Proofs.Text.Scan

/-
  The grammar of source lines.

  A line is derived from a label, a form and a comment by rules that say of which parts a text is
  put together, and not how they are found:

      line      ::=  blank* ( name ":" )? blank* body blank* comment?
      body      ::=  ""
                  |  letter+ ( "/" letter+ )? blank+ register comma register comma register
                       ( "[" blank* number blank* "]" )?
                  |  "DATA" ( blank+ value )?
                  |  ( "LOAD" | "STORE" | "JUMP" ) ( "/" letter+ )? blank+ ( register comma )? name
      comma     ::=  blank* "," blank*
      register  ::=  "r" digit+
      number    ::=  "-"? digit+
      value     ::=  "0x" hexdigit+  |  number
      comment   ::=  ( "#" | ";" ) any*              (no line feed)

  A body holds no colon and no character that begins a comment, has no blank at its ends, and the
  number of its commas tells an instruction on registers from all other forms.
-/

namespace DuckMachine

open Text

namespace SymbolicOp

theorem isRow_mnemonic (op : SymbolicOp) : IsRow Char.isAlpha op.mnemonic := by
  have nonempty : op.mnemonic ≠ [] := by
    cases op <;> decide
  have letters : op.mnemonic.all Char.isAlpha = true := by
    cases op <;> decide
  exact ⟨nonempty, List.all_eq_true.mp letters⟩

theorem ofMnemonic?_mnemonic (op : SymbolicOp) : ofMnemonic? op.mnemonic = some op := by
  cases op <;> decide

theorem mnemonic_of_ofMnemonic? {name : Text} {op : SymbolicOp} (h : ofMnemonic? name = some op) :
    op.mnemonic = name := by
  simpa using List.find?_some h

end SymbolicOp

namespace Grammar

/-! ## Parts -/

/-- A part that may be left out, together with the text that it is written in. -/
inductive Maybe (Writes : Text → Text → Prop) : Option Text → Text → Prop where
  | absent : Maybe Writes none []
  | present {part text : Text} : Writes part text → Maybe Writes (some part) text

/-- A comma, which may have blanks on both sides. -/
def IsComma (text : Text) : Prop :=
  ∃ before after, AllBlank before ∧ AllBlank after ∧ text = before ++ ',' :: after

/-- `r` and decimal digits. -/
def IsRegister (text : Text) : Prop := ∃ digits, IsRow Char.isDigit digits ∧ text = 'r' :: digits

/-- Decimal digits with or without a minus sign. -/
inductive IsNumber : Text → Prop where
  | plain {digits : Text} : IsRow Char.isDigit digits → IsNumber digits
  | negative {digits : Text} : IsRow Char.isDigit digits → IsNumber ('-' :: digits)

/-- The value of a data word: hexadecimal digits after `0x`, or a number. -/
inductive IsValue : Text → Prop where
  | hex {digits : Text} : IsRow Numeral.isHexDigit digits → IsValue ('0' :: 'x' :: digits)
  | number {text : Text} : IsNumber text → IsValue text

/-- Nothing, or `#` or `;` and the rest of the line. -/
inductive IsComment : Text → Prop where
  | absent : IsComment []
  | present {c : Char} {text : Text} :
      Form.opensComment c = true → '\n' ∉ text → IsComment (c :: text)

/-- A label is written with a colon after it. -/
def WritesLabel (label text : Text) : Prop := IsName label ∧ text = label ++ [':']

/-- A predicate is written with a slash before it. -/
def WritesPredicate (predicate text : Text) : Prop :=
  IsRow Char.isAlpha predicate ∧ text = '/' :: predicate

/-- An offset is written in brackets, which may have blanks inside. -/
def WritesOffset (offset text : Text) : Prop :=
  ∃ before after, AllBlank before ∧ AllBlank after ∧ IsNumber offset ∧
    text = '[' :: (before ++ (offset ++ (after ++ [']'])))

/-- The target register of an operation on a label is written with a comma after it. -/
def WritesTarget (target text : Text) : Prop :=
  ∃ comma, IsRegister target ∧ IsComma comma ∧ text = target ++ comma

/-- The value of a data word is written with blanks before it. -/
def WritesValue (value text : Text) : Prop :=
  ∃ gap, IsRow isBlank gap ∧ IsValue value ∧ text = gap ++ value

/-! ## Bodies and lines -/

/-- What stands between the label and the comment of a line, without the blanks around it. -/
inductive IsBody : Form → Text → Prop where
  | nothing : IsBody .nothing []
  | full {fields : Fields} {slash gap first second bracket : Text} :
      IsRow Char.isAlpha fields.opcode → Maybe WritesPredicate fields.predicate slash →
      IsRow isBlank gap → IsRegister fields.target → IsComma first → IsRegister fields.src1 →
      IsComma second → IsRegister fields.src2 → Maybe WritesOffset fields.offset bracket →
      IsBody (.full fields)
        (fields.opcode ++ (slash ++ (gap ++ (fields.target ++ (first ++ (fields.src1 ++
          (second ++ (fields.src2 ++ bracket))))))))
  | data {value : Option Text} {operand : Text} :
      Maybe WritesValue value operand → IsBody (.data value) (Form.dataName ++ operand)
  | symbolic {op : SymbolicOp} {predicate target : Option Text} {slash gap register symbol : Text} :
      Maybe WritesPredicate predicate slash → IsRow isBlank gap →
      Maybe WritesTarget target register → IsName symbol →
      IsBody (.symbolic op predicate target symbol)
        (op.mnemonic ++ (slash ++ (gap ++ (register ++ symbol))))

/-- Whether a line consists of a body with a label or none before it, a comment or none after it,
    and blanks in between. -/
inductive Surrounds (body : Text) : Option Text → Text → Prop where
  | line {label : Option Text} {before colon gap after comment : Text} :
      AllBlank before → Maybe WritesLabel label colon → AllBlank gap → AllBlank after →
      IsComment comment →
      Surrounds body label (before ++ (colon ++ (gap ++ (body ++ (after ++ comment)))))

/-- Whether the grammar derives a line with this label and this form. -/
def Derives (label : Option Text) (form : Form) (line : Text) : Prop :=
  ∃ body, IsBody form body ∧ Surrounds body label line

/-! ## The characters of a body -/

/-- The characters of names and numbers, the blanks, and the marks within an instruction apart from
    the comma. -/
def isInner (c : Char) : Bool :=
  isWordChar c || isBlank c || c == '/' || c == '[' || c == ']' || c == '-'

/-- A text in which no comma, colon or comment begins. -/
def Inner (text : Text) : Prop := ∀ c ∈ text, isInner c = true

@[simp] theorem inner_nil : Inner [] := by simp [Inner]

@[simp] theorem inner_cons {c : Char} {text : Text} :
    Inner (c :: text) ↔ isInner c = true ∧ Inner text :=
  List.forall_mem_cons

@[simp] theorem inner_append {start stop : Text} :
    Inner (start ++ stop) ↔ Inner start ∧ Inner stop :=
  List.forall_mem_append

theorem isInner_of_isWordChar {c : Char} (h : isWordChar c = true) : isInner c = true := by
  simp [isInner, h]

theorem inner_of_blank {text : Text} (h : AllBlank text) : Inner text := by
  intro c hc
  simp [isInner, h c hc]

theorem inner_of_word {text : Text} (h : ∀ c ∈ text, isWordChar c = true) : Inner text :=
  fun c hc => isInner_of_isWordChar (h c hc)

theorem inner_of_letters {text : Text} (h : IsRow Char.isAlpha text) : Inner text :=
  inner_of_word fun c hc => isWordChar_of_isAlpha (h.2 c hc)

theorem inner_of_digits {text : Text} (h : IsRow Char.isDigit text) : Inner text :=
  inner_of_word fun c hc => isWordChar_of_isDigit (h.2 c hc)

theorem isWordChar_of_isHexDigit {c : Char} (h : Numeral.isHexDigit c = true) :
    isWordChar c = true := by
  simp only [Numeral.isHexDigit, Bool.or_eq_true, Bool.and_eq_true, decide_eq_true_eq] at h
  rcases h with (digit | ⟨low, high⟩) | ⟨low, high⟩
  · exact isWordChar_of_isDigit digit
  · have lower : c.isLower = true :=
      Bool.and_eq_true_iff.mpr
        ⟨decide_eq_true low, decide_eq_true (UInt32.le_trans high (by decide))⟩
    exact isWordChar_of_isAlpha (Bool.or_eq_true_iff.mpr (.inr lower))
  · have upper : c.isUpper = true :=
      decide_eq_true ⟨low, UInt32.le_trans high (by decide)⟩
    exact isWordChar_of_isAlpha (Bool.or_eq_true_iff.mpr (.inl upper))

theorem IsRegister.word {text : Text} (h : IsRegister text) : ∀ c ∈ text, isWordChar c = true := by
  obtain ⟨digits, row, rfl⟩ := h
  intro c hc
  rcases List.mem_cons.mp hc with rfl | hc
  · exact isWordChar_of_isAlpha (by decide)
  · exact isWordChar_of_isDigit (row.2 c hc)

theorem IsRegister.inner {text : Text} (h : IsRegister text) : Inner text := inner_of_word h.word

theorem IsNumber.inner {text : Text} (h : IsNumber text) : Inner text := by
  cases h with
  | plain row => exact inner_of_digits row
  | negative row => exact inner_cons.mpr ⟨by decide, inner_of_digits row⟩

theorem IsValue.inner {text : Text} (h : IsValue text) : Inner text := by
  cases h with
  | hex row =>
    have digits := inner_of_word fun c hc => isWordChar_of_isHexDigit (row.2 c hc)
    exact inner_cons.mpr ⟨by decide, inner_cons.mpr ⟨by decide, digits⟩⟩
  | number number => exact number.inner

theorem Maybe.inner {Writes : Text → Text → Prop} {part : Option Text} {text : Text}
    (h : Maybe Writes part text) (inner : ∀ part, Writes part text → Inner text) : Inner text := by
  cases h with
  | absent => exact inner_nil
  | present writes => exact inner _ writes

theorem Maybe.forall_mem {Writes : Text → Text → Prop} {P : Text → Prop} {part : Option Text}
    {text : Text} (h : Maybe Writes part text) (writes : ∀ part text, Writes part text → P part) :
    ∀ written ∈ part, P written := by
  cases h with
  | absent => simp
  | present wrote => simpa using writes _ _ wrote

theorem inner_slash {predicate : Option Text} {text : Text}
    (h : Maybe WritesPredicate predicate text) : Inner text := by
  refine h.inner ?_
  rintro part ⟨row, rfl⟩
  exact inner_cons.mpr ⟨by decide, inner_of_letters row⟩

theorem inner_bracket {offset : Option Text} {text : Text} (h : Maybe WritesOffset offset text) :
    Inner text := by
  refine h.inner ?_
  rintro part ⟨before, after, blank, blank_after, number, rfl⟩
  simp only [inner_cons, inner_append, inner_nil, and_true]
  exact ⟨by decide, inner_of_blank blank, number.inner, inner_of_blank blank_after, by decide⟩

theorem inner_operand {value : Option Text} {text : Text} (h : Maybe WritesValue value text) :
    Inner text := by
  refine h.inner ?_
  rintro part ⟨gap, row, value, rfl⟩
  exact inner_append.mpr ⟨inner_of_blank row.2, value.inner⟩

theorem isRow_dataName : IsRow Char.isAlpha Form.dataName := by
  have letters : Form.dataName.all Char.isAlpha = true := by decide
  exact ⟨List.cons_ne_nil _ _, List.all_eq_true.mp letters⟩

/-! ## Commas, colons and comments -/

theorem Inner.count_comma {text : Text} (h : Inner text) : text.count ',' = 0 := by
  rw [List.count_eq_zero]
  intro comma
  exact absurd (h ',' comma) (by decide)

theorem IsComma.count_comma {text : Text} (h : IsComma text) : text.count ',' = 1 := by
  obtain ⟨before, after, blank, blank_after, rfl⟩ := h
  rw [List.count_append, List.count_cons_self, (inner_of_blank blank).count_comma,
    (inner_of_blank blank_after).count_comma]

theorem count_comma_target {target : Option Text} {text : Text}
    (h : Maybe WritesTarget target text) :
    text.count ',' = if target.isSome then 1 else 0 := by
  cases h with
  | absent => rfl
  | present writes =>
    obtain ⟨comma, register, is_comma, rfl⟩ := writes
    rw [List.count_append, register.inner.count_comma, is_comma.count_comma]
    rfl

end Grammar

/-- The number of commas in a line of a form. -/
def Form.commas : Form → Nat
  | .full _ => 2
  | .symbolic _ _ (some _) _ => 1
  | _ => 0

namespace Grammar

theorem IsBody.count_comma {form : Form} {body : Text} (h : IsBody form body) :
    body.count ',' = form.commas := by
  cases h with
  | nothing => rfl
  | full opcode slash gap target first src1 second src2 bracket =>
    simp only [List.count_append, (inner_of_letters opcode).count_comma,
      (inner_slash slash).count_comma, (inner_of_blank gap.2).count_comma,
      target.inner.count_comma, first.count_comma, src1.inner.count_comma, second.count_comma,
      src2.inner.count_comma, (inner_bracket bracket).count_comma]
    rfl
  | data operand =>
    rw [List.count_append, (inner_of_letters isRow_dataName).count_comma,
      (inner_operand operand).count_comma]
    rfl
  | @symbolic op predicate target _ _ _ _ slash gap register symbol =>
    have name := inner_of_word fun c hc => symbol.isWordChar hc
    simp only [List.count_append, (inner_of_letters op.isRow_mnemonic).count_comma,
      (inner_slash slash).count_comma, (inner_of_blank gap.2).count_comma,
      count_comma_target register, name.count_comma]
    cases target <;> rfl

/-- A text in which no colon and no comment begins. -/
def Plain (text : Text) : Prop := ∀ c ∈ text, Form.opensComment c = false ∧ c ≠ ':'

@[simp] theorem plain_append {start stop : Text} :
    Plain (start ++ stop) ↔ Plain start ∧ Plain stop :=
  List.forall_mem_append

theorem Inner.plain {text : Text} (h : Inner text) : Plain text := by
  intro c hc
  have inner := h c hc
  constructor
  · by_contra opens
    simp only [Form.opensComment, Bool.not_eq_false, Bool.or_eq_true, beq_iff_eq] at opens
    rcases opens with rfl | rfl <;> exact absurd inner (by decide)
  · rintro rfl
    exact absurd inner (by decide)

theorem IsComma.plain {text : Text} (h : IsComma text) : Plain text := by
  obtain ⟨before, after, blank, blank_after, rfl⟩ := h
  refine plain_append.mpr ⟨(inner_of_blank blank).plain, List.forall_mem_cons.mpr ⟨by decide, ?_⟩⟩
  exact (inner_of_blank blank_after).plain

/-- A body does not hold the mark that ends a label, nor those that begin a comment. -/
theorem IsBody.plain {form : Form} {body : Text} (h : IsBody form body) : Plain body := by
  cases h with
  | nothing => exact inner_nil.plain
  | full opcode slash gap target first src1 second src2 bracket =>
    simp only [plain_append]
    exact ⟨(inner_of_letters opcode).plain, (inner_slash slash).plain,
      (inner_of_blank gap.2).plain, target.inner.plain, first.plain, src1.inner.plain,
      second.plain, src2.inner.plain, (inner_bracket bracket).plain⟩
  | data operand =>
    exact plain_append.mpr ⟨(inner_of_letters isRow_dataName).plain, (inner_operand operand).plain⟩
  | @symbolic op _ _ _ _ _ _ slash gap register symbol =>
    have name := inner_of_word fun c hc => symbol.isWordChar hc
    simp only [plain_append]
    refine ⟨(inner_of_letters op.isRow_mnemonic).plain, (inner_slash slash).plain,
      (inner_of_blank gap.2).plain, ?_, name.plain⟩
    cases register with
    | absent => exact inner_nil.plain
    | present writes =>
      obtain ⟨comma, target, is_comma, rfl⟩ := writes
      exact plain_append.mpr ⟨target.inner.plain, is_comma.plain⟩

/-! ## The ends of a body -/

theorem endsSolid_word {text : Text} (word : ∀ c ∈ text, isWordChar c = true) : EndsSolid text :=
  endsSolid_of_forall fun c hc => isBlank_of_isWordChar (word c hc)

/-- Blanks do not go on with a class of word characters, unless what follows them does. -/
theorem leaves_append_of_blank {p : Char → Bool} (word : ∀ c, p c = true → isWordChar c = true)
    {gap rest : Text} (blank : AllBlank gap) (leaves : Leaves p rest) : Leaves p (gap ++ rest) := by
  cases gap with
  | nil => exact leaves
  | cons c more => exact leaves_cons.mpr (not_of_isBlank word (blank c List.mem_cons_self))

theorem IsComma.leaves {p : Char → Bool} (word : ∀ c, p c = true → isWordChar c = true)
    {text rest : Text} (h : IsComma text) : Leaves p (text ++ rest) := by
  obtain ⟨before, after, blank, -, rfl⟩ := h
  rw [List.append_assoc]
  refine leaves_append_of_blank word blank (leaves_cons.mpr ?_)
  by_contra inside
  exact absurd (word ',' (Bool.not_eq_false _ ▸ inside)) (by decide)

/-- The name of an operation ends where a predicate or blanks begin. -/
theorem leaves_isAlpha_slash {predicate : Option Text} {slash gap rest : Text}
    (h : Maybe WritesPredicate predicate slash) (row : IsRow isBlank gap) :
    Leaves Char.isAlpha (slash ++ (gap ++ rest)) := by
  cases h with
  | absent => exact row.leaves fun c => not_of_isBlank fun c => isWordChar_of_isAlpha
  | present writes =>
    obtain ⟨-, rfl⟩ := writes
    exact leaves_cons.mpr (by decide)

/-- The last register of an instruction ends where an offset or nothing follows. -/
theorem leaves_isDigit_bracket {offset : Option Text} {bracket : Text}
    (h : Maybe WritesOffset offset bracket) : Leaves Char.isDigit bracket := by
  cases h with
  | absent => exact leaves_nil _
  | present writes =>
    obtain ⟨before, after, -, -, -, rfl⟩ := writes
    exact leaves_cons.mpr (by decide)

theorem IsRegister.leaves_isBlank {text : Text} (h : IsRegister text) (rest : Text) :
    Leaves isBlank (text ++ rest) := by
  obtain ⟨digits, -, rfl⟩ := h
  exact leaves_cons.mpr (by decide)

theorem IsNumber.leaves_isBlank {text : Text} (h : IsNumber text) (rest : Text) :
    Leaves isBlank (text ++ rest) := by
  cases h with
  | plain row =>
    exact row.leaves fun c digit => isBlank_of_isWordChar (isWordChar_of_isDigit digit)
  | negative row => exact leaves_cons.mpr (by decide)

theorem IsValue.leaves_isBlank {text : Text} (h : IsValue text) : Leaves isBlank text := by
  cases h with
  | hex row => exact leaves_cons.mpr (by decide)
  | number number =>
    have leaves := number.leaves_isBlank []
    rwa [List.append_nil] at leaves

theorem leaves_isBlank_name {text : Text} (h : IsName text) (rest : Text) :
    Leaves isBlank (text ++ rest) := by
  obtain ⟨c, more, rfl, alpha, -⟩ := h
  exact leaves_cons.mpr (isBlank_of_isWordChar (isWordChar_of_isAlpha alpha))

theorem IsRegister.ne_nil {text : Text} (h : IsRegister text) : text ≠ [] := by
  obtain ⟨digits, -, rfl⟩ := h
  exact List.cons_ne_nil _ _

/-- A body does not begin with a blank. -/
theorem IsBody.leaves_isBlank {form : Form} {body : Text} (h : IsBody form body) :
    Leaves isBlank body := by
  have solid : ∀ c : Char, c.isAlpha = true → isBlank c = false :=
    fun c alpha => isBlank_of_isWordChar (isWordChar_of_isAlpha alpha)
  cases h with
  | nothing => exact leaves_nil _
  | full opcode => exact opcode.leaves solid
  | data operand => exact isRow_dataName.leaves solid
  | @symbolic op => exact op.isRow_mnemonic.leaves solid

theorem IsNumber.endsSolid {text : Text} (h : IsNumber text) : EndsSolid text := by
  cases h with
  | plain row => exact endsSolid_word fun c hc => isWordChar_of_isDigit (row.2 c hc)
  | @negative digits row =>
    rw [← List.singleton_append]
    exact endsSolid_append row.1 (endsSolid_word fun c hc => isWordChar_of_isDigit (row.2 c hc))

theorem IsNumber.ne_nil {text : Text} (h : IsNumber text) : text ≠ [] := by
  cases h with
  | plain row => exact row.1
  | negative row => exact List.cons_ne_nil _ _

theorem IsValue.endsSolid {text : Text} (h : IsValue text) : EndsSolid text := by
  cases h with
  | hex row =>
    refine endsSolid_word fun c hc => ?_
    rcases List.mem_cons.mp hc with rfl | hc
    · exact isWordChar_of_isDigit (by decide)
    · rcases List.mem_cons.mp hc with rfl | hc
      · exact isWordChar_of_isAlpha (by decide)
      · exact isWordChar_of_isHexDigit (row.2 c hc)
  | number number => exact number.endsSolid

theorem IsValue.ne_nil {text : Text} (h : IsValue text) : text ≠ [] := by
  cases h with
  | hex row => exact List.cons_ne_nil _ _
  | number number => exact number.ne_nil

/-- A register and an offset after it do not end with a blank. -/
theorem endsSolid_bracket {register bracket : Text} {offset : Option Text}
    (h : IsRegister register) (written : Maybe WritesOffset offset bracket) :
    EndsSolid (register ++ bracket) := by
  cases written with
  | absent =>
    rw [List.append_nil]
    exact endsSolid_word h.word
  | present writes =>
    obtain ⟨before, after, -, -, -, rfl⟩ := writes
    have close : EndsSolid [']'] := endsSolid_singleton (by decide)
    refine endsSolid_append (List.cons_ne_nil _ _) ?_
    simp only [← List.cons_append, ← List.append_assoc]
    exact endsSolid_append (List.cons_ne_nil _ _) close

/-- A body does not end with a blank. -/
theorem IsBody.endsSolid {form : Form} {body : Text} (h : IsBody form body) : EndsSolid body := by
  cases h with
  | nothing => exact endsSolid_of_forall (by simp)
  | full opcode slash gap target first src1 second src2 bracket =>
    have last := endsSolid_bracket src2 bracket
    have nonempty := List.append_ne_nil_of_left_ne_nil src2.ne_nil
    simp only [← List.append_assoc] at last nonempty ⊢
    rw [List.append_assoc]
    exact endsSolid_append (nonempty _) last
  | data operand =>
    cases operand with
    | absent =>
      rw [List.append_nil]
      exact endsSolid_word fun c hc => isWordChar_of_isAlpha (isRow_dataName.2 c hc)
    | present writes =>
      obtain ⟨gap, -, value, rfl⟩ := writes
      rw [← List.append_assoc]
      exact endsSolid_append value.ne_nil value.endsSolid
  | symbolic slash gap register symbol =>
    have nonempty := symbol.ne_nil
    simp only [← List.append_assoc]
    exact endsSolid_append nonempty (endsSolid_word fun c hc => symbol.isWordChar hc)

end Grammar

end DuckMachine
