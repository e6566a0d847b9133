import DuckMachine.Proofs.Asm.Line
import DuckMachine.Proofs.Instr.Spelling

/-
  What a line means, said of its derivation.

  The parts of a form denote conditions, numbers and operations, and each has a requirement to meet
  before it does (`Form.requirements`). A line that the grammar derives means what its parts denote
  if all of these are met, and is wrong in the first part whose requirement is not; any other line
  has no form (`Line.parse_follows_grammar`).
-/

namespace DuckMachine

open Text Grammar

namespace Grammar

/-! ## What the parts denote -/

/-- The number of a register. -/
def registerNumber (register : Text) : Nat := Numeral.value 10 register.tail

/-- The value of a number with or without a minus sign. -/
def integer : Text → Int
  | '-' :: digits => -(Numeral.value 10 digits : Int)
  | digits => Numeral.value 10 digits

/-- The value of a data word. -/
def dataInteger : Text → Int
  | '0' :: 'x' :: digits => Numeral.value 16 digits
  | text => integer text

/-- What a predicate denotes, which is `ALWAYS` if it is left out. -/
def SpellsOptional : Option Text → Cond → Prop
  | none, cond => cond = Cond.always
  | some text, cond => Cond.Spells text cond

/-- The value of an offset, which is zero if it is left out. -/
def offsetInteger : Option Text → Int
  | none => 0
  | some text => integer text

/-! ## What has to hold of the parts -/

def opcodeRequirements (name : Text) : Requirements FieldError :=
  [(∃ op : Opcode, op.mnemonic = name, .unknownOpcode name)]

def predicateRequirements : Option Text → Requirements FieldError
  | none => []
  | some text => [(Cond.IsSpelling text, .badPredicate text)]

/-- An offset is a number of 64 bits, and then one of 11 bits. -/
def offsetRequirements : Option Text → Requirements FieldError
  | none => []
  | some text =>
    [(-0x8000000000000000 ≤ integer text ∧ integer text < 0x8000000000000000, .badOffset text),
      (-1024 ≤ integer text ∧ integer text ≤ 1023, .offsetRange (integer text))]

def registerRequirements (register : Text) : Requirements FieldError :=
  [(registerNumber register < 16, .badRegister register)]

def targetRequirements : Option Text → Requirements FieldError
  | none => []
  | some text => registerRequirements text

end Grammar

/-- The instruction that the parts denote. -/
structure Fields.Denotes (f : Fields) (i : Instr) : Prop where
  op : i.op.mnemonic = f.opcode
  cond : SpellsOptional f.predicate i.cond
  target : i.target = registerNumber f.target
  src1 : i.src1 = registerNumber f.src1
  src2 : i.src2 = registerNumber f.src2
  offset : i.offset = offsetInteger f.offset

/-- What has to hold of the parts of an instruction, in the order in which they are looked at. -/
def Fields.requirements (f : Fields) : Requirements FieldError :=
  opcodeRequirements f.opcode ++ (predicateRequirements f.predicate ++
    (offsetRequirements f.offset ++ (registerRequirements f.target ++
      (registerRequirements f.src1 ++ registerRequirements f.src2))))

/-- The statement that a form denotes. -/
inductive Form.Denotes : Form → Statement → Prop where
  | nothing : Denotes .nothing .nothing
  | full {fields : Fields} {instr : Instr} :
      fields.Denotes instr → Denotes (.full fields) (.full instr)
  | zero : Denotes (.data none) (.data 0)
  | data {text : Text} : Denotes (.data (some text)) (.data (Word.ofInt (dataInteger text)))
  | symbolic {op : SymbolicOp} {predicate target : Option Text} {symbol : Text} {cond : Cond} :
      SpellsOptional predicate cond →
      Denotes (.symbolic op predicate target symbol)
        (.symbolic op cond (target.map registerNumber) symbol)

/-- What has to hold of the parts of a form, in the order in which they are looked at. -/
def Form.requirements : Form → Requirements LineError
  | .nothing => []
  | .full fields => fields.requirements.mapError LineError.field
  | .data none => []
  | .data (some text) =>
    [(-0x80000000 ≤ dataInteger text ∧ dataInteger text ≤ 0xffffffff, .dataRange text)]
  | .symbolic op predicate target _ =>
    (predicateRequirements predicate).mapError LineError.field ++
      ((targetRequirements target).mapError LineError.field ++
        [(¬(op = .jump ∧ target.isSome), .jumpTarget)])

/-! ## Reading the parts -/

theorem checks_readOpcode (name : Text) :
    Checks (readOpcode name) (opcodeRequirements name) fun op => op.mnemonic = name := by
  refine Checks.ofOption (Opcode.ofMnemonic? name) ?_ ?_ ?_ Iff.rfl
  · intro op known
    rw [readOpcode, known]
  · intro unknown
    rw [readOpcode, unknown]
  · intro op
    constructor
    · exact Opcode.mnemonic_of_ofMnemonic?
    · rintro rfl
      exact Opcode.ofMnemonic?_mnemonic op

theorem checks_readPredicate (text : Text) :
    Checks (readPredicate text) [(Cond.IsSpelling text, .badPredicate text)]
      (Cond.Spells text) := by
  refine Checks.ofOption (Cond.ofText? text) ?_ ?_ ?_ Cond.isSpelling_iff
  · intro cond known
    rw [readPredicate, known]
  · intro unknown
    rw [readPredicate, unknown]
  · intro cond
    exact Cond.ofText?_eq_some_iff

theorem checks_readRegister {register : Text} (h : IsRegister register) :
    Checks (readRegister register) (registerRequirements register) fun number =>
      number = registerNumber register := by
  obtain ⟨digits, row, rfl⟩ := h
  have read : Numeral.unsigned? digits = some (registerNumber ('r' :: digits)) := by
    rw [Numeral.unsigned?_of_digits row.2, Numeral.natural?_of_digits row.1 row.2]
    rfl
  refine Checks.require ?_ ?_
  · intro small
    simp only [readRegister, read, if_pos small]
  · intro large
    simp only [readRegister, read, if_neg large]

theorem signed?_of_isNumber {text : Text} (h : IsNumber text) :
    Numeral.signed? text = some (integer text) := by
  cases h with
  | negative row =>
    rw [Numeral.signed?, Numeral.natural?_of_digits row.1 row.2]
    rfl
  | plain row =>
    rw [Numeral.signed?_of_digits row.2, Numeral.natural?_of_digits row.1 row.2, Option.map_some]
    unfold integer
    split
    · exact absurd (row.2 '-' List.mem_cons_self) (by decide)
    · rfl

theorem checks_checkOffset (offset : Int) :
    Checks (checkOffset offset)
      [(-1024 ≤ offset ∧ offset ≤ 1023, .offsetRange offset)] fun number => number = offset :=
  Checks.require (fun inside => if_pos inside) fun outside => if_neg outside

theorem checks_readOffset {text : Text} (h : IsNumber text) :
    Checks (readOffset text) (offsetRequirements (some text)) fun offset =>
      offset = integer text := by
  refine (checks_checkOffset (integer text)).guard ?_ ?_
  · intro inside
    simp only [readOffset, signed?_of_isNumber h, if_pos inside]
  · intro outside
    simp only [readOffset, signed?_of_isNumber h, if_neg outside]

theorem dataInteger?_of_isValue {text : Text} (h : IsValue text) :
    dataInteger? text = some (dataInteger text) := by
  cases h with
  | hex row =>
    rw [dataInteger?, Numeral.hex?_of_digits row.1 row.2]
    rfl
  | number number =>
    have plain : ∀ digits, text ≠ '0' :: 'x' :: digits := by
      rintro digits rfl
      cases number with
      | plain row => exact absurd (row.2 'x' (by simp)) (by decide)
    rw [dataInteger?, dataInteger, signed?_of_isNumber number]
    · exact plain
    · exact plain

theorem checks_readData {text : Text} (h : IsValue text) :
    Checks (readData text) (Form.data (some text)).requirements fun word =>
      word = Word.ofInt (dataInteger text) := by
  have bound : dataInteger text ≤ 0xffffffff ↔ dataInteger text < 0x100000000 := by omega
  refine Checks.require ?_ ?_
  · intro inside
    rw [bound] at inside
    simp only [readData, dataInteger?_of_isValue h, if_pos inside]
  · intro outside
    rw [bound] at outside
    simp only [readData, dataInteger?_of_isValue h, if_neg outside]

/-! ## Reading a form -/

theorem checks_readCond (f : Fields) :
    Checks f.readCond (predicateRequirements f.predicate) (SpellsOptional f.predicate) := by
  unfold Fields.readCond
  cases f.predicate with
  | none => exact Checks.ok _
  | some text => exact checks_readPredicate text

theorem checks_readNumber {f : Fields} (h : ∀ text ∈ f.offset, IsNumber text) :
    Checks f.readNumber (offsetRequirements f.offset) fun offset =>
      offset = offsetInteger f.offset := by
  unfold Fields.readNumber
  cases written : f.offset with
  | none => exact Checks.ok _
  | some text => exact checks_readOffset (h text written)

theorem checks_instr {f : Fields} {body : Text} (h : IsBody (.full f) body) :
    Checks f.instr f.requirements f.Denotes := by
  cases h with
  | full opcode slash gap target first src1 second src2 bracket =>
    have number : ∀ text ∈ f.offset, IsNumber text :=
      bracket.forall_mem fun _ _ ⟨_, _, _, _, number, _⟩ => number
    rw [Fields.instr_eq]
    refine Checks.congr ((checks_readOpcode f.opcode).bind fun op _ =>
      (checks_readCond f).bind fun cond _ => (checks_readNumber number).bind fun offset _ =>
      (checks_readRegister target).bind fun number _ =>
      (checks_readRegister src1).bind fun left _ =>
      (checks_readRegister src2).bind fun right _ => Checks.ok _) ?_
    intro _ i
    constructor
    · rintro ⟨op, is_op, cond, is_cond, _, rfl, _, rfl, _, rfl, _, rfl, rfl⟩
      exact ⟨is_op, is_cond, rfl, rfl, rfl, rfl⟩
    · rintro ⟨op, cond, target, src1, src2, offset⟩
      refine ⟨_, op, _, cond, _, rfl, _, rfl, _, rfl, _, rfl, ?_⟩
      rw [← target, ← src1, ← src2, ← offset]

theorem checks_formCond (predicate : Option Text) :
    Checks (Form.readCond predicate) ((predicateRequirements predicate).mapError LineError.field)
      (SpellsOptional predicate) := by
  cases predicate with
  | none => exact Checks.ok _
  | some text => exact (checks_readPredicate text).mapError LineError.field

theorem checks_readTarget {target : Option Text} (h : ∀ text ∈ target, IsRegister text) :
    Checks (Form.readTarget target) ((targetRequirements target).mapError LineError.field)
      fun number => number = target.map registerNumber := by
  cases target with
  | none => exact Checks.ok _
  | some text =>
    refine (((checks_readRegister (h text rfl)).map some).mapError LineError.field).congr ?_
    intro _ number
    simp [eq_comm]

/-- The statement of a form is what its parts denote, or the error of the first part that does not
    denote anything. -/
theorem checks_statement {form : Form} {body : Text} (h : IsBody form body) :
    Checks form.statement form.requirements form.Denotes := by
  cases form with
  | nothing =>
    refine (Checks.ok Statement.nothing).congr ?_
    intro _ statement
    constructor
    · rintro rfl
      exact .nothing
    · rintro ⟨⟩
      rfl
  | full fields =>
    refine (((checks_instr h).map Statement.full).mapError LineError.field).congr ?_
    intro _ statement
    constructor
    · rintro ⟨instr, denoted, rfl⟩
      exact .full denoted
    · rintro ⟨⟩
      exact ⟨_, ‹_›, rfl⟩
  | data value =>
    cases value with
    | none =>
      refine (Checks.ok (Statement.data 0)).congr ?_
      intro _ statement
      constructor
      · rintro rfl
        exact .zero
      · rintro ⟨⟩
        rfl
    | some text =>
      have is_value : IsValue text := by
        cases h with
        | data operand =>
          exact operand.forall_mem (fun _ _ ⟨_, _, value, _⟩ => value) text rfl
      refine ((checks_readData is_value).map Statement.data).congr ?_
      intro _ statement
      constructor
      · rintro ⟨_, rfl, rfl⟩
        exact .data
      · rintro ⟨⟩
        exact ⟨_, rfl, rfl⟩
  | symbolic op predicate target symbol =>
    have is_register : ∀ text ∈ target, IsRegister text := by
      cases h with
      | symbolic slash gap register name =>
        exact register.forall_mem fun _ _ ⟨_, is_register, _⟩ => is_register
    rw [Form.statement_symbolic]
    refine Checks.congr ((checks_formCond predicate).bind fun cond _ =>
      (checks_readTarget is_register).bind fun number same =>
        Checks.require (a := Statement.symbolic op cond number symbol) ?_ ?_) ?_
    · intro allowed
      rw [same, Option.isSome_map, if_neg allowed]
    · intro barred
      rw [same, Option.isSome_map, if_pos (not_not.mp barred)]
    · intro _ statement
      constructor
      · rintro ⟨cond, is_cond, _, rfl, rfl⟩
        exact .symbolic is_cond
      · rintro ⟨⟩
        exact ⟨_, ‹_›, _, rfl, rfl⟩

/-- A form is never refused for want of a form. -/
theorem noMatch_not_mem_requirements (form : Form) :
    ∀ r ∈ form.requirements, r.2 ≠ LineError.noMatch := by
  have of_fields (requirements : Requirements FieldError) :
      ∀ r ∈ requirements.mapError LineError.field, r.2 ≠ LineError.noMatch := by
    intro r found
    obtain ⟨_, -, rfl⟩ := List.mem_map.mp found
    exact LineError.noConfusion
  cases form with
  | nothing => exact fun r found => absurd found List.not_mem_nil
  | full fields => exact of_fields _
  | data value =>
    cases value with
    | none => exact fun r found => absurd found List.not_mem_nil
    | some text => exact List.forall_mem_singleton.mpr LineError.noConfusion
  | symbolic op predicate target symbol =>
    exact List.forall_mem_append.mpr ⟨of_fields _, List.forall_mem_append.mpr
      ⟨of_fields _, List.forall_mem_singleton.mpr LineError.noConfusion⟩⟩

/-! ## Lines -/

namespace Line

/-- The meaning of a line when the forms are tried in a given order. -/
def parseBy (order : List FormKind) (text : Text) : Except LineError Line :=
  match order.findSome? fun kind => kind.readLine? text with
  | none => .error .noMatch
  | some (label, form) => form.statement.map fun statement => { label, statement }

theorem parseBy_eq {order : List FormKind} (all : ∀ kind, kind ∈ order) (text : Text) :
    parseBy order text = parse text := by
  rw [parseBy, Form.findSome?_readLine? all]
  rfl

/-- A derived line is checked part by part. -/
theorem checks_parse {text : Text} {label : Option Text} {form : Form}
    (h : Derives label form text) :
    Checks (parse text) form.requirements fun line =>
      line.label = label ∧ form.Denotes line.statement := by
  have read := Form.ofLine?_eq_some_iff.mpr h
  obtain ⟨body, written, -⟩ := h
  have parsed : parse text = form.statement.map fun statement => ⟨label, statement⟩ := by
    rw [parse, read]
  rw [parsed]
  refine ((checks_statement written).map _).congr fun _ line => ?_
  constructor
  · rintro ⟨statement, denoted, rfl⟩
    exact ⟨rfl, denoted⟩
  · rintro ⟨rfl, denoted⟩
    exact ⟨_, denoted, rfl⟩

/-- A line has no form if and only if the grammar does not derive it. -/
theorem parse_eq_noMatch_iff {text : Text} :
    parse text = .error .noMatch ↔ ¬∃ label form, Derives label form text := by
  constructor
  · rintro none_ ⟨label, form, derived⟩
    obtain ⟨r, found, -, same⟩ := (((checks_parse derived).error_iff _).mp none_).mem
    exact noMatch_not_mem_requirements form r found same
  · intro underived
    have unread : Form.ofLine? text = none := by
      rw [Option.eq_none_iff_forall_ne_some]
      rintro ⟨label, form⟩ read
      exact underived ⟨label, form, Form.ofLine?_eq_some_iff.mp read⟩
    rw [parse, unread]

/-- A line is read as the grammar derives it. It has one derivation at most, with one form and one
    choice of all parts; each form has a reader that finds exactly the derivations of that form, and
    the order in which the four are tried is of no consequence. A line without a derivation has no
    form. Any other means what the parts of its form denote if all of them are valid, and is
    otherwise refused for the first part that is not. -/
theorem parse_follows_grammar :
    (∀ text label form label' form', Derives label form text → Derives label' form' text →
      label = label' ∧ form = form') ∧
    (∀ (kind : FormKind) text label form,
      kind.readLine? text = some (label, form) ↔ form.kind = kind ∧ Derives label form text) ∧
    (∀ order : List FormKind, (∀ kind, kind ∈ order) → ∀ text, parseBy order text = parse text) ∧
    ∀ text,
      (parse text = .error .noMatch ↔ ¬∃ label form, Derives label form text) ∧
      ∀ label form, Derives label form text →
        (∀ line, parse text = .ok line ↔
          form.requirements.Met ∧ line.label = label ∧ form.Denotes line.statement) ∧
        ∀ e, parse text = .error e ↔ form.requirements.FirstUnmet e := by
  refine ⟨fun _ _ _ _ _ => Derives.unique, fun _ _ _ _ => FormKind.readLine?_eq_some_iff,
    fun _ all text => parseBy_eq all text, fun text => ⟨parse_eq_noMatch_iff, ?_⟩⟩
  intro label form derived
  have checked := checks_parse derived
  exact ⟨checked.ok_iff, checked.error_iff⟩

theorem parse_follows_grammar_again :
    parse "again: LOAD/PZ r3,count ; r3".toList =
      .ok ⟨some "again".toList, .symbolic .load ⟨6⟩ (some 3) "count".toList⟩ ∧
    parse "again: LOAD/PZ r3,r4".toList =
      parseBy [.symbolic, .data, .full, .nothing] "again: LOAD/PZ r3,r4".toList ∧
    parse "JUMP r1,again".toList = .error .jumpTarget ∧
    parse "DATA 1,2".toList = .error .noMatch := by
  obtain ⟨unique, -, orders, lines⟩ := parse_follows_grammar
  refine ⟨?_, ?_, ?_, ?_⟩
  · have derived : Derives (some "again".toList)
        (.symbolic .load (some "PZ".toList) (some "r3".toList) "count".toList)
        "again: LOAD/PZ r3,count ; r3".toList :=
      Form.ofLine?_eq_some_iff.mp (by decide)
    have letters : Cond.IsLetterRow "PZ".toList := ⟨by decide, by decide, by simp [Cond.letters]⟩
    refine (((lines _).2 _ _ derived).1 _).mpr ⟨?_, rfl, .symbolic (.row letters (by decide))⟩
    have small : registerNumber "r3".toList < 16 := by decide
    have no_jump : ¬(SymbolicOp.load = .jump ∧ (some "r3".toList).isSome = true) := by decide
    simp only [Form.requirements, predicateRequirements, targetRequirements, registerRequirements,
      Requirements.met_append, Requirements.met_mapError, Requirements.met_cons,
      Requirements.met_nil, and_true]
    exact ⟨.inr (.inr letters), small, no_jump⟩
  · exact (orders _ (by intro kind; cases kind <;> decide) _).symm
  · have derived : Derives none (.symbolic .jump none (some "r1".toList) "again".toList)
        "JUMP r1,again".toList :=
      Form.ofLine?_eq_some_iff.mp (by decide)
    have small : registerNumber "r1".toList < 16 := by decide
    refine (((lines _).2 _ _ derived).2 _).mpr (.inr ⟨small, .inl ⟨?_, rfl⟩⟩)
    simp
  · refine (lines _).1.mpr ?_
    rintro ⟨label, form, derived⟩
    have read := Form.ofLine?_eq_some_iff.mpr derived
    have unread : Form.ofLine? "DATA 1,2".toList = none := by decide
    rw [unread] at read
    cases read

end Line

end DuckMachine
