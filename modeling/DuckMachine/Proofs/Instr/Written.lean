import DuckMachine.Instr.Fields
import DuckMachine.Proofs.Outcome
import DuckMachine.Proofs.Text.Numeral

/-
  Written instructions read back.

  The parts that the text of an instruction is put together from (`render_eq`) denote the
  instruction, provided that it fits a word (`instr_fields`). Whatever the parts, an instruction
  that they denote fits a word (`encodable_of_instr`).
-/

namespace DuckMachine

open Text

namespace Cond

theorem render_ne_nil (a : Cond) : a.render ≠ [] := by
  obtain ⟨bits⟩ := a
  revert bits
  decide

theorem isAlpha_of_mem_render (a : Cond) : ∀ c ∈ a.render, c.isAlpha = true := by
  have all : a.render.all Char.isAlpha = true := by
    obtain ⟨bits⟩ := a
    revert bits
    decide
  exact List.all_eq_true.mp all

end Cond

namespace Opcode

theorem mnemonic_ne_nil (op : Opcode) : op.mnemonic ≠ [] := by
  cases op <;> decide

theorem isAlpha_of_mem_mnemonic (op : Opcode) : ∀ c ∈ op.mnemonic, c.isAlpha = true := by
  have all : op.mnemonic.all Char.isAlpha = true := by
    cases op <;> decide
  exact List.all_eq_true.mp all

end Opcode

namespace Instr

/-- The predicate in the text of an instruction, unless it is `ALWAYS`. -/
def writtenPredicate (i : Instr) : Option Text :=
  if i.cond = Cond.always then none else some i.cond.render

/-- The offset in the text of an instruction, unless it is zero. -/
def writtenOffset (i : Instr) : Option Text :=
  if i.offset = 0 then none else some (Numeral.integer i.offset)

/-- The parts that the text of an instruction is put together from. -/
def fields (i : Instr) : Fields :=
  { opcode := i.op.mnemonic
    predicate := i.writtenPredicate
    target := registerName i.target
    src1 := registerName i.src1
    src2 := registerName i.src2
    offset := i.writtenOffset }

/-- The last part of the text of an instruction: the offset in brackets. -/
def offsetText (i : Instr) : Text :=
  if i.offset = 0 then [] else '[' :: (Numeral.integer i.offset ++ [']'])

/-- The part of the text of an instruction that comes after its opcode and predicate. -/
def operandText (i : Instr) : Text :=
  ' ' :: (registerName i.target
    ++ ',' :: (registerName i.src1 ++ ',' :: (registerName i.src2 ++ i.offsetText)))

/-- The part of the text of an instruction between its opcode and its operands. -/
def predicateText (i : Instr) : Text :=
  if i.cond = Cond.always then [] else '/' :: i.cond.render

theorem render_eq (i : Instr) :
    i.render = i.op.mnemonic ++ (i.predicateText ++ i.operandText) := by
  simp [render, predicateText, operandText, offsetText]

theorem render_ne_nil (i : Instr) : i.render ≠ [] := by
  rw [render_eq]
  exact List.append_ne_nil_of_left_ne_nil i.op.mnemonic_ne_nil _

/-! ## Reading the parts -/

theorem readOpcode_mnemonic (op : Opcode) : readOpcode op.mnemonic = .ok op := by
  rw [readOpcode, Opcode.ofMnemonic?_mnemonic]

theorem readPredicate_render (a : Cond) : readPredicate a.render = .ok a := by
  rw [readPredicate, Cond.ofText?_render]

theorem readRegister_registerName {number : Nat} (h : number < registerCount) :
    readRegister (registerName number) = .ok number := by
  simp only [registerName, readRegister, Numeral.unsigned?_decimal, if_pos h]

theorem readOffset_integer {n : Int} (h : -1024 ≤ n ∧ n ≤ 1023) :
    readOffset (Numeral.integer n) = .ok n := by
  have inside : -0x8000000000000000 ≤ n ∧ n < 0x8000000000000000 := by omega
  simp only [readOffset, Numeral.signed?_integer, if_pos inside, checkOffset, if_pos h]

end Instr

namespace Fields

/-- The predicate among the parts, `ALWAYS` if there is none. -/
def readCond (f : Fields) : Except FieldError Cond :=
  match f.predicate with
  | some text => readPredicate text
  | none => .ok Cond.always

/-- The offset among the parts, zero if there is none. -/
def readNumber (f : Fields) : Except FieldError Int :=
  match f.offset with
  | some text => readOffset text
  | none => .ok 0

theorem instr_eq (f : Fields) :
    f.instr = (do
      let op ← readOpcode f.opcode
      let cond ← f.readCond
      let offset ← f.readNumber
      let target ← readRegister f.target
      let src1 ← readRegister f.src1
      let src2 ← readRegister f.src2
      pure { op, cond, target, src1, src2, offset }) := by
  unfold instr readCond readNumber
  cases f.predicate <;> cases f.offset <;> rfl

/-- The parts denote an instruction if and only if each denotes a part of it. -/
theorem instr_eq_ok_iff {f : Fields} {i : Instr} :
    f.instr = .ok i ↔
      readOpcode f.opcode = .ok i.op ∧ f.readCond = .ok i.cond ∧ f.readNumber = .ok i.offset ∧
        readRegister f.target = .ok i.target ∧ readRegister f.src1 = .ok i.src1 ∧
        readRegister f.src2 = .ok i.src2 := by
  rw [instr_eq]
  simp only [bind_eq_ok_iff, pure, Except.pure, Except.ok.injEq]
  constructor
  · rintro ⟨op, hop, cond, hcond, offset, hoffset, target, htarget, src1, hsrc1, src2, hsrc2, rfl⟩
    exact ⟨hop, hcond, hoffset, htarget, hsrc1, hsrc2⟩
  · rintro ⟨hop, hcond, hoffset, htarget, hsrc1, hsrc2⟩
    exact ⟨_, hop, _, hcond, _, hoffset, _, htarget, _, hsrc1, _, hsrc2, rfl⟩

end Fields

theorem lt_of_readRegister {text : Text} {number : Nat} (h : readRegister text = .ok number) :
    number < registerCount := by
  unfold readRegister at h
  split at h
  · split at h
    · split at h
      · next small =>
        rw [← Except.ok.inj h]
        exact small
      · cases h
    · cases h
  · cases h

theorem bounds_of_checkOffset {offset number : Int} (h : checkOffset offset = .ok number) :
    number = offset ∧ -1024 ≤ offset ∧ offset ≤ 1023 := by
  unfold checkOffset at h
  split at h
  · next inside => exact ⟨(Except.ok.inj h).symm, inside⟩
  · cases h

/-- An offset is accepted, as it is, if and only if it has 11 bits. -/
theorem checkOffset_eq_ok_iff {offset : Int} :
    (∃ number, checkOffset offset = .ok number) ↔ -1024 ≤ offset ∧ offset ≤ 1023 := by
  constructor
  · rintro ⟨number, accepted⟩
    exact (bounds_of_checkOffset accepted).2
  · intro inside
    exact ⟨offset, if_pos inside⟩

theorem bounds_of_readOffset {text : Text} {number : Int} (h : readOffset text = .ok number) :
    -1024 ≤ number ∧ number ≤ 1023 := by
  unfold readOffset at h
  split at h
  · split at h
    · obtain ⟨rfl, inside⟩ := bounds_of_checkOffset h
      exact inside
    · cases h
  · cases h

namespace Instr

/-- The parts of the text of an instruction denote the instruction, if it fits a word. -/
theorem instr_fields {i : Instr} (h : i.Encodable) : i.fields.instr = .ok i := by
  obtain ⟨target, src1, src2, offset⟩ := h
  refine Fields.instr_eq_ok_iff.mpr ⟨readOpcode_mnemonic i.op, ?_, ?_,
    readRegister_registerName target, readRegister_registerName src1,
    readRegister_registerName src2⟩
  · simp only [Fields.readCond, fields, writtenPredicate]
    by_cases always : i.cond = Cond.always
    · rw [if_pos always, always]
    · rw [if_neg always]
      exact readPredicate_render i.cond
  · simp only [Fields.readNumber, fields, writtenOffset]
    by_cases zero : i.offset = 0
    · rw [if_pos zero, zero]
    · rw [if_neg zero]
      exact readOffset_integer offset

/-- Whatever the parts, an instruction that they denote fits a word. -/
theorem encodable_of_instr {f : Fields} {i : Instr} (h : f.instr = .ok i) : i.Encodable := by
  obtain ⟨-, -, offset, target, src1, src2⟩ := Fields.instr_eq_ok_iff.mp h
  refine ⟨lt_of_readRegister target, lt_of_readRegister src1, lt_of_readRegister src2, ?_⟩
  unfold Fields.readNumber at offset
  split at offset
  · exact bounds_of_readOffset offset
  · rw [← Except.ok.inj offset]
    decide

end Instr

end DuckMachine
