import DuckMachine.Proofs.Machine.Step

/-
  Sums and quotients in the arithmetic unit.

  A sum of words and an offset is formed in 64 bits, which hold it exactly. The cut to a word
  reduces it modulo 2^32, and the outcome is its sign, or overflow when a word cannot hold it
  (`settle_ofInt`); so a transfer goes to the exact address (`compute_sum`), and an instruction that
  adds an offset to the program counter computes the address at this distance
  (`compute_relative`). The only operation without a result is a division by an operand that is
  exactly zero (`compute_eq_error_iff`).
-/

namespace DuckMachine

namespace Word

/-- Whether a number is the signed reading of a word. -/
def Signed (n : Int) : Prop := -0x80000000 ≤ n ∧ n < 0x80000000

instance (n : Int) : Decidable (Signed n) := inferInstanceAs (Decidable (_ ∧ _))

theorem toInt_ofInt {n : Int} (h : Signed n) : (ofInt n).toInt = n := by
  obtain ⟨low, high⟩ := h
  rw [ofInt, BitVec.toInt_ofInt, Int.bmod_def]
  simp only [wordSize]
  omega

theorem signed_toInt (w : Word) : Signed w.toInt := by
  have low := BitVec.le_toInt w
  have high := BitVec.toInt_lt (x := w)
  simp only [wordSize, Nat.add_one_sub_one] at low high
  exact ⟨by omega, by omega⟩

end Word

namespace Alu

/-- Whether 64 bits hold a number. -/
def Holds (n : Int) : Prop := -0x8000000000000000 ≤ n ∧ n < 0x8000000000000000

/-- The outcome of the sign of a number. -/
def sign (n : Int) : Cond :=
  if n < 0 then Cond.minus else if n = 0 then Cond.zero else Cond.positive

/-- The outcome of an exact result: its sign, or overflow if a word cannot hold it. -/
def exactOutcome (n : Int) : Cond := if Word.Signed n then sign n else Cond.overflow

theorem toInt_wide {n : Int} (h : Holds n) : (BitVec.ofInt (2 * wordSize) n).toInt = n := by
  obtain ⟨low, high⟩ := h
  rw [BitVec.toInt_ofInt, Int.bmod_def]
  simp only [wordSize]
  omega

theorem wide_eq_zero_iff {n : Int} (h : Holds n) : BitVec.ofInt (2 * wordSize) n = 0 ↔ n = 0 := by
  rw [← BitVec.toInt_inj, toInt_wide h]
  rfl

theorem setWidth_wide (n : Int) :
    (BitVec.ofInt (2 * wordSize) n).setWidth wordSize = Word.ofInt n := by
  apply BitVec.eq_of_toNat_eq
  rw [BitVec.toNat_setWidth, BitVec.toNat_ofInt, Word.ofInt, BitVec.toNat_ofInt]
  simp only [wordSize]
  omega

/-- An exact result is cut to the word that agrees with it modulo 2^32. -/
theorem settle_ofInt {n : Int} (h : Holds n) :
    settle (BitVec.ofInt _ n) = (Word.ofInt n, exactOutcome n) := by
  rw [settle]
  simp only [setWidth_wide, toInt_wide h, exactOutcome]
  by_cases small : Word.Signed n
  · rw [if_pos (Word.toInt_ofInt small), if_pos small, outcome, Word.toInt_ofInt small, sign]
  · have lost : (Word.ofInt n).toInt ≠ n := by
      intro same
      exact small (same ▸ Word.signed_toInt (Word.ofInt n))
    rw [if_neg lost, if_neg small]

end Alu

/-! ## In the processor -/

namespace Instr

/-- Whether an instruction forms the sum of its operands: an addition or a transfer, which takes
    the sum for its address. -/
def Sums (i : Instr) : Prop := i.op = .load ∨ i.op = .store ∨ i.op = .add

/-- Whether an instruction adds its offset to the program counter. -/
def Relative (i : Instr) : Prop :=
  (i.op = .load ∨ i.op = .store ∨ i.op = .add) ∧ i.src1 = 0 ∧ i.src2 = Registers.pcNumber

end Instr

namespace Cpu

variable {β : Type}

/-- The exact value of the second operand of an instruction. -/
def rightOperand (c : Cpu β) (i : Instr) : Int := (c.regs.get i.src2).toInt + i.offset

/-- The exact sum of both operands of an instruction. -/
def sum (c : Cpu β) (i : Instr) : Int := (c.regs.get i.src1).toInt + c.rightOperand i

theorem operands_eq (c : Cpu β) (i : Instr) :
    c.operands i = (c.regs.get i.src1, BitVec.ofInt _ (c.rightOperand i)) := by
  rw [operands, rightOperand, BitVec.ofInt_add]
  rfl

theorem holds_rightOperand (c : Cpu β) {i : Instr} (h : i.Encodable) :
    Alu.Holds (c.rightOperand i) := by
  obtain ⟨low, high⟩ := Word.signed_toInt (c.regs.get i.src2)
  obtain ⟨-, -, -, lower, upper⟩ := h
  unfold rightOperand
  exact ⟨by omega, by omega⟩

theorem holds_sum (c : Cpu β) {i : Instr} (h : i.Encodable) : Alu.Holds (c.sum i) := by
  obtain ⟨low, high⟩ := Word.signed_toInt (c.regs.get i.src1)
  obtain ⟨low', high'⟩ := Word.signed_toInt (c.regs.get i.src2)
  obtain ⟨-, -, -, lower, upper⟩ := h
  unfold sum rightOperand
  exact ⟨by omega, by omega⟩

/-- An instruction that sums has the exact sum of its operands for its result. -/
theorem compute_sum {c : Cpu β} {i : Instr} (sums : i.Sums) (holds : Alu.Holds (c.sum i)) :
    c.compute i = .ok (Word.ofInt (c.sum i), Alu.exactOutcome (c.sum i)) := by
  have total : Alu.compute i.op ((c.regs.get i.src1).signExtend _)
      (BitVec.ofInt _ (c.rightOperand i)) = .ok (BitVec.ofInt _ (c.sum i)) := by
    rw [sum, BitVec.ofInt_add]
    rcases sums with op | op | op <;> rw [op] <;> rfl
  rw [compute, operands_eq, Alu.execute, total]
  exact congrArg Except.ok (Alu.settle_ofInt holds)

/-- Only a division by zero has no result. -/
theorem compute_eq_error_iff {c : Cpu β} {i : Instr} {fault : AluFault} (fits : i.Encodable) :
    c.compute i = .error fault ↔ i.op = .div ∧ c.rightOperand i = 0 := by
  rw [compute, operands_eq, Alu.execute, ← Alu.wide_eq_zero_iff (c.holds_rightOperand fits)]
  obtain ⟨⟩ := fault
  cases op : i.op with
  | div =>
    rw [Alu.compute]
    by_cases zero : BitVec.ofInt (2 * wordSize) (c.rightOperand i) = 0
    · rw [if_pos zero]
      exact iff_of_true rfl ⟨rfl, zero⟩
    · rw [if_neg zero]
      exact iff_of_false (fun failed => by cases failed) fun both => zero both.2
  | _ => simp [Alu.compute, Except.map]

/-- The result is the address at the distance of the offset, and the outcome says whether this is
    zero. -/
theorem compute_relative {c : Cpu β} {i : Instr} (wired : c.regs.Wired) (h : i.Relative) {n : Int}
    (reached : c.regs.pc.toInt + i.offset = n) (small : Word.Signed n) :
    c.compute i = .ok (Word.ofInt n, Alu.sign n) := by
  obtain ⟨sums, src1, src2⟩ := h
  have total : c.sum i = n := by
    rw [sum, rightOperand, src1, src2, wired.get_zero, ← reached]
    exact Int.zero_add _
  have holds : Alu.Holds (c.sum i) := by
    obtain ⟨low, high⟩ := small
    rw [total]
    exact ⟨by omega, by omega⟩
  rw [compute_sum sums holds, total, Alu.exactOutcome, if_pos small]

end Cpu

end DuckMachine
