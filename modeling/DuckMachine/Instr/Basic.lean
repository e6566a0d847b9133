import DuckMachine.Instr.Opcode
import DuckMachine.Instr.Cond
import DuckMachine.Text.Numeral

/-
  Instructions: what one word of a program tells the machine to do, and the text of it.

  An instruction may name any register number and any offset; those that fit their places in a
  word are `Encodable`. The text leaves out the predicate `ALWAYS` and the offset zero.
-/

namespace DuckMachine

/-- The number of registers. -/
abbrev registerCount : Nat := 16

/-- An instruction: an operation on two source registers and an offset, under a predicate. -/
structure Instr where
  op : Opcode
  cond : Cond := Cond.always
  target : Nat
  src1 : Nat
  src2 : Nat
  offset : Int := 0
  deriving DecidableEq, Repr, Inhabited

namespace Instr

/-- Whether an instruction fits its word: its registers exist and its offset has 11 bits. -/
def Encodable (i : Instr) : Prop :=
  i.target < registerCount ∧ i.src1 < registerCount ∧ i.src2 < registerCount
    ∧ -1024 ≤ i.offset ∧ i.offset ≤ 1023

instance (i : Instr) : Decidable i.Encodable := inferInstanceAs (Decidable (_ ∧ _))

/-- The name of a register. -/
def registerName (number : Nat) : Text := 'r' :: Numeral.decimal number

/-- The text of an instruction, such as `SUB/ZP r1,r2,r15[-12]`. -/
def render (i : Instr) : Text :=
  i.op.mnemonic
    ++ (if i.cond = Cond.always then [] else '/' :: i.cond.render)
    ++ ' ' :: registerName i.target ++ ',' :: registerName i.src1 ++ ',' :: registerName i.src2
    ++ (if i.offset = 0 then [] else '[' :: Numeral.integer i.offset ++ [']'])

end Instr

end DuckMachine
