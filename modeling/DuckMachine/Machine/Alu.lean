import DuckMachine.Instr.Opcode
import DuckMachine.Instr.Cond
import DuckMachine.Word.Basic

/-
  The arithmetic unit.

  Both operands are widened to 64 bits, twice the width of a word, so that no operation on a word
  and a sum of a word and an offset can overflow on the way. The result is cut to a word. A result
  that does not survive the cut sets only the overflow outcome, any other the outcome of its sign.
-/

namespace DuckMachine

/-- An operand or an uncut result of the arithmetic unit. -/
abbrev Wide := BitVec (2 * wordSize)

/-- Why an operation has no result. -/
inductive AluFault where
  | divisionByZero
  deriving DecidableEq, Repr

/-- What is said about an operation without result. -/
def AluFault.message : AluFault → String
  | .divisionByZero => "division by zero"

namespace Alu

/-- The uncut result of an operation. Loads and stores form their address by addition, division
    rounds down, and `HALT` yields zero. -/
def compute (op : Opcode) (left right : Wide) : Except AluFault Wide :=
  match op with
  | .halt => .ok 0
  | .load | .store | .add => .ok (left + right)
  | .sub => .ok (left - right)
  | .mul => .ok (left * right)
  | .div =>
    if right = 0 then .error .divisionByZero
    else .ok (BitVec.ofInt _ (Int.fdiv left.toInt right.toInt))
  | .and => .ok (left &&& right)
  | .or => .ok (left ||| right)
  | .xor => .ok (left ^^^ right)

/-- The outcome of a result that fits a word. -/
def outcome (result : Word) : Cond :=
  if result.toInt < 0 then Cond.minus
  else if result.toInt = 0 then Cond.zero
  else Cond.positive

/-- A result cut to a word, and the outcome that it sets. -/
def settle (wide : Wide) : Word × Cond :=
  let result : Word := wide.setWidth wordSize
  (result, if result.toInt = wide.toInt then outcome result else Cond.overflow)

/-- The result and outcome of an operation on a word and a widened operand. -/
def execute (op : Opcode) (left : Word) (right : Wide) : Except AluFault (Word × Cond) :=
  (compute op (left.signExtend _) right).map settle

end Alu

end DuckMachine
