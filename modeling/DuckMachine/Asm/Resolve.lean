import DuckMachine.Asm.LabelTable
import DuckMachine.Asm.Pass
import DuckMachine.Machine.Registers

/-
  Resolving labels.

  A line that refers to a label becomes an instruction that adds the distance of the label to the
  program counter. All other lines are copied without the blanks at their ends. A line with an
  error leaves no output, but it keeps its address.
-/

namespace DuckMachine

/-- The instruction on registers that an operation on a label stands for, at this distance. -/
def SymbolicOp.resolve (op : SymbolicOp) (cond : Cond) (target : Option Nat) (distance : Int) :
    Instr :=
  let transfer (op : Opcode) (target : Nat) : Instr :=
    { op, cond, target, src1 := 0, src2 := Registers.pcNumber, offset := distance }
  match op with
  | .load => transfer .load (target.getD 0)
  | .store => transfer .store (target.getD 0)
  | .jump => transfer .add Registers.pcNumber

/-- An instruction with the label of its line before it. -/
def renderLabelled : Option Text → Instr → Text
  | some label, instr => label ++ ':' :: ' ' :: instr.render
  | none, instr => instr.render

namespace Line

/-- The output line for a source line at an address. -/
def resolve (table : LabelTable) (address : Nat) (text : Text) (line : Line) :
    Except AsmCause Text :=
  match line.statement with
  | .symbolic op cond target symbol =>
    match table.get? symbol with
    | none => .error (.undefinedSymbol symbol)
    | some destination =>
      let distance : Int := destination - address
      match checkOffset distance with
      | .error _ => .error (.outOfReach symbol distance)
      | .ok offset => .ok (renderLabelled line.label (op.resolve cond target offset))
  | _ => .ok text.trimEnd

end Line

/-- The addresses given out so far and the output lines, the last one first. Sources of 2^32 words
    or more, whose addresses exceed 32 bits, are out of scope here too. -/
structure Resolution where
  address : Nat := 0
  output : List Text := []
  deriving DecidableEq, Repr

namespace Resolution

/-- What resolving labels does with one line. -/
def step (table : LabelTable) : PassStep Resolution := fun s text =>
  match Line.parse text with
  | .error reason => (some (.badLine reason), s)
  | .ok line =>
    let address := s.address + line.size
    match line.resolve table s.address text with
    | .error cause => (some cause, { s with address })
    | .ok resolved => (none, { address, output := resolved :: s.output })

end Resolution

/-- The lines of a source with its labels resolved. -/
def resolveLabels (lines : List Text) (table : LabelTable) (d : Diagnostics) :
    Except LimitExceeded (List Text) × Diagnostics :=
  let (result, d) := (Resolution.step table).walk {} d lines
  (result.map fun s => s.output.reverse, d)

end DuckMachine
