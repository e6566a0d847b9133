import DuckMachine.Instr.Codec
import DuckMachine.Machine.Alu
import DuckMachine.Machine.Bus
import DuckMachine.Machine.Registers

/-
  The processor.

  A step has two halves. Fetching loads the word at the program counter and decodes it, which
  settles whether its predicate lets it execute. Executing moves the program counter on and lets
  the instruction take effect. Between the two an observer may look at the instruction. A fault in
  either half halts the processor.
-/

namespace DuckMachine

/-- What went wrong while a program ran. -/
inductive RunCause where
  | decode (error : DecodeError)
  | alu (fault : AluFault)
  | memory (fault : MemoryFault)
  deriving DecidableEq, Repr

/-- What is said about the cause. -/
def RunCause.message : RunCause → String
  | .decode error => error.message
  | .alu fault => fault.message
  | .memory fault => fault.message

/-- What ended a program, and the address of the instruction that was at work. -/
structure RunError where
  pc : Int
  cause : RunCause
  deriving DecidableEq, Repr

/-- What is said about the end of a program. -/
def RunError.message (e : RunError) : String := s!"at address {e.pc}: {e.cause.message}"

/-- An instruction that has been fetched and decoded and has not taken effect yet. -/
structure Event where
  pc : Int
  word : Word
  instr : Instr
  /-- Whether the predicate lets the instruction execute. -/
  executes : Bool
  deriving DecidableEq, Repr

/-- A processor and the bus it is connected to. -/
structure Cpu (β : Type) where
  regs : Registers := Registers.initial
  condition : Cond := Cond.always
  halted : Bool := false
  bus : β

namespace Cpu

variable {β : Type}

/-- The processor stopped by a fault. -/
def fail {α : Type} (c : Cpu β) (pc : Int) (cause : RunCause) : Except RunError α × Cpu β :=
  (.error ⟨pc, cause⟩, { c with halted := true })

/-- The operands of an instruction. The program counter still has the address of the instruction,
    and the sum on the right is formed in 64 bits. -/
def operands (c : Cpu β) (i : Instr) : Word × Wide :=
  (c.regs.get i.src1, (c.regs.get i.src2).signExtend _ + BitVec.ofInt _ i.offset)

variable [Bus β]

/-- The first half of a step: the instruction at the program counter. -/
def fetch (c : Cpu β) : Except RunError Event × Cpu β :=
  let pc := c.regs.pc.toInt
  match Bus.load pc c.bus with
  | (.error fault, bus) => { c with bus }.fail pc (.memory fault)
  | (.ok word, bus) =>
    match Instr.decode word with
    | .error error => { c with bus }.fail pc (.decode error)
    | .ok instr =>
      (.ok { pc, word, instr, executes := instr.cond.intersects c.condition }, { c with bus })

/-- What an operation does with its result, once the program counter and the condition are set. -/
def complete (c : Cpu β) (pc : Int) (i : Instr) (result : Word) : Except RunError Unit × Cpu β :=
  match i.op with
  | .load =>
    match Bus.load result.toInt c.bus with
    | (.ok w, bus) => (.ok (), { c with bus, regs := c.regs.put i.target w })
    | (.error fault, bus) => { c with bus }.fail pc (.memory fault)
  | .store =>
    match Bus.store result.toInt (c.regs.get i.target) c.bus with
    | (.ok (), bus) => (.ok (), { c with bus })
    | (.error fault, bus) => { c with bus }.fail pc (.memory fault)
  | .halt => (.ok (), { c with halted := true })
  | _ => (.ok (), { c with regs := c.regs.put i.target result })

/-- The second half of a step. The operands are formed first; the program counter moves on before
    the result is written, so that a write to it stands. -/
def execute (c : Cpu β) (event : Event) : Except RunError Unit × Cpu β :=
  let stepped := { c with regs := c.regs.stepPc }
  if event.executes then
    let (left, right) := c.operands event.instr
    match Alu.execute event.instr.op left right with
    | .error fault => stepped.fail event.pc (.alu fault)
    | .ok (result, condition) =>
      { stepped with condition }.complete event.pc event.instr result
  else (.ok (), stepped)

/-- A step as seen from outside: the instruction, if one was decoded, whether all went well, and
    the processor afterwards. -/
structure Step (β : Type) where
  event : Option Event
  result : Except RunError Unit
  cpu : Cpu β

/-- One step. -/
def step (c : Cpu β) : Step β :=
  match c.fetch with
  | (.error e, c) => ⟨none, .error e, c⟩
  | (.ok event, c) =>
    let (result, c) := c.execute event
    ⟨some event, result, c⟩

end Cpu

end DuckMachine
