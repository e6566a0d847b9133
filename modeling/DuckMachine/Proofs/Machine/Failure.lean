import DuckMachine.Proofs.Instr.Codec
import DuckMachine.Proofs.Machine.Alu
import DuckMachine.Proofs.Machine.Memory
import Mathlib.Tactic.Common

/-
  Steps that fail.

  A step can fail at four points, and what it has done to the machine by then is little: at most the
  program counter has moved on and the condition has been set (`Fails`). Nothing else makes a step
  fail, and a step that fails leaves the registers, the cells of memory and the output of a console
  as they were (`step_failure`).
-/

namespace DuckMachine

/-! ## Buses -/

/-- Whether what can be seen of a bus is changed neither by a load nor by a store that is
    refused. -/
structure Bus.Steady {β γ : Type} [Bus β] (view : β → γ) : Prop where
  load {address : Int} {b after : β} {result : Except MemoryFault Word}
    (h : Bus.load address b = (result, after)) : view after = view b
  store {address : Int} {w : Word} {b after : β} {fault : MemoryFault}
    (h : Bus.store address w b = (.error fault, after)) : view after = view b

/-- The cells of memory. -/
theorem Memory.steady : Bus.Steady (fun m : Memory => m) where
  load := eq_of_load
  store := eq_of_store_error

namespace Mapped

/-- What can be seen of a mapped bus: the cells of its memory and what was written to its
    console. -/
def view (m : Mapped Queue) : Memory × Array Word := (m.memory, m.console.output)

theorem steady : Bus.Steady view where
  load {address m after result} h := by
    change Mapped.load address m = _ at h
    unfold Mapped.load at h
    split at h
    · obtain ⟨memory, input, output⟩ := m
      cases input with
      | nil =>
        rw [← show _ = after from congrArg Prod.snd h]
        rfl
      | cons w rest =>
        rw [← show _ = after from congrArg Prod.snd h]
        rfl
    · rw [← show m = after from congrArg Prod.snd h]
  store {address w m after fault} h := by
    change Mapped.store address w m = _ at h
    unfold Mapped.store at h
    split at h
    · cases congrArg Prod.fst h
    · split at h
      · cases congrArg Prod.fst h
      · rw [← show m = after from congrArg Prod.snd h]

end Mapped

namespace Cpu

variable {β γ : Type} [Bus β]

/-! ## The ways in which a step can fail -/

/-- The ways in which a step can fail: with the cause, whether the program counter has moved on by
    then, and the condition that is left. -/
inductive Fails (c : Cpu β) : RunCause → Bool → Cond → Prop where
  /-- The bus refuses the program counter. -/
  | fetch {fault : MemoryFault} {bus : β}
      (refused : Bus.load c.regs.pc.toInt c.bus = (.error fault, bus)) :
      Fails c (.memory fault) false c.condition
  /-- The number in the opcode bits of the word at the program counter is above 9. -/
  | decode {w : Word} {bus : β} (load : Bus.load c.regs.pc.toInt c.bus = (.ok w, bus))
      (unknown : 9 < (w >>> 27).toNat) :
      Fails c (.decode (.unknownOpcode w)) false c.condition
  /-- A division executes whose right operand is exactly zero. -/
  | division {event : Event} {bus : β} (met : c.Meets event bus)
      (executes : event.executes = true) (op : event.instr.op = .div)
      (zero : (c.regs.get event.instr.src2).toInt + event.instr.offset = 0) :
      Fails c (.alu .divisionByZero) true c.condition
  /-- A load executes whose address, the sum of its operands cut to a word, the bus refuses. -/
  | load {event : Event} {bus after : β} {fault : MemoryFault} (met : c.Meets event bus)
      (executes : event.executes = true) (op : event.instr.op = .load)
      (refused : Bus.load (Word.ofInt (c.sum event.instr)).toInt bus = (.error fault, after)) :
      Fails c (.memory fault) true (Alu.exactOutcome (c.sum event.instr))
  /-- A store executes whose address the bus refuses. -/
  | store {event : Event} {bus after : β} {fault : MemoryFault} (met : c.Meets event bus)
      (executes : event.executes = true) (op : event.instr.op = .store)
      (refused : Bus.store (Word.ofInt (c.sum event.instr)).toInt
        (c.regs.stepPc.get event.instr.target) bus = (.error fault, after)) :
      Fails c (.memory fault) true (Alu.exactOutcome (c.sum event.instr))

theorem Meets.encodable {c : Cpu β} {event : Event} {bus : β} (h : c.Meets event bus) :
    event.instr.Encodable :=
  Instr.encodable_of_decode h.decode

/-- The address of a transfer is the exact sum of its operands cut to a word. -/
theorem Computes.of_sums {c : Cpu β} {event : Event} {bus : β} {address : Word} {condition : Cond}
    (h : c.Computes event bus address condition) (sums : event.instr.Sums) :
    address = Word.ofInt (c.sum event.instr) ∧
      condition = Alu.exactOutcome (c.sum event.instr) := by
  have computed := compute_sum sums (c.holds_sum h.toMeets.encodable)
  rw [h.compute, Except.ok.injEq, Prod.mk.injEq] at computed
  exact computed

theorem Meets.computes {c : Cpu β} {event : Event} {bus : β} (h : c.Meets event bus)
    (executes : event.executes = true) (sums : event.instr.Sums) :
    c.Computes event bus (Word.ofInt (c.sum event.instr))
      (Alu.exactOutcome (c.sum event.instr)) where
  toMeets := h
  executes := executes
  compute := compute_sum sums (c.holds_sum h.encodable)

/-- A step that fails does so in one of these ways, and has changed no register but the program
    counter. -/
theorem StepsTo.fails {c last : Cpu β} {event : Option Event} {e : RunError}
    (h : c.StepsTo event (.error e) last) :
    ∃ moved, c.Fails e.cause moved last.condition ∧
      last.regs = if moved then c.regs.stepPc else c.regs := by
  cases h with
  | unfetched load => exact ⟨false, .fetch load, rfl⟩
  | undecoded load decode =>
    obtain ⟨unknown, rfl⟩ := Instr.decode_eq_error_iff.mp decode
    exact ⟨false, .decode load unknown, rfl⟩
  | @undefined _ _ fault met executes compute =>
    obtain ⟨op, zero⟩ := (compute_eq_error_iff met.encodable).mp compute
    obtain ⟨⟩ := fault
    exact ⟨true, .division met executes op zero, rfl⟩
  | unloaded computes op load =>
    obtain ⟨rfl, rfl⟩ := computes.of_sums (.inl op)
    exact ⟨true, .load computes.toMeets computes.executes op load, rfl⟩
  | unstored computes op store =>
    obtain ⟨rfl, rfl⟩ := computes.of_sums (.inr (.inl op))
    exact ⟨true, .store computes.toMeets computes.executes op store, rfl⟩

/-- In each of these ways a step does fail. -/
theorem Fails.stepsTo {c : Cpu β} {cause : RunCause} {moved : Bool} {condition : Cond}
    (h : c.Fails cause moved condition) :
    ∃ event last, c.StepsTo event (.error ⟨c.regs.pc.toInt, cause⟩) last := by
  cases h with
  | fetch refused => exact ⟨_, _, .unfetched refused⟩
  | decode load unknown =>
    exact ⟨_, _, .undecoded load (Instr.decode_eq_error_iff.mpr ⟨unknown, rfl⟩)⟩
  | division met executes op zero =>
    have undefined : c.compute _ = .error .divisionByZero :=
      (compute_eq_error_iff met.encodable).mpr ⟨op, zero⟩
    exact ⟨_, _, .undefined met executes undefined⟩
  | load met executes op refused =>
    exact ⟨_, _, .unloaded (met.computes executes (.inl op)) op refused⟩
  | store met executes op refused =>
    exact ⟨_, _, .unstored (met.computes executes (.inr (.inl op))) op refused⟩

/-- A step that fails leaves alone what can be seen of a steady bus. -/
theorem StepsTo.view_eq {view : β → γ} (steady : Bus.Steady view) {c last : Cpu β}
    {event : Option Event} {e : RunError} (h : c.StepsTo event (.error e) last) :
    view last.bus = view c.bus := by
  cases h with
  | unfetched load => exact steady.load load
  | undecoded load _ => exact steady.load load
  | undefined met _ _ => exact steady.load met.load
  | unloaded computes _ load => exact (steady.load load).trans (steady.load computes.load)
  | unstored computes _ store => exact (steady.store store).trans (steady.load computes.load)

/-! ## The whole statement -/

/-- What there is to say of a processor whose next step may fail, and of what can be seen of its
    bus. -/
structure StepFailure (view : β → γ) (c : Cpu β) : Prop where
  /-- A step that fails names the address of its instruction, halts the processor and changes
      neither a register below `r15` nor what can be seen of the bus. -/
  intact : ∀ e, c.step.result = .error e →
    e.pc = c.regs.pc.toInt ∧ c.step.cpu.halted = true ∧
      (∀ number < 15, c.step.cpu.regs.get number = c.regs.get number) ∧
      view c.step.cpu.bus = view c.bus
  /-- It fails in one of the ways listed, which says whether the program counter has moved on by one
      and which condition is left. -/
  cause : ∀ e, c.step.result = .error e →
    ∃ moved, c.Fails e.cause moved c.step.cpu.condition ∧
      c.step.cpu.regs = (if moved then c.regs.setPc (c.regs.pc + 1) else c.regs) ∧
      (c.regs.Wired → c.step.cpu.regs.pc = if moved then c.regs.pc + 1 else c.regs.pc)
  /-- In each of these ways it does fail. -/
  fails : ∀ cause moved condition, c.Fails cause moved condition →
    c.step.result = .error ⟨c.regs.pc.toInt, cause⟩
  /-- An instruction that is skipped does not fail any more. -/
  skipped : ∀ event ∈ c.step.event, event.executes = false → c.step.result = .ok ()

theorem stepFailure_of_steady {view : β → γ} (steady : Bus.Steady view) (c : Cpu β) :
    StepFailure view c := by
  have way := c.step_stepsTo
  refine { intact := ?intact, cause := ?cause, fails := ?fails, skipped := ?skipped }
  case intact =>
    intro e failed
    obtain ⟨pc, halted, -⟩ := step_error failed
    rw [failed] at way
    obtain ⟨moved, -, regs⟩ := way.fails
    refine ⟨pc, halted, ?_, way.view_eq steady⟩
    intro number below
    rw [regs]
    split
    · exact c.regs.get_put_of_ne _ (Nat.ne_of_lt below)
    · rfl
  case cause =>
    intro e failed
    rw [failed] at way
    obtain ⟨moved, fails, regs⟩ := way.fails
    refine ⟨moved, fails, regs, ?_⟩
    intro wired
    rw [regs]
    split
    · exact wired.pc_setPc _
    · rfl
  case fails =>
    intro cause moved condition fails
    obtain ⟨event, last, fails⟩ := fails.stepsTo
    rw [fails.step_eq]
  case skipped =>
    intro event found skips
    rw [Option.mem_def.mp found] at way
    obtain ⟨bus, met⟩ := way.meets
    rw [(StepsTo.skipped met skips).step_eq]

/-- A step fails only at the four points and leaves the machine intact, on plain memory and on
    memory with a console. -/
theorem step_failure :
    (∀ c : Cpu Memory, StepFailure (fun m => m) c) ∧
      ∀ c : Cpu (Mapped Queue), StepFailure (fun m => (m.memory, m.console.output)) c :=
  ⟨stepFailure_of_steady Memory.steady, stepFailure_of_steady Mapped.steady⟩

/-- A processor that reads from a console whose input has ended. -/
def readsClosed : Cpu (Mapped Queue) :=
  let load : Instr := { op := .load, target := 1, src1 := 0, src2 := 0, offset := 510 }
  { bus := ⟨⟨Vector.replicate memorySize load.encode⟩, { input := [] }⟩ }

theorem step_failure_readsClosed :
    readsClosed.step.result = .error ⟨0, .memory .inputClosed⟩ ∧
      readsClosed.step.cpu.halted = true ∧ readsClosed.step.cpu.regs.get 1 = 0 ∧
      readsClosed.step.cpu.bus.memory = readsClosed.bus.memory := by
  have failed : readsClosed.step.result = .error ⟨0, .memory .inputClosed⟩ := by decide
  obtain ⟨-, halted, registers, view⟩ := (step_failure.2 readsClosed).intact _ failed
  have first : readsClosed.regs.get 1 = 0 := by decide
  exact ⟨failed, halted, (registers 1 (by decide)).trans first, congrArg Prod.fst view⟩

end Cpu

end DuckMachine
