import DuckMachine.Machine.Cpu
import DuckMachine.Proofs.Machine.Registers

/-
  What one step can do.

  `StepsTo` lists the ways in which a step can go, each with its guards and with all that it does
  to the processor, and a step goes in exactly one of them (`stepsTo_iff`). Whatever is said of
  whole steps below and in the theory of runs follows from this list, without looking at the
  processor again.
-/

namespace DuckMachine

/-- Whether the instruction of an event halts the processor: a `HALT` that executes. -/
def Event.halts (event : Event) : Bool := event.executes && event.instr.op = .halt

namespace Cpu

variable {β : Type}

/-- The result of an instruction and the outcome that it sets. -/
def compute (c : Cpu β) (i : Instr) : Except AluFault (Word × Cond) :=
  Alu.execute i.op (c.operands i).1 (c.operands i).2

variable [Bus β]

/-! ## The ways in which a step can go -/

/-- Whether a step comes as far as this event, with this bus after the fetch. -/
structure Meets (c : Cpu β) (event : Event) (bus : β) : Prop where
  pc : event.pc = c.regs.pc.toInt
  load : Bus.load c.regs.pc.toInt c.bus = (.ok event.word, bus)
  decode : Instr.decode event.word = .ok event.instr
  predicate : event.executes = event.instr.cond.intersects c.condition

/-- Whether a step gets the instruction of an event through the arithmetic unit, with this result
    and outcome. -/
structure Computes (c : Cpu β) (event : Event) (bus : β) (result : Word) (condition : Cond) : Prop
    extends c.Meets event bus where
  executes : event.executes = true
  compute : c.compute event.instr = .ok (result, condition)

/-- The ways in which a step can go, with its event, what comes of it and the processor afterwards:
    the fetch fails, or the instruction is skipped, has no result, or has one that its operation
    then makes use of. -/
inductive StepsTo (c : Cpu β) : Option Event → Except RunError Unit → Cpu β → Prop where
  | unfetched {fault : MemoryFault} {bus : β}
      (load : Bus.load c.regs.pc.toInt c.bus = (.error fault, bus)) :
      StepsTo c none (.error ⟨c.regs.pc.toInt, .memory fault⟩) { c with halted := true, bus }
  | undecoded {w : Word} {reason : DecodeError} {bus : β}
      (load : Bus.load c.regs.pc.toInt c.bus = (.ok w, bus))
      (decode : Instr.decode w = .error reason) :
      StepsTo c none (.error ⟨c.regs.pc.toInt, .decode reason⟩) { c with halted := true, bus }
  | skipped {event : Event} {bus : β} (met : c.Meets event bus) (skips : event.executes = false) :
      StepsTo c (some event) (.ok ()) { c with regs := c.regs.stepPc, bus }
  | undefined {event : Event} {bus : β} {fault : AluFault} (met : c.Meets event bus)
      (executes : event.executes = true) (compute : c.compute event.instr = .error fault) :
      StepsTo c (some event) (.error ⟨c.regs.pc.toInt, .alu fault⟩)
        { c with regs := c.regs.stepPc, halted := true, bus }
  | loaded {event : Event} {bus after : β} {address w : Word} {condition : Cond}
      (computes : c.Computes event bus address condition) (op : event.instr.op = .load)
      (load : Bus.load address.toInt bus = (.ok w, after)) :
      StepsTo c (some event) (.ok ())
        { c with regs := c.regs.stepPc.put event.instr.target w, condition, bus := after }
  | unloaded {event : Event} {bus after : β} {address : Word} {condition : Cond}
      {fault : MemoryFault} (computes : c.Computes event bus address condition)
      (op : event.instr.op = .load) (load : Bus.load address.toInt bus = (.error fault, after)) :
      StepsTo c (some event) (.error ⟨c.regs.pc.toInt, .memory fault⟩)
        { c with regs := c.regs.stepPc, condition, halted := true, bus := after }
  | stored {event : Event} {bus after : β} {address : Word} {condition : Cond}
      (computes : c.Computes event bus address condition) (op : event.instr.op = .store)
      (store : Bus.store address.toInt (c.regs.stepPc.get event.instr.target) bus =
        (.ok (), after)) :
      StepsTo c (some event) (.ok ())
        { c with regs := c.regs.stepPc, condition, bus := after }
  | unstored {event : Event} {bus after : β} {address : Word} {condition : Cond}
      {fault : MemoryFault} (computes : c.Computes event bus address condition)
      (op : event.instr.op = .store)
      (store : Bus.store address.toInt (c.regs.stepPc.get event.instr.target) bus =
        (.error fault, after)) :
      StepsTo c (some event) (.error ⟨c.regs.pc.toInt, .memory fault⟩)
        { c with regs := c.regs.stepPc, condition, halted := true, bus := after }
  | halted {event : Event} {bus : β} {result : Word} {condition : Cond}
      (computes : c.Computes event bus result condition) (op : event.instr.op = .halt) :
      StepsTo c (some event) (.ok ())
        { c with regs := c.regs.stepPc, condition, halted := true, bus }
  | written {event : Event} {bus : β} {result : Word} {condition : Cond}
      (computes : c.Computes event bus result condition)
      (op : event.instr.op ≠ .load ∧ event.instr.op ≠ .store ∧ event.instr.op ≠ .halt) :
      StepsTo c (some event) (.ok ())
        { c with regs := c.regs.stepPc.put event.instr.target result, condition, bus }

/-! ## Fetching -/

theorem Meets.fetch {c : Cpu β} {event : Event} {bus : β} (h : c.Meets event bus) :
    c.fetch = (.ok event, { c with bus }) := by
  rw [Cpu.fetch]
  simp only [h.load, h.decode]
  rw [← h.pc, ← h.predicate]

/-- An event says what stands at the program counter. -/
theorem meets_of_fetch {c fetched : Cpu β} {event : Event} (h : c.fetch = (.ok event, fetched)) :
    ∃ bus, c.Meets event bus ∧ fetched = { c with bus } := by
  unfold fetch at h
  rcases loaded : Bus.load c.regs.pc.toInt c.bus with ⟨fault | word, bus⟩
  · simp only [loaded, fail, Prod.mk.injEq, reduceCtorEq, false_and] at h
  · simp only [loaded] at h
    cases decoded : Instr.decode word with
    | error reason =>
      simp only [decoded, fail, Prod.mk.injEq, reduceCtorEq, false_and] at h
    | ok instr =>
      simp only [decoded, Prod.mk.injEq, Except.ok.injEq] at h
      obtain ⟨rfl, rfl⟩ := h
      exact ⟨bus, ⟨rfl, loaded, decoded, rfl⟩, rfl⟩

theorem step_of_fetch {c fetched : Cpu β} {event : Event} (h : c.fetch = (.ok event, fetched)) :
    c.step = ⟨some event, (fetched.execute event).1, (fetched.execute event).2⟩ := by
  rw [step, h]

theorem step_of_fetch_error {c fetched : Cpu β} {e : RunError}
    (h : c.fetch = (.error e, fetched)) : c.step = ⟨none, .error e, fetched⟩ := by
  rw [step, h]

/-- A fetch that fails is refused by the bus or meets no instruction. -/
theorem stepsTo_of_fetch_error {c fetched : Cpu β} {e : RunError}
    (h : c.fetch = (.error e, fetched)) : c.StepsTo none (.error e) fetched := by
  unfold fetch at h
  rcases loaded : Bus.load c.regs.pc.toInt c.bus with ⟨fault | word, bus⟩
  · simp only [loaded, fail, Prod.mk.injEq, Except.error.injEq] at h
    obtain ⟨rfl, rfl⟩ := h
    exact .unfetched loaded
  · simp only [loaded] at h
    cases decoded : Instr.decode word with
    | error reason =>
      simp only [decoded, fail, Prod.mk.injEq, Except.error.injEq] at h
      obtain ⟨rfl, rfl⟩ := h
      exact .undecoded loaded decoded
    | ok instr =>
      simp only [decoded, Prod.mk.injEq, reduceCtorEq, false_and] at h

/-! ## Executing -/

theorem execute_of_skips (c : Cpu β) {event : Event} (skips : event.executes = false) :
    c.execute event = (.ok (), { c with regs := c.regs.stepPc }) := by
  rw [execute, skips]
  rfl

theorem execute_of_executes (c : Cpu β) {event : Event} (executes : event.executes = true) :
    c.execute event =
      match c.compute event.instr with
      | .error fault => ({ c with regs := c.regs.stepPc } : Cpu β).fail event.pc (.alu fault)
      | .ok (result, condition) =>
        ({ c with regs := c.regs.stepPc, condition } : Cpu β).complete event.pc event.instr
          result := by
  rw [execute, executes]
  rfl

theorem Meets.step_eq {c : Cpu β} {event : Event} {bus : β} (h : c.Meets event bus) :
    c.step = ⟨some event, (({ c with bus } : Cpu β).execute event).1,
      (({ c with bus } : Cpu β).execute event).2⟩ :=
  step_of_fetch h.fetch

theorem Meets.step_of_undefined {c : Cpu β} {event : Event} {bus : β} {fault : AluFault}
    (h : c.Meets event bus) (executes : event.executes = true)
    (undefined : c.compute event.instr = .error fault) :
    c.step = ⟨some event, .error ⟨c.regs.pc.toInt, .alu fault⟩,
      { c with regs := c.regs.stepPc, halted := true, bus }⟩ := by
  have same : compute { c with bus } event.instr = .error fault := undefined
  rw [h.step_eq, execute_of_executes _ executes, same, ← h.pc]
  rfl

theorem Computes.step_eq {c : Cpu β} {event : Event} {bus : β} {result : Word} {condition : Cond}
    (h : c.Computes event bus result condition) :
    c.step = ⟨some event,
      (({ c with regs := c.regs.stepPc, condition, bus } : Cpu β).complete
        c.regs.pc.toInt event.instr result).1,
      (({ c with regs := c.regs.stepPc, condition, bus } : Cpu β).complete
        c.regs.pc.toInt event.instr result).2⟩ := by
  have same : Cpu.compute { c with bus } event.instr = .ok (result, condition) := h.compute
  rw [h.toMeets.step_eq, execute_of_executes _ h.executes, same, ← h.pc]

/-- An operation makes use of its result in one of these ways. -/
theorem Computes.stepsTo {c : Cpu β} {event : Event} {bus : β} {result : Word} {condition : Cond}
    (h : c.Computes event bus result condition) :
    c.StepsTo (some event)
      (({ c with regs := c.regs.stepPc, condition, bus } : Cpu β).complete
        c.regs.pc.toInt event.instr result).1
      (({ c with regs := c.regs.stepPc, condition, bus } : Cpu β).complete
        c.regs.pc.toInt event.instr result).2 := by
  unfold complete
  cases op : event.instr.op with
  | load =>
    rcases load : Bus.load result.toInt bus with ⟨fault | w, after⟩
    · exact .unloaded h op load
    · exact .loaded h op load
  | store =>
    rcases store : Bus.store result.toInt (c.regs.stepPc.get event.instr.target) bus with
      ⟨fault | _, after⟩
    · exact .unstored h op store
    · exact .stored h op store
  | halt => exact .halted h op
  | _ => exact .written h (by simp [op])

/-! ## Steps -/

/-- A step goes in one of these ways. -/
theorem step_stepsTo (c : Cpu β) : c.StepsTo c.step.event c.step.result c.step.cpu := by
  rcases fetched : c.fetch with ⟨e | event, c'⟩
  · rw [step_of_fetch_error fetched]
    exact stepsTo_of_fetch_error fetched
  · obtain ⟨bus, met, rfl⟩ := meets_of_fetch fetched
    rw [step_of_fetch fetched]
    cases executes : event.executes with
    | false =>
      rw [execute_of_skips _ executes]
      exact .skipped met executes
    | true =>
      rw [← step_of_fetch fetched]
      cases compute : c.compute event.instr with
      | error fault =>
        rw [met.step_of_undefined executes compute]
        exact .undefined met executes compute
      | ok settled =>
        have computes : c.Computes event bus settled.1 settled.2 := ⟨met, executes, compute⟩
        rw [computes.step_eq]
        exact computes.stepsTo

/-- A step goes in the way whose guards hold, and in no other. -/
theorem StepsTo.step_eq {c last : Cpu β} {event : Option Event} {result : Except RunError Unit}
    (h : c.StepsTo event result last) : c.step = ⟨event, result, last⟩ := by
  cases h with
  | unfetched load => rw [step, fetch]; simp only [load, fail]
  | undecoded load decode => rw [step, fetch]; simp only [load, decode, fail]
  | skipped met skips => rw [met.step_eq, execute_of_skips _ skips]
  | undefined met executes compute => exact met.step_of_undefined executes compute
  | loaded computes op load =>
    rw [computes.step_eq, complete]
    simp only [op, load]
  | unloaded computes op load =>
    rw [computes.step_eq, complete]
    simp only [op, load, fail]
  | stored computes op store =>
    rw [computes.step_eq, complete]
    simp only [op, store]
  | unstored computes op store =>
    rw [computes.step_eq, complete]
    simp only [op, store, fail]
  | halted computes op =>
    rw [computes.step_eq, complete]
    simp only [op]
  | @written event _ _ _ computes op =>
    rw [computes.step_eq, complete]
    cases known : event.instr.op with
    | load => exact absurd known op.1
    | store => exact absurd known op.2.1
    | halt => exact absurd known op.2.2
    | _ => rfl

theorem stepsTo_iff {c last : Cpu β} {event : Option Event} {result : Except RunError Unit} :
    c.StepsTo event result last ↔ c.step = ⟨event, result, last⟩ := by
  constructor
  · exact StepsTo.step_eq
  · intro h
    have way := c.step_stepsTo
    rwa [h] at way

/-- The event of a step is what stands at the program counter. -/
theorem StepsTo.meets {c last : Cpu β} {event : Event} {result : Except RunError Unit}
    (h : c.StepsTo (some event) result last) : ∃ bus, c.Meets event bus := by
  cases h with
  | skipped met _ => exact ⟨_, met⟩
  | undefined met _ _ => exact ⟨_, met⟩
  | loaded computes _ _ => exact ⟨_, computes.toMeets⟩
  | unloaded computes _ _ => exact ⟨_, computes.toMeets⟩
  | stored computes _ _ => exact ⟨_, computes.toMeets⟩
  | unstored computes _ _ => exact ⟨_, computes.toMeets⟩
  | halted computes _ => exact ⟨_, computes.toMeets⟩
  | written computes _ => exact ⟨_, computes.toMeets⟩

/-- The event of a step is what stands at the program counter, and its instruction is executed if
    it shares an outcome with the condition of that moment. -/
theorem step_event {c : Cpu β} {event : Event} (h : c.step.event = some event) :
    event.pc = c.regs.pc.toInt ∧ Instr.decode event.word = .ok event.instr ∧
      event.executes = event.instr.cond.intersects c.condition ∧
      (Bus.load event.pc c.bus).1 = .ok event.word := by
  have way := c.step_stepsTo
  rw [h] at way
  obtain ⟨bus, met⟩ := way.meets
  refine ⟨met.pc, met.decode, met.predicate, ?_⟩
  rw [met.pc, met.load]

/-- A step that fails names the address of its instruction and halts the processor. Its
    instruction, if it came as far as that, was no `HALT` that executes. -/
theorem step_error {c : Cpu β} {e : RunError} (h : c.step.result = .error e) :
    e.pc = c.regs.pc.toInt ∧ c.step.cpu.halted = true ∧
      ∀ event ∈ c.step.event, event.halts = false := by
  have way := c.step_stepsTo
  rw [h] at way
  generalize c.step.event = event, c.step.cpu = last at way
  cases way with
  | unfetched _ => exact ⟨rfl, rfl, by simp⟩
  | undecoded _ _ => exact ⟨rfl, rfl, by simp⟩
  | @undefined event _ _ met executes compute =>
    have no_halt : event.instr.op ≠ .halt := by
      intro halt
      rw [Cpu.compute, halt] at compute
      cases compute
    exact ⟨rfl, rfl, by simp [Event.halts, no_halt]⟩
  | unloaded _ op _ => exact ⟨rfl, rfl, by simp [Event.halts, op]⟩
  | unstored _ op _ => exact ⟨rfl, rfl, by simp [Event.halts, op]⟩

/-- A step that succeeds has an event. It halts the processor if and only if the instruction is a
    `HALT` that executes. -/
theorem step_ok {c : Cpu β} (h : c.step.result = .ok ()) :
    ∃ event, c.step.event = some event ∧ c.step.cpu.halted = (c.halted || event.halts) := by
  have way := c.step_stepsTo
  rw [h] at way
  generalize c.step.event = event, c.step.cpu = last at way
  cases way with
  | skipped _ skips => exact ⟨_, rfl, by simp [Event.halts, skips]⟩
  | loaded _ op _ => exact ⟨_, rfl, by simp [Event.halts, op]⟩
  | stored _ op _ => exact ⟨_, rfl, by simp [Event.halts, op]⟩
  | halted computes op => exact ⟨_, rfl, by simp [Event.halts, op, computes.executes]⟩
  | written _ op => exact ⟨_, rfl, by simp [Event.halts, op]⟩

/-- What no write changes about the registers no step changes. -/
theorem regs_step {P : Registers → Prop} (put : ∀ rs number w, P rs → P (rs.put number w))
    {c : Cpu β} (h : P c.regs) : P c.step.cpu.regs := by
  have stepped : P c.regs.stepPc := put _ Registers.pcNumber (c.regs.pc + 1) h
  have way := c.step_stepsTo
  generalize c.step.event = event, c.step.result = result, c.step.cpu = last at way ⊢
  cases way with
  | unfetched _ => exact h
  | undecoded _ _ => exact h
  | loaded _ _ _ => exact put _ _ _ stepped
  | written _ _ => exact put _ _ _ stepped
  | _ => exact stepped

/-- No step changes which registers are wired. -/
theorem wired_step {c : Cpu β} (h : c.regs.Wired) : c.step.cpu.regs.Wired :=
  regs_step (fun _ number w wired => wired.put number w) h

end Cpu

end DuckMachine
