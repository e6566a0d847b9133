import DuckMachine.Proofs.Machine.Alu
import DuckMachine.Proofs.Machine.Run

/-
  Programs in memory.

  A step changes memory only by a `STORE` that executes, and then only at the address that this
  stores to (`step_bus`). As long as a program is not stored to it stays in place
  (`holds_after`), and each of its words is met as the instruction that it encodes.
-/

namespace DuckMachine

namespace Memory

/-- Whether a program stands in the first cells of memory. -/
def Holds (m : Memory) (program : List Word) : Prop :=
  ∀ (a : Nat) (w : Word), program[a]? = some w → m.get a = .ok w

theorem holds_ofProgram {program : List Word} {m : Memory} (h : ofProgram program = .ok m) :
    m.Holds program := fun _ _ found => get_ofProgram h found

end Memory

namespace Cpu

variable {β : Type} [Bus β]

/-- The address that the instruction of the next step reaches, if it executes and has this
    operation. -/
def transferAddress? (c : Cpu β) (op : Opcode) : Option Int :=
  match c.step.event with
  | none => none
  | some event =>
    if event.executes = true ∧ event.instr.op = op then
      (c.compute event.instr).toOption.map fun (result, _) => result.toInt
    else none

/-- The address to which the next step stores, if its instruction is a `STORE` that executes. -/
def storeAddress? (c : Cpu β) : Option Int := c.transferAddress? .store

/-! ## What a step does to memory -/

theorem transferAddress?_eq {c : Cpu β} {event : Event} {bus : β} {address : Word}
    {condition : Cond} (h : c.Computes event bus address condition) {op : Opcode}
    (known : event.instr.op = op) : c.transferAddress? op = some address.toInt := by
  rw [transferAddress?, h.step_eq]
  simp only [if_pos (And.intro h.executes known), h.compute, Except.toOption, Option.map_some]

/-- An address is reached by an instruction that gets through the arithmetic unit. -/
theorem computes_of_transferAddress? {c : Cpu β} {op : Opcode} {address : Int}
    (h : address ∈ c.transferAddress? op) :
    ∃ event bus result condition, c.Computes event bus result condition ∧ event.instr.op = op ∧
      result.toInt = address := by
  have way := c.step_stepsTo
  unfold transferAddress? at h
  cases found : c.step.event with
  | none => simp [found] at h
  | some event =>
    rw [found] at way
    obtain ⟨bus, met⟩ := way.meets
    simp only [found, Option.mem_def] at h
    split at h
    · next known =>
      obtain ⟨⟨result, condition⟩, computed, reached⟩ := Option.map_eq_some_iff.mp h
      cases compute : c.compute event.instr with
      | error fault => simp [compute, Except.toOption] at computed
      | ok settled =>
        rw [compute] at computed
        obtain rfl := Option.some.inj computed
        exact ⟨event, bus, result, condition, ⟨met, known.1, compute⟩, known.2, reached⟩
    · cases h

/-- A step leaves memory as it is, or stores a word to the address of its `STORE`. -/
theorem step_bus (c : Cpu Memory) :
    c.step.cpu.bus = c.bus ∨
      ∃ address ∈ c.storeAddress?, ∃ w, c.bus.put address w = .ok c.step.cpu.bus := by
  rcases stepped : c.step with ⟨event, result, last⟩
  cases stepsTo_iff.mpr stepped with
  | unfetched load => exact .inl (Memory.eq_of_load load)
  | undecoded load _ => exact .inl (Memory.eq_of_load load)
  | skipped met _ => exact .inl (Memory.eq_of_load met.load)
  | undefined met _ _ => exact .inl (Memory.eq_of_load met.load)
  | loaded computes _ load =>
    exact .inl ((Memory.eq_of_load load).trans (Memory.eq_of_load computes.load))
  | unloaded computes _ load =>
    exact .inl ((Memory.eq_of_load load).trans (Memory.eq_of_load computes.load))
  | unstored computes _ store =>
    exact .inl ((Memory.eq_of_store_error store).trans (Memory.eq_of_load computes.load))
  | halted computes _ => exact .inl (Memory.eq_of_load computes.load)
  | written computes _ => exact .inl (Memory.eq_of_load computes.load)
  | stored computes op store =>
    have put := Memory.put_of_store store
    rw [Memory.eq_of_load computes.load] at put
    exact .inr ⟨_, Option.mem_def.mpr (transferAddress?_eq computes op), _, put⟩

/-- A step leaves all addresses alone but the one that it stores to. -/
theorem get_step {c : Cpu Memory} {address : Int} (untouched : address ∉ c.storeAddress?) :
    c.step.cpu.bus.get address = c.bus.get address := by
  rcases c.step_bus with same | ⟨stored, found, w, put⟩
  · rw [same]
  · have differ : address ≠ stored := by
      rintro rfl
      exact untouched found
    rw [Memory.get_put put, if_neg differ]

/-- In a program that stands in memory, the word at the program counter is met as the instruction
    that it encodes. -/
theorem event_of_holds {c : Cpu Memory} {program : List Word} (h : c.bus.Holds program)
    {event : Event} (found : c.step.event = some event) {a : Nat} (at_ : event.pc = a) {i : Instr}
    (word : program[a]? = some i.encode) (fits : i.Encodable) : event.instr = i := by
  obtain ⟨-, decoded, -, loaded⟩ := step_event found
  have held : c.bus.get event.pc = .ok i.encode := by
    rw [at_]
    exact h a _ word
  have same : i.encode = event.word := Except.ok.inj (held.symm.trans loaded)
  rw [← same, Instr.decode_encode_of_encodable fits] at decoded
  exact (Except.ok.inj decoded).symm

/-! ## Along a run -/

/-- An address to which nothing is stored keeps its word. -/
theorem get_after {c : Cpu Memory} {address : Int} {n : Nat}
    (untouched : ∀ k < n, address ∉ (c.after k).storeAddress?) :
    (c.after n).bus.get address = c.bus.get address := by
  induction n with
  | zero => rfl
  | succ n ih =>
    rw [after_succ, get_step (untouched n (Nat.lt_succ_self n))]
    exact ih fun k inside => untouched k (Nat.lt_succ_of_lt inside)

/-- A program that is not stored to stays in place. -/
theorem holds_after {c : Cpu Memory} {program : List Word} (h : c.bus.Holds program) {n : Nat}
    (untouched : ∀ k < n, ∀ address ∈ (c.after k).storeAddress?,
      ¬(0 ≤ address ∧ address < program.length)) : (c.after n).bus.Holds program := by
  intro a w found
  have inside : a < program.length := (List.getElem?_eq_some_iff.mp found).1
  rw [get_after fun k earlier stored => untouched k earlier a stored (by omega)]
  exact h a w found

/-- In a run that does not store to its program, every event at a word that encodes an instruction
    is about that instruction. -/
theorem RunsTo.event_of_holds {c last : Cpu Memory} {fuel : Nat} {ending : Ending}
    {events : List Event} (h : c.RunsTo fuel ending last events) {program : List Word}
    (loaded : c.bus.Holds program)
    (untouched : ∀ k < events.length, ∀ address ∈ (c.after k).storeAddress?,
      ¬(0 ≤ address ∧ address < program.length))
    {event : Event} (found : event ∈ events) {a : Nat} (at_ : event.pc = a) {i : Instr}
    (word : program[a]? = some i.encode) (fits : i.Encodable) : event.instr = i := by
  obtain ⟨k, found⟩ := List.mem_iff_getElem?.mp found
  have inside : k < events.length := (List.getElem?_eq_some_iff.mp found).1
  have held := holds_after loaded fun m earlier => untouched m (Nat.lt_trans earlier inside)
  exact Cpu.event_of_holds held (h.event_at found) at_ word fits

/-! ## Instructions relative to the program counter -/

/-- A step that meets an instruction completes it with the address at the distance of its offset
    from the program counter. -/
theorem step_relative {c : Cpu Memory} {w : Word} {i : Instr} (wired : c.regs.Wired)
    (word : c.bus.get c.regs.pc.toInt = .ok w) (decoded : Instr.decode w = .ok i)
    (executes : i.cond.intersects c.condition = true) (relative : i.Relative) {n : Int}
    (reached : c.regs.pc.toInt + i.offset = n) (small : Word.Signed n) :
    (c.step.result, c.step.cpu) =
      ({ c with regs := c.regs.stepPc, condition := Alu.sign n } : Cpu Memory).complete
        c.regs.pc.toInt i (Word.ofInt n) := by
  have computes : c.Computes ⟨c.regs.pc.toInt, w, i, true⟩ c.bus (Word.ofInt n) (Alu.sign n) :=
    { pc := rfl
      load := Prod.ext word rfl
      decode := decoded
      predicate := executes.symm
      executes := rfl
      compute := compute_relative wired relative reached small }
  rw [computes.step_eq]

end Cpu

end DuckMachine
