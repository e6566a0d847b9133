import DuckMachine.Proofs.Machine.Failure

/-
  Steps that succeed.

  What an instruction does is said in two halves. `Means` gives each kind of instruction its effect:
  the outcome that is left, the register that is written, the word that is loaded or stored. Its
  operands are taken from the registers as they are before the step, with the program counter still
  at the instruction; only a `STORE` of `r15` sees the program counter moved on. The other half is
  the same for all instructions: a step changes what its effect says and moves the program counter
  on, and nothing else (`Performs`). Of what is on the bus, a cell is changed only by a store to it,
  and a device only by an access to one of its ports (`Confined`).
-/

namespace DuckMachine

/-! ## Buses -/

/-- Whether a bus is memory with a device that reads at one address and writes at another, if at
    any. Every other access is to the cells. -/
structure Bus.Backed {β δ : Type} [Bus β] (cells : β → Memory) (device : β → δ)
    (input output : Option Int) : Prop where
  load_cells {address : Int} {b after : β} {result : Except MemoryFault Word}
    (h : Bus.load address b = (result, after)) : cells after = cells b
  load {address : Int} {b after : β} {w : Word} (elsewhere : input ≠ some address)
    (h : Bus.load address b = (.ok w, after)) :
    (cells b).get address = .ok w ∧ device after = device b
  store {address : Int} {b after : β} {w : Word} (elsewhere : output ≠ some address)
    (h : Bus.store address w b = (.ok (), after)) :
    (cells b).put address w = .ok (cells after) ∧ device after = device b
  store_output {address : Int} {b after : β} {w : Word} (here : output = some address)
    (h : Bus.store address w b = (.ok (), after)) : cells after = cells b

/-- Memory has no device. -/
theorem Memory.backed : Bus.Backed (fun m : Memory => m) (fun _ => ()) none none where
  load_cells := eq_of_load
  load _ h := ⟨congrArg Prod.fst h, rfl⟩
  store _ h := ⟨put_of_store h, rfl⟩
  store_output here := nomatch here

theorem Mapped.backed {κ : Type} [Console κ] :
    Bus.Backed (memory : Mapped κ → Memory) console (some inputAddress) (some outputAddress) where
  load_cells {address m after result} h := by
    change Mapped.load address m = _ at h
    unfold Mapped.load at h
    split at h
    · rw [← show _ = after from congrArg Prod.snd h]
    · rw [← show m = after from congrArg Prod.snd h]
  load {address m after w} elsewhere h := by
    change Mapped.load address m = _ at h
    rw [Mapped.load, if_neg fun here => elsewhere (congrArg some here.symm)] at h
    obtain ⟨found, rfl⟩ := Prod.mk.inj h
    exact ⟨found, rfl⟩
  store {address m after w} elsewhere h := by
    change Mapped.store address w m = _ at h
    rw [Mapped.store, if_neg fun here => elsewhere (congrArg some here.symm)] at h
    split at h
    · next memory stored =>
      obtain ⟨-, rfl⟩ := Prod.mk.inj h
      exact ⟨stored, rfl⟩
    · cases congrArg Prod.fst h
  store_output {address m after w} here h := by
    change Mapped.store address w m = _ at h
    rw [Mapped.store, if_pos (Option.some.inj here).symm] at h
    rw [← show _ = after from congrArg Prod.snd h]

/-! ## Predicates and registers -/

theorem Cond.intersects_eq_false_iff {a b : Cond} : a.intersects b = false ↔ a.inter b = never := by
  obtain ⟨bits⟩ := a
  obtain ⟨others⟩ := b
  simp [intersects, isEmpty, inter, never]

namespace Registers

/-- The content of a register when the program counter has moved on. -/
def advanced (rs : Registers) (number : Nat) : Word :=
  if number = pcNumber then rs.pc + 1 else rs.get number

theorem Wired.get_stepPc {rs : Registers} (h : rs.Wired) (number : Nat) :
    rs.stepPc.get number = rs.advanced number := by
  unfold advanced
  split
  · next same =>
    subst same
    exact h.pc_setPc _
  · next other => exact rs.get_put_of_ne _ other

theorem Wired.get_stepPc_put {rs : Registers} (h : rs.Wired) {target : Nat}
    (exists_ : target < registerCount) (w : Word) (number : Nat) :
    (rs.stepPc.put target w).get number =
      if number = target ∧ number ≠ 0 then w else rs.advanced number := by
  by_cases same : number = target
  · subst same
    by_cases zero : number = 0
    · subst zero
      exact ((h.setPc _).put 0 w).get_zero.trans h.get_zero.symm
    · rw [if_pos ⟨rfl, zero⟩]
      exact (h.setPc _).get_put_self w exists_ zero
  · rw [if_neg fun both => same both.1, rs.stepPc.get_put_of_ne w same, h.get_stepPc]

end Registers

/-! ## Effects -/

/-- What a step does besides moving the program counter on. -/
structure Effect where
  condition : Cond
  /-- The register that is written, and the word. -/
  written : Option (Nat × Word) := none
  /-- The address that a word is loaded from, and the word. -/
  loaded : Option (Int × Word) := none
  /-- The address that a word is stored to, and the word. -/
  stored : Option (Int × Word) := none
  halts : Bool := false

namespace Effect

/-- The registers afterwards. -/
def writeBack (effect : Effect) (regs : Registers) : Registers :=
  match effect.written with
  | some (target, w) => regs.stepPc.put target w
  | none => regs.stepPc

/-- The content of a register afterwards: the word that is written, unless it is for `r0`, or what
    the register holds when the program counter has moved on. -/
def register (effect : Effect) (regs : Registers) (number : Nat) : Word :=
  match effect.written with
  | some (target, w) => if number = target ∧ number ≠ 0 then w else regs.advanced number
  | none => regs.advanced number

theorem get_writeBack {effect : Effect} {regs : Registers} (wired : regs.Wired)
    (exist : ∀ target w, effect.written = some (target, w) → target < registerCount)
    (number : Nat) : (effect.writeBack regs).get number = effect.register regs number := by
  unfold writeBack register
  split
  · next target w written => exact wired.get_stepPc_put (exist target w written) w number
  · exact wired.get_stepPc number

/-- The content of a cell afterwards: the word that is stored at its address, unless the device
    takes it, or what the cell held. -/
def cell (effect : Effect) (output : Option Int) (m : Memory) (address : Int) :
    Except MemoryFault Word :=
  match effect.stored with
  | some (place, w) => if address = place ∧ output ≠ some place then .ok w else m.get address
  | none => m.get address

end Effect

namespace Cpu

variable {β δ : Type}

/-- Whether an instruction has this result and outcome on the registers as they are. The second
    operand is the sum of a register and the offset, not cut to a word. -/
def Yields (c : Cpu β) (i : Instr) (result : Word) (condition : Cond) : Prop :=
  ∃ right : Wide, right.toInt = (c.regs.get i.src2).toInt + i.offset ∧
    Alu.execute i.op (c.regs.get i.src1) right = .ok (result, condition)

variable [Bus β]

/-- The effect of an instruction, with the bus after its fetch and the bus that it leaves. -/
inductive Means (c : Cpu β) (i : Instr) (fetched : β) : Effect → β → Prop where
  | skipped (disjoint : i.cond.inter c.condition = Cond.never) :
      Means c i fetched { condition := c.condition } fetched
  | loaded {address w : Word} {condition : Cond} {after : β}
      (shares : i.cond.inter c.condition ≠ Cond.never) (op : i.op = .load)
      (yields : c.Yields i address condition)
      (load : Bus.load address.toInt fetched = (.ok w, after)) :
      Means c i fetched
        { condition, written := some (i.target, w), loaded := some (address.toInt, w) } after
  | stored {address : Word} {condition : Cond} {after : β}
      (shares : i.cond.inter c.condition ≠ Cond.never) (op : i.op = .store)
      (yields : c.Yields i address condition)
      (store : Bus.store address.toInt (c.regs.advanced i.target) fetched = (.ok (), after)) :
      Means c i fetched
        { condition, stored := some (address.toInt, c.regs.advanced i.target) } after
  | halted {result : Word} {condition : Cond} (shares : i.cond.inter c.condition ≠ Cond.never)
      (op : i.op = .halt) (yields : c.Yields i result condition) :
      Means c i fetched { condition, halts := true } fetched
  | computed {result : Word} {condition : Cond} (shares : i.cond.inter c.condition ≠ Cond.never)
      (op : i.op ≠ .load ∧ i.op ≠ .store ∧ i.op ≠ .halt) (yields : c.Yields i result condition) :
      Means c i fetched { condition, written := some (i.target, result) } fetched

/-- Whether a step fetches this word, the instruction in it means this effect, and the processor
    afterwards differs by the effect and by the program counter only. -/
structure Performs (c after : Cpu β) (word : Word) (i : Instr) (effect : Effect) : Prop where
  decode : Instr.decode word = .ok i
  means : ∃ fetched, Bus.load c.regs.pc.toInt c.bus = (.ok word, fetched) ∧
    c.Means i fetched effect after.bus
  zero : c.regs.get 0 = 0
  registers : ∀ number, after.regs.get number = effect.register c.regs number
  condition : after.condition = effect.condition
  halted : after.halted = (c.halted || effect.halts)

/-- Whether a step that fetches this word and has this effect finds its words in the cells, changes
    no cell but the one that it stores to, and leaves the device alone, unless an access is to a
    port of the device. -/
structure Confined (cells : β → Memory) (device : β → δ) (input output : Option Int)
    (c after : Cpu β) (word : Word) (effect : Effect) : Prop where
  fetched : input ≠ some c.regs.pc.toInt → (cells c.bus).get c.regs.pc.toInt = .ok word
  loaded : ∀ address w, effect.loaded = some (address, w) → input ≠ some address →
    (cells c.bus).get address = .ok w
  cells : ∀ address, (cells after.bus).get address = effect.cell output (cells c.bus) address
  device : input ≠ some c.regs.pc.toInt →
    (∀ address w, effect.loaded = some (address, w) → input ≠ some address) →
    (∀ address w, effect.stored = some (address, w) → output ≠ some address) →
    device after.bus = device c.bus

/-! ## Steps -/

theorem Meets.disjoint {c : Cpu β} {event : Event} {bus : β} (h : c.Meets event bus)
    (skips : event.executes = false) : event.instr.cond.inter c.condition = Cond.never :=
  Cond.intersects_eq_false_iff.mp (h.predicate.symm.trans skips)

theorem Computes.shares {c : Cpu β} {event : Event} {bus : β} {result : Word} {condition : Cond}
    (h : c.Computes event bus result condition) :
    event.instr.cond.inter c.condition ≠ Cond.never := by
  intro disjoint
  have skips := h.predicate.trans (Cond.intersects_eq_false_iff.mpr disjoint)
  rw [h.executes] at skips
  cases skips

theorem Computes.yields {c : Cpu β} {event : Event} {bus : β} {result : Word} {condition : Cond}
    (h : c.Computes event bus result condition) : c.Yields event.instr result condition := by
  refine ⟨_, Alu.toInt_wide (c.holds_rightOperand h.encodable), ?_⟩
  have computed := h.compute
  rwa [Cpu.compute, operands_eq] at computed

/-- A step that succeeds has the effect that its instruction means. -/
theorem StepsTo.means {c last : Cpu β} {event : Option Event} (wired : c.regs.Wired)
    (h : c.StepsTo event (.ok ()) last) :
    ∃ met fetched effect, c.Meets met fetched ∧ c.Means met.instr fetched effect last.bus ∧
      last.regs = effect.writeBack c.regs ∧ last.condition = effect.condition ∧
      last.halted = (c.halted || effect.halts) := by
  have still : c.halted = (c.halted || false) := (Bool.or_false _).symm
  cases h with
  | skipped met skips => exact ⟨_, _, _, met, .skipped (met.disjoint skips), rfl, rfl, still⟩
  | loaded computes op load =>
    exact ⟨_, _, _, computes.toMeets, .loaded computes.shares op computes.yields load, rfl, rfl,
      still⟩
  | stored computes op store =>
    rw [wired.get_stepPc] at store
    exact ⟨_, _, _, computes.toMeets, .stored computes.shares op computes.yields store, rfl, rfl,
      still⟩
  | halted computes op =>
    exact ⟨_, _, _, computes.toMeets, .halted computes.shares op computes.yields, rfl, rfl,
      (Bool.or_true _).symm⟩
  | written computes op =>
    exact ⟨_, _, _, computes.toMeets, .computed computes.shares op computes.yields, rfl, rfl,
      still⟩

/-- An instruction writes to its target, if to any register. -/
theorem Means.target_eq {c : Cpu β} {i : Instr} {fetched after : β} {effect : Effect}
    (h : c.Means i fetched effect after) {target : Nat} {w : Word}
    (written : effect.written = some (target, w)) : target = i.target := by
  cases h with
  | loaded _ _ _ _ => exact (congrArg Prod.fst (Option.some.inj written)).symm
  | computed _ _ _ => exact (congrArg Prod.fst (Option.some.inj written)).symm
  | skipped _ => cases written
  | stored _ _ _ _ => cases written
  | halted _ _ _ => cases written

theorem performs_of_ok {c : Cpu β} (wired : c.regs.Wired) (h : c.step.result = .ok ()) :
    ∃ word i effect, c.Performs c.step.cpu word i effect := by
  have way := c.step_stepsTo
  rw [h] at way
  obtain ⟨event, fetched, effect, met, means, regs, condition, halted⟩ := way.means wired
  have exist (target : Nat) (w : Word) (written : effect.written = some (target, w)) :
      target < registerCount := means.target_eq written ▸ met.encodable.1
  refine ⟨event.word, event.instr, effect, met.decode, ⟨fetched, met.load, means⟩, wired.get_zero,
    ?_, condition, halted⟩
  intro number
  rw [regs, Effect.get_writeBack wired exist]

/-! ## The bus -/

section Confined

variable {cells : β → Memory} {device : β → δ} {input output : Option Int}

/-- What an instruction that is fetched does to the cells and to the device. -/
theorem Means.confined (backed : Bus.Backed cells device input output) {c : Cpu β} {i : Instr}
    {fetched after : β} {effect : Effect} (h : c.Means i fetched effect after) :
    (∀ address w, effect.loaded = some (address, w) → input ≠ some address →
        (cells fetched).get address = .ok w) ∧
      (∀ address, (cells after).get address = effect.cell output (cells fetched) address) ∧
      ((∀ address w, effect.loaded = some (address, w) → input ≠ some address) →
        (∀ address w, effect.stored = some (address, w) → output ≠ some address) →
        device after = device fetched) := by
  cases h with
  | skipped _ => exact ⟨nofun, fun _ => rfl, fun _ _ => rfl⟩
  | halted _ _ _ => exact ⟨nofun, fun _ => rfl, fun _ _ => rfl⟩
  | computed _ _ _ => exact ⟨nofun, fun _ => rfl, fun _ _ => rfl⟩
  | loaded _ _ _ load =>
    refine ⟨?_, ?_, ?_⟩
    · rintro _ _ ⟨⟩ elsewhere
      exact (backed.load elsewhere load).1
    · intro address
      rw [backed.load_cells load]
      rfl
    · intro elsewhere _
      exact (backed.load (elsewhere _ _ rfl) load).2
  | @stored place _ _ _ _ _ store =>
    refine ⟨nofun, ?_, fun _ elsewhere => (backed.store (elsewhere _ _ rfl) store).2⟩
    intro address
    dsimp only [Effect.cell]
    by_cases port : output = some place.toInt
    · rw [if_neg fun both => both.2 port, backed.store_output port store]
    · rw [Memory.get_put (backed.store port store).1]
      exact ite_congr (propext (and_iff_left port).symm) (fun _ => rfl) fun _ => rfl

theorem Performs.confined (backed : Bus.Backed cells device input output) {c after : Cpu β}
    {word : Word} {i : Instr} {effect : Effect} (h : c.Performs after word i effect) :
    Confined cells device input output c after word effect := by
  obtain ⟨fetched, load, means⟩ := h.means
  obtain ⟨loaded, kept, still⟩ := means.confined backed
  have same : cells fetched = cells c.bus := backed.load_cells load
  rw [same] at loaded kept
  exact {
    fetched := fun elsewhere => (backed.load elsewhere load).1
    loaded := loaded
    cells := kept
    device := fun off reads writes =>
      (still reads writes).trans (backed.load off load).2 }

end Confined

/-- A step that succeeds has skipped its instruction or has done what it means, and nothing else,
    neither to the processor nor to memory and the device behind it. Nothing is assumed of the
    processor but that `r0` is wired to zero: the other registers, the condition, the halted bit and
    the bus are any. Plain memory has no device, mapped memory has the console at 510 and 511. -/
theorem step_success :
    (∀ (β : Type) [Bus β] (c : Cpu β), c.regs.Wired → c.step.result = .ok () →
        ∃ word i effect, c.Performs c.step.cpu word i effect ∧
          ∀ (δ : Type) (cells : β → Memory) (device : β → δ) (input output : Option Int),
            Bus.Backed cells device input output →
              Confined cells device input output c c.step.cpu word effect) ∧
      Bus.Backed (fun m : Memory => m) (fun _ => ()) none none ∧
      ∀ (κ : Type) [Console κ],
        Bus.Backed (Mapped.memory : Mapped κ → Memory) Mapped.console (some 510) (some 511) := by
  refine ⟨?_, Memory.backed, fun _ _ => Mapped.backed⟩
  intro β _ c wired ok
  obtain ⟨word, i, effect, performs⟩ := performs_of_ok wired ok
  exact ⟨word, i, effect, performs, fun _ _ _ _ _ backed => performs.confined backed⟩

/-- A processor that is about to read its program counter from a console. -/
def jumpsByInput : Cpu (Mapped Queue) :=
  let load : Instr := { op := .load, target := 15, src1 := 0, src2 := 0, offset := 510 }
  { bus := ⟨⟨Vector.replicate memorySize load.encode⟩, { input := [7] }⟩ }

/-- A processor that is about to store its program counter at address 5. -/
def storesPc : Cpu Memory :=
  let store : Instr := { op := .store, target := 15, src1 := 0, src2 := 0, offset := 5 }
  { bus := ⟨Vector.replicate memorySize store.encode⟩ }

/-- The word that is read stands in place of the next address, the word that is stored is the next
    address. -/
theorem step_success_program_counter :
    (∃ word i effect, jumpsByInput.Performs jumpsByInput.step.cpu word i effect ∧
        Confined Mapped.memory Mapped.console (some 510) (some 511) jumpsByInput
          jumpsByInput.step.cpu word effect) ∧
      jumpsByInput.step.cpu.regs.pc = 7 ∧
      (∃ word i effect, storesPc.Performs storesPc.step.cpu word i effect ∧
        Confined (fun m => m) (fun _ => ()) none none storesPc storesPc.step.cpu word effect) ∧
      storesPc.step.cpu.bus.get 5 = .ok 1 ∧ storesPc.step.cpu.regs.pc = 1 := by
  obtain ⟨succeeds, memory, mapped⟩ := step_success
  obtain ⟨word, i, effect, performs, confined⟩ :=
    succeeds _ jumpsByInput Registers.wired_initial (by decide)
  obtain ⟨word', i', effect', performs', confined'⟩ :=
    succeeds _ storesPc Registers.wired_initial (by decide)
  exact ⟨⟨word, i, effect, performs, confined _ _ _ _ _ (mapped Queue)⟩, by decide,
    ⟨word', i', effect', performs', confined' _ _ _ _ _ memory⟩, by decide, by decide⟩

end Cpu

end DuckMachine
