import DuckMachine.Proofs.Machine.Invariant
import DuckMachine.Proofs.Machine.Program

/-
  Running off the end of a program.

  A cell of zero holds a `HALT` under the predicate `NEVER`, which no condition lets execute. So a
  step at such a cell does nothing but to move the program counter on (`step_idle`), and where
  there are only such cells left a run comes to the end of memory (`after_startAt`) and to the fetch
  that fails there (`fetch_startAt`). Behind a program that stores nothing beyond its own end, there
  are only such cells.
-/

namespace DuckMachine

/-- The instruction in a cell of zero: a `HALT` that no condition lets execute. -/
def Instr.idle : Instr := { op := .halt, cond := Cond.never, target := 0, src1 := 0, src2 := 0 }

theorem Instr.decode_zero : decode 0 = .ok idle := by decide

/-- The event at a cell of zero. -/
def Event.idle (a : Nat) : Event := ⟨a, 0, Instr.idle, false⟩

theorem Word.ofInt_succ (a : Nat) : ofInt a + 1 = ofInt (a + 1 : Nat) := by
  unfold ofInt
  rw [BitVec.ofInt_natCast, BitVec.ofInt_natCast, BitVec.ofNat_add]
  rfl

namespace Cpu

theorem counting_after {β : Type} [Bus β] {c : Cpu β} (h : c.regs.Counting) (n : Nat) :
    (c.after n).regs.Counting := by
  induction n with
  | zero => exact h
  | succ n ih =>
    rw [after_succ]
    exact regs_step (fun _ number w counting => counting.put number w) ih

theorem startAt_pc {c : Cpu Memory} (running : c.halted = false) : c.startAt c.regs.pc = c := by
  unfold startAt
  rw [c.regs.setPc_pc, ← running]

section

variable {c : Cpu Memory} (counting : c.regs.Counting)

include counting

theorem pc_startAt {n : Int} (small : Word.Signed n) :
    (c.startAt (Word.ofInt n)).regs.pc.toInt = n := by
  show (c.regs.setPc (Word.ofInt n)).pc.toInt = n
  rw [counting.pc_setPc, Word.toInt_ofInt small]

/-- At an instruction that is skipped the processor goes on to the next one. -/
theorem step_startAt {a : Nat} {w : Word} {i : Instr} (word : c.bus.get a = .ok w)
    (decoded : Instr.decode w = .ok i) (skips : i.cond.intersects c.condition = false) :
    (c.startAt (Word.ofInt a)).step =
      ⟨some ⟨a, w, i, false⟩, .ok (), c.startAt (Word.ofInt (a + 1 : Nat))⟩ := by
  have inside : (a : Int) < 1024 := (Memory.inside_of_get word).2
  have at_ : (c.startAt (Word.ofInt a)).regs.pc.toInt = a :=
    pc_startAt counting ⟨by omega, by omega⟩
  have met : (c.startAt (Word.ofInt a)).Meets ⟨a, w, i, false⟩ c.bus :=
    { pc := at_.symm
      load := by
        rw [at_]
        show (c.bus.get a, c.bus) = (.ok w, c.bus)
        rw [word]
      decode := decoded
      predicate := skips.symm }
  have next : (c.regs.setPc (Word.ofInt a)).stepPc = c.regs.setPc (Word.ofInt (a + 1 : Nat)) := by
    unfold Registers.stepPc
    rw [counting.pc_setPc, Registers.setPc_setPc, Word.ofInt_succ]
  rw [(StepsTo.skipped met rfl).step_eq]
  unfold startAt
  dsimp only
  rw [next]

theorem step_idle {a : Nat} (zero : c.bus.get a = .ok 0) :
    (c.startAt (Word.ofInt a)).step =
      ⟨some (.idle a), .ok (), c.startAt (Word.ofInt (a + 1 : Nat))⟩ :=
  step_startAt counting zero Instr.decode_zero (Cond.never_intersects _)

/-- Past the last cell there is nothing to fetch. -/
theorem fetch_startAt :
    (c.startAt (Word.ofInt 1024)).fetch =
      (.error ⟨1024, .memory (.outOfRange 1024)⟩,
        { c.startAt (Word.ofInt 1024) with halted := true }) := by
  have at_ : (c.startAt (Word.ofInt 1024)).regs.pc.toInt = 1024 :=
    pc_startAt counting (by decide)
  have refused : Bus.load (1024 : Int) c.bus = (.error (.outOfRange 1024), c.bus) := by
    show (c.bus.get 1024, c.bus) = _
    rw [Memory.get_outside (by decide)]
  have same : (c.startAt (Word.ofInt 1024)).bus = c.bus := rfl
  unfold fetch
  dsimp only
  rw [at_, same, refused]
  rfl

variable {a : Nat} (zero : c.bus.ZeroFrom a)

include zero

theorem after_startAt {n : Nat} (inside : a + n ≤ memorySize) :
    (c.startAt (Word.ofInt a)).after n = c.startAt (Word.ofInt (a + n : Nat)) := by
  induction n with
  | zero => rfl
  | succ n ih =>
    rw [after_succ, ih (by omega), step_idle counting (zero _ (by omega) (by omega))]
    rfl

theorem goesOn_startAt {n : Nat} (inside : a + n ≤ memorySize) :
    (c.startAt (Word.ofInt a)).GoesOn n := by
  intro k earlier
  rw [after_startAt counting zero (by omega),
    step_idle counting (zero _ (by omega) (by omega))]
  exact ⟨rfl, rfl⟩

theorem events_startAt {n : Nat} (inside : a + n ≤ memorySize) :
    (c.startAt (Word.ofInt a)).events n = (List.range' a n).map Event.idle := by
  induction n with
  | zero => rfl
  | succ n ih =>
    rw [events_succ, ih (by omega), after_startAt counting zero (by omega),
      step_idle counting (zero _ (by omega) (by omega)), List.range'_concat, List.map_append,
      Nat.one_mul]
    rfl

/-- A run that has come to cells of zero ends past the last cell. -/
theorem runsTo_over_zeros {d : Cpu Memory} {k fuel : Nat} (before : d.GoesOn k)
    (reached : d.after k = c.startAt (Word.ofInt a)) (inside : a ≤ memorySize)
    (enough : k + (memorySize - a) ≤ fuel) :
    d.RunsTo fuel (.fault ⟨1024, .memory (.outOfRange 1024)⟩)
      { c.startAt (Word.ofInt 1024) with halted := true }
      (d.events k ++ (List.range' a (memorySize - a)).map Event.idle) := by
  have fits : a + (memorySize - a) ≤ memorySize := by omega
  have last : a + (memorySize - a) = memorySize := by omega
  have rest := goesOn_startAt counting zero fits
  have final : d.after (k + (memorySize - a)) = c.startAt (Word.ofInt 1024) := by
    rw [after_add, reached, after_startAt counting zero fits, last]
    rfl
  rw [← events_startAt counting zero fits, ← reached, ← events_add]
  apply runsTo_of_fetch_error (before.add _) _ enough
  · rwa [reached]
  · rw [final]
    exact fetch_startAt counting

end

/-! ## The whole statement -/

/-- What the rest of a run is to be from the processor `c` on, when it goes over cells of zero from
    an address to the end of memory: a skipped instruction for each cell and then the fault. -/
structure RunsOff (c : Cpu Memory) (a : Nat) (ending : Ending) (last : Cpu Memory)
    (events : List Event) : Prop where
  fault : ending = .fault ⟨1024, .memory (.outOfRange 1024)⟩
  count : events.length = 1024 - a
  skipped : ∀ (k : Nat) (event : Event), events[k]? = some event →
    event.pc = (a + k : Nat) ∧ event.executes = false
  pc : last.regs.pc = 1024
  registers : ∀ number, number ≠ 15 → last.regs.get number = c.regs.get number
  bus : last.bus = c.bus
  condition : last.condition = c.condition
  halted : last.halted = true

theorem runsOff_over_zeros {c : Cpu Memory} (counting : c.regs.Counting) (a : Nat) :
    RunsOff c a (.fault ⟨1024, .memory (.outOfRange 1024)⟩)
      { c.startAt (Word.ofInt 1024) with halted := true }
      ((List.range' a (memorySize - a)).map Event.idle) where
  fault := rfl
  count := by rw [List.length_map, List.length_range']
  skipped k event found := by
    rw [List.getElem?_map] at found
    obtain ⟨b, at_, rfl⟩ := Option.map_eq_some_iff.mp found
    obtain ⟨inside, rfl⟩ := List.getElem?_eq_some_iff.mp at_
    rw [List.getElem_range', Nat.one_mul]
    exact ⟨rfl, rfl⟩
  pc := counting.pc_setPc _
  registers number other := Registers.get_put_of_ne _ _ other
  bus := rfl
  condition := rfl
  halted := rfl

/-- A run from an address from which on all cells are zero goes over these cells, skips what is
    there, and ends with the fault of the address 1024. It needs no more instructions than there are
    cells, and changes nothing but the program counter. So does the rest of a run that has come to
    the end of a program and has stored nothing there or beyond. -/
theorem runs_off_memory {c : Cpu Memory} (counting : c.regs.Counting) :
    (∀ a, a ≤ 1023 → c.bus.ZeroFrom a → ∀ fuel, 1024 - a ≤ fuel →
      RunsOff c a (c.run fuel (Word.ofInt a)).1 (c.run fuel (Word.ofInt a)).2.1
        (c.run fuel (Word.ofInt a)).2.2.toList) ∧
    ∀ program start k, program.length < 1024 → Memory.ofProgram program = .ok c.bus →
      (c.startAt start).GoesOn k →
      (∀ j < k, ∀ address ∈ ((c.startAt start).after j).storeAddress?,
        address < program.length) →
      ((c.startAt start).after k).regs.pc.toInt = program.length →
      ∀ fuel, k + (1024 - program.length) ≤ fuel →
        ∃ rest, (c.run fuel start).2.2.toList = (c.startAt start).events k ++ rest ∧
          RunsOff ((c.startAt start).after k) program.length (c.run fuel start).1
            (c.run fuel start).2.1 rest := by
  constructor
  · intro a inside zero fuel enough
    rw [← Nat.zero_add (1024 - a)] at enough
    have ends := runsTo_over_zeros counting zero (c.startAt (Word.ofInt a)).goesOn_zero rfl
      (Nat.le_succ_of_le inside) enough
    obtain ⟨ending, last, listed⟩ := (c.runsTo_run fuel (Word.ofInt a)).unique ends
    rw [ending, last, listed]
    exact runsOff_over_zeros counting a
  · intro program start k inside loaded before unstored reached fuel enough
    have counting' : ((c.startAt start).after k).regs.Counting :=
      counting_after (counting.put _ start) k
    have zero : ((c.startAt start).after k).bus.ZeroFrom program.length := by
      intro a beyond cell
      have kept : ∀ j < k, (a : Int) ∉ ((c.startAt start).after j).storeAddress? := by
        intro j earlier stored
        have below := unstored j earlier a stored
        omega
      rw [get_after kept]
      exact Memory.zeroFrom_ofProgram loaded a beyond cell
    have there : (c.startAt start).after k =
        ((c.startAt start).after k).startAt (Word.ofInt program.length) := by
      rw [← reached]
      unfold Word.ofInt
      rw [BitVec.ofInt_toInt, startAt_pc (before.halted rfl)]
    have ends := runsTo_over_zeros counting' zero before there (Nat.le_of_lt inside) enough
    obtain ⟨ending, last, listed⟩ := (c.runsTo_run fuel start).unique ends
    rw [ending, last, listed]
    exact ⟨_, rfl, runsOff_over_zeros counting' program.length⟩

/-- A `HALT/P` alone. -/
def lonelyHalt : List Word := [0x02000000]

/-- A processor whose last result was an overflow, so that it skips the `HALT/P`. -/
def overflowed (m : Memory) : Cpu Memory := { condition := Cond.overflow, bus := m }

theorem runs_off_memory_lonelyHalt :
    ∃ m, Memory.ofProgram lonelyHalt = .ok m ∧
      ((overflowed m).run 4 (Word.ofInt (1020 : Nat))).1 =
        .fault ⟨1024, .memory (.outOfRange 1024)⟩ ∧
      ((overflowed m).run 4 (Word.ofInt (1020 : Nat))).2.2.toList.length = 4 ∧
      ((overflowed m).run 2000 (Word.ofInt (0 : Nat))).1 =
        .fault ⟨1024, .memory (.outOfRange 1024)⟩ ∧
      ((overflowed m).run 2000 (Word.ofInt (0 : Nat))).2.2.toList.length = 1024 := by
  obtain ⟨m, loaded⟩ :=
    Memory.ofProgram_of_length_le (show lonelyHalt.length ≤ memorySize by decide)
  have counting : (overflowed m).regs.Counting := Registers.wired_initial.counting
  have behind : m.ZeroFrom 1020 := fun a beyond =>
    Memory.zeroFrom_ofProgram loaded a (Nat.le_trans (by decide) beyond)
  have word : m.get (0 : Nat) = .ok 0x02000000 := Memory.get_ofProgram loaded rfl
  have decoded : Instr.decode 0x02000000 =
      .ok { op := .halt, cond := Cond.positive, target := 0, src1 := 0, src2 := 0 } := by decide
  have skips : Cond.positive.intersects Cond.overflow = false := by decide
  have first := step_startAt counting word decoded skips
  have before : ((overflowed m).startAt (Word.ofInt (0 : Nat))).GoesOn 1 := by
    rw [goesOn_succ_iff, first]
    exact ⟨⟨rfl, rfl⟩, goesOn_zero _⟩
  have unstored : ∀ j < 1,
      ∀ address ∈ (((overflowed m).startAt (Word.ofInt (0 : Nat))).after j).storeAddress?,
        address < lonelyHalt.length := by
    intro j inside address stored
    obtain rfl : j = 0 := by omega
    unfold after storeAddress? transferAddress? at stored
    rw [first] at stored
    simp at stored
  have reached : (((overflowed m).startAt (Word.ofInt (0 : Nat))).after 1).regs.pc.toInt =
      lonelyHalt.length := by
    unfold after
    rw [first]
    exact pc_startAt counting (by decide)
  obtain ⟨zeros, programs⟩ := runs_off_memory counting
  have short := zeros 1020 (by decide) behind 4 (by decide)
  obtain ⟨rest, listed, whole⟩ :=
    programs lonelyHalt _ 1 (by decide) loaded before unstored reached 2000 (by decide)
  refine ⟨m, loaded, short.fault, short.count, whole.fault, ?_⟩
  rw [listed, List.length_append, before.length_events, whole.count]
  rfl

end Cpu

end DuckMachine
