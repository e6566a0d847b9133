import DuckMachine.Proofs.Machine.Invariant
import DuckMachine.Proofs.Machine.Failure
import DuckMachine.Proofs.Machine.Refinement

/-
  No program crashes the machine.

  `Guarded` is the machine with a guard at every point that could end the simulation itself: a
  register is looked up by its number, an offset is extracted with the widths of its field checked,
  every sum, difference, product and quotient is formed as an exact number that 64 bits must hold,
  and a division must not be by zero. Steps and runs are written out once more with these guards.
  They never strike: the guarded machine comes to what the machine comes to, from every processor
  and by every sequence of actions (`acts_eq`). The number of the steps of a run is not guarded; it
  exceeds 64 bits in a run of 2^64 steps only.

  Memory answers every access outside of it by the address (`Bus.Bounded`), so that a step which
  makes one fails with this address and in no other way (`step_of_outside`).
-/

namespace DuckMachine

/-- What would end the simulation instead of the program that is simulated. -/
inductive Crash where
  | misuse (misuse : Misuse)
  | overflow
  | division
  deriving DecidableEq, Repr

namespace Guarded

/-! ## Arithmetic -/

/-- A number that 64 bits must hold. -/
def hold (n : Int) : Except Crash Int :=
  if -0x8000000000000000 ≤ n ∧ n < 0x8000000000000000 then .ok n else .error .overflow

/-- The quotient of two numbers without its fraction. -/
def quotient (l r : Int) : Except Crash Int :=
  if r = 0 then .error .division else hold (l.tdiv r)

/-- The remainder that this quotient leaves. It has none if there is no quotient. -/
def remainder (l r : Int) : Except Crash Int := (quotient l r).map fun _ => l.tmod r

/-- The quotient rounded down: one less if the fraction was cut off a negative number. -/
def floorDiv (l r : Int) : Except Crash Int := do
  let quot ← quotient l r
  let rest ← remainder l r
  if rest ≠ 0 ∧ (decide (l < 0) != decide (r < 0)) = true then hold (quot - 1) else .ok quot

/-- The uncut result of an operation. -/
def compute (op : Opcode) (l r : Int) : Except Crash (Except AluFault Int) :=
  match op with
  | .halt => .ok (.ok 0)
  | .load | .store | .add => (hold (l + r)).map .ok
  | .sub => (hold (l - r)).map .ok
  | .mul => (hold (l * r)).map .ok
  | .div => if r = 0 then .ok (.error .divisionByZero) else (floorDiv l r).map .ok
  | .and => .ok (.ok (BitVec.ofInt (2 * wordSize) l &&& BitVec.ofInt (2 * wordSize) r).toInt)
  | .or => .ok (.ok (BitVec.ofInt (2 * wordSize) l ||| BitVec.ofInt (2 * wordSize) r).toInt)
  | .xor => .ok (.ok (BitVec.ofInt (2 * wordSize) l ^^^ BitVec.ofInt (2 * wordSize) r).toInt)

/-- The result and outcome of an operation on a word and a number. -/
def alu (op : Opcode) (left : Word) (right : Int) :
    Except Crash (Except AluFault (Word × Cond)) :=
  (compute op left.toInt right).map fun answer =>
    answer.map fun n => Alu.settle (BitVec.ofInt _ n)

/-- Whether a number can be the second operand: the sum of a word and an offset. -/
def Summed (n : Int) : Prop := -0x80000400 ≤ n ∧ n < 0x80000400

section

variable {l r : Int}

theorem hold_of_holds {n : Int} (h : Alu.Holds n) : hold n = .ok n := if_pos h

theorem holds_of_signed {n : Int} (h : Word.Signed n) : Alu.Holds n := by
  obtain ⟨low, high⟩ := h
  exact ⟨by omega, by omega⟩

theorem Summed.holds (h : Summed r) : Alu.Holds r := by
  obtain ⟨low, high⟩ := h
  exact ⟨by omega, by omega⟩

theorem holds_add (hl : Word.Signed l) (hr : Summed r) : Alu.Holds (l + r) := by
  obtain ⟨low, high⟩ := hl
  obtain ⟨low', high'⟩ := hr
  exact ⟨by omega, by omega⟩

theorem holds_sub (hl : Word.Signed l) (hr : Summed r) : Alu.Holds (l - r) := by
  obtain ⟨low, high⟩ := hl
  obtain ⟨low', high'⟩ := hr
  exact ⟨by omega, by omega⟩

/-- A product needs a little more than twice the bits of a word. -/
theorem holds_mul (hl : Word.Signed l) (hr : Summed r) : Alu.Holds (l * r) := by
  obtain ⟨low, high⟩ := hl
  obtain ⟨low', high'⟩ := hr
  have size : (l * r).natAbs ≤ 0x80000000 * 0x80000400 := by
    rw [Int.natAbs_mul]
    exact Nat.mul_le_mul (by omega) (by omega)
  exact ⟨by omega, by omega⟩

/-- A quotient is no greater than what is divided, and none of these is the least number of
    64 bits. -/
theorem natAbs_tdiv_le (hl : Word.Signed l) : (l.tdiv r).natAbs ≤ 0x80000000 := by
  obtain ⟨low, high⟩ := hl
  have size := Int.natAbs_tdiv_le_natAbs l r
  omega

theorem quotient_eq (hl : Word.Signed l) (nonzero : r ≠ 0) : quotient l r = .ok (l.tdiv r) := by
  have size := natAbs_tdiv_le (r := r) hl
  rw [quotient, if_neg nonzero]
  exact hold_of_holds ⟨by omega, by omega⟩

/-- The quotient without its fraction is one more than the quotient rounded down if there was a
    fraction and the signs differ. -/
theorem fdiv_eq (nonzero : r ≠ 0) :
    l.fdiv r =
      if l.tmod r ≠ 0 ∧ (decide (l < 0) != decide (r < 0)) = true then l.tdiv r - 1
      else l.tdiv r := by
  rw [Int.fdiv_eq_tdiv]
  by_cases divides : r ∣ l
  · simp [divides, Int.tmod_eq_zero_of_dvd divides]
  · have rest : l.tmod r ≠ 0 := fun zero => divides (Int.dvd_iff_tmod_eq_zero.mpr zero)
    rcases Int.lt_or_gt_of_ne nonzero with negative | positive
    · have sign : r.sign = -1 := Int.sign_eq_neg_one_of_neg negative
      have right : ¬0 ≤ r := by omega
      by_cases below : l < 0
      · have left : ¬0 ≤ l := by omega
        simp [divides, rest, negative, below, sign, left, right]
      · have left : 0 ≤ l := by omega
        simp [divides, rest, negative, below, left, right]
    · have sign : r.sign = 1 := Int.sign_eq_one_of_pos positive
      have right : 0 ≤ r ∧ ¬r < 0 := by omega
      by_cases below : l < 0
      · have left : ¬0 ≤ l := by omega
        simp [divides, rest, below, sign, left, right]
      · have left : 0 ≤ l := by omega
        simp [divides, rest, below, left, right]

theorem floorDiv_eq (hl : Word.Signed l) (nonzero : r ≠ 0) : floorDiv l r = .ok (l.fdiv r) := by
  have size := natAbs_tdiv_le (r := r) hl
  rw [floorDiv, remainder, quotient_eq hl nonzero, fdiv_eq nonzero]
  change (if _ then hold _ else _) = _
  rw [hold_of_holds ⟨by omega, by omega⟩]
  exact (apply_ite Except.ok _ _ _).symm

theorem holds_fdiv (hl : Word.Signed l) (nonzero : r ≠ 0) : Alu.Holds (l.fdiv r) := by
  have size := natAbs_tdiv_le (r := r) hl
  rw [fdiv_eq nonzero]
  split
  · exact ⟨by omega, by omega⟩
  · exact ⟨by omega, by omega⟩

theorem summed_operand (base : Word) {offset : Int} (short : -1024 ≤ offset ∧ offset ≤ 1023) :
    Summed (base.toInt + offset) := by
  obtain ⟨low, high⟩ := Word.signed_toInt base
  obtain ⟨lower, upper⟩ := short
  exact ⟨by omega, by omega⟩

theorem summed_rightOperand {β : Type} (c : Cpu β) {i : Instr} (h : i.Encodable) :
    Summed (c.rightOperand i) := by
  obtain ⟨-, -, -, short⟩ := h
  exact summed_operand _ short

/-- A number that 64 bits hold is what they read. -/
theorem hold_eq_wide {n : Int} {wide : Wide} (h : Alu.Holds n) (formed : BitVec.ofInt _ n = wide) :
    ((hold n).map .ok : Except Crash (Except AluFault Int)) =
      .ok ((Except.ok wide).map BitVec.toInt) := by
  rw [hold_of_holds h, ← formed]
  exact congrArg (fun n => Except.ok (Except.ok n)) (Alu.toInt_wide h).symm

/-- On numbers that are operands, 64 bits hold every result. -/
theorem compute_eq (op : Opcode) (hl : Word.Signed l) (hr : Summed r) :
    compute op l r =
      .ok ((Alu.compute op (BitVec.ofInt _ l) (BitVec.ofInt _ r)).map BitVec.toInt) := by
  have sum := hold_eq_wide (holds_add hl hr) (BitVec.ofInt_add l r)
  cases op with
  | halt => rfl
  | load => exact sum
  | store => exact sum
  | add => exact sum
  | sub =>
    refine hold_eq_wide (holds_sub hl hr) ?_
    rw [Int.sub_eq_add_neg, BitVec.ofInt_add, BitVec.ofInt_neg, ← BitVec.sub_eq_add_neg]
  | mul => exact hold_eq_wide (holds_mul hl hr) (BitVec.ofInt_mul l r)
  | div =>
    rw [compute, Alu.compute]
    by_cases zero : r = 0
    · rw [if_pos zero, if_pos ((Alu.wide_eq_zero_iff hr.holds).mpr zero)]
      rfl
    · rw [if_neg zero, if_neg (mt (Alu.wide_eq_zero_iff hr.holds).mp zero), floorDiv_eq hl zero,
        Alu.toInt_wide (holds_of_signed hl), Alu.toInt_wide hr.holds]
      exact congrArg (fun n => Except.ok (Except.ok n)) (Alu.toInt_wide (holds_fdiv hl zero)).symm
  | and => rfl
  | or => rfl
  | xor => rfl

theorem alu_eq (op : Opcode) (left : Word) (hr : Summed r) :
    alu op left r = .ok (Alu.execute op left (BitVec.ofInt _ r)) := by
  rw [alu, compute_eq op (Word.signed_toInt left) hr, Alu.execute]
  change Except.ok _ = Except.ok ((Alu.compute op (BitVec.ofInt _ left.toInt) _).map _)
  cases Alu.compute op (BitVec.ofInt _ left.toInt) (BitVec.ofInt _ r) with
  | error fault => rfl
  | ok wide =>
    exact congrArg (fun wide => Except.ok (Except.ok (Alu.settle wide))) BitVec.ofInt_toInt

end

/-! ## Registers and instructions -/

/-- The content of a register that must exist. -/
def read (rs : Registers) (number : Nat) : Except Crash Word := (rs.read number).mapError .misuse

/-- The registers after a write to a register that must exist. -/
def write (rs : Registers) (number : Nat) (w : Word) : Except Crash Registers :=
  (rs.write number w).mapError .misuse

/-- The registers with the program counter one word further. -/
def stepPc (rs : Registers) : Except Crash Registers := do
  let pc ← read rs Registers.pcNumber
  write rs Registers.pcNumber (pc + 1)

/-- The instruction of a word. -/
def decode (word : Word) : Except Crash (Except DecodeError Instr) :=
  match Opcode.ofCode? (Layout.opcode.extract word).toNat with
  | none => .ok (.error (.unknownOpcode word))
  | some op => do
    let offset ← (Layout.offset.extractSigned word).mapError .misuse
    .ok (.ok {
      op
      cond := Cond.ofNat (Layout.cond.extract word).toNat
      target := (Layout.target.extract word).toNat
      src1 := (Layout.src1.extract word).toNat
      src2 := (Layout.src2.extract word).toNat
      offset := offset.toInt })

theorem read_eq (rs : Registers) {number : Nat} (exists_ : number < registerCount) :
    read rs number = .ok (rs.get number) := by
  rw [read, Registers.read, rs.register_of_lt exists_]
  simp [Except.map, Except.mapError, Registers.get, exists_]

theorem write_eq (rs : Registers) {number : Nat} (w : Word) (exists_ : number < registerCount) :
    write rs number w = .ok (rs.put number w) := by
  rw [write, Registers.write, rs.register_of_lt exists_]
  rfl

theorem stepPc_eq (rs : Registers) : stepPc rs = .ok rs.stepPc := by
  have exists_ : Registers.pcNumber < registerCount := by decide
  rw [stepPc, read_eq rs exists_]
  exact write_eq rs _ exists_

/-- The offset field is wide enough for a sign and no wider than a word. -/
theorem decode_eq (word : Word) : decode word = .ok (Instr.decode word) := by
  rw [decode, Instr.decode]
  cases Opcode.ofCode? (Layout.opcode.extract word).toNat <;> rfl

/-! ## The processor -/

variable {β σ : Type}

/-- The operands of an instruction. -/
def operands (c : Cpu β) (i : Instr) : Except Crash (Word × Int) := do
  let left ← read c.regs i.src1
  let right ← read c.regs i.src2
  let sum ← hold (right.toInt + i.offset)
  .ok (left, sum)

variable [Bus β]

/-- The first half of a step. -/
def fetch (c : Cpu β) : Except Crash (Except RunError Event × Cpu β) := do
  let pc := (← read c.regs Registers.pcNumber).toInt
  match Bus.load pc c.bus with
  | (.error fault, bus) => .ok ({ c with bus }.fail pc (.memory fault))
  | (.ok word, bus) =>
    match ← decode word with
    | .error error => .ok ({ c with bus }.fail pc (.decode error))
    | .ok instr =>
      .ok (.ok { pc, word, instr, executes := instr.cond.intersects c.condition }, { c with bus })

/-- What an operation does with its result. -/
def complete (c : Cpu β) (pc : Int) (i : Instr) (result : Word) :
    Except Crash (Except RunError Unit × Cpu β) :=
  match i.op with
  | .load =>
    match Bus.load result.toInt c.bus with
    | (.ok w, bus) => do
      let regs ← write c.regs i.target w
      .ok (.ok (), { c with bus, regs })
    | (.error fault, bus) => .ok ({ c with bus }.fail pc (.memory fault))
  | .store => do
    let w ← read c.regs i.target
    match Bus.store result.toInt w c.bus with
    | (.ok (), bus) => .ok (.ok (), { c with bus })
    | (.error fault, bus) => .ok ({ c with bus }.fail pc (.memory fault))
  | .halt => .ok (.ok (), { c with halted := true })
  | _ => do
    let regs ← write c.regs i.target result
    .ok (.ok (), { c with regs })

/-- The second half of a step. -/
def execute (c : Cpu β) (event : Event) : Except Crash (Except RunError Unit × Cpu β) :=
  if event.executes then do
    let (left, right) ← operands c event.instr
    let regs ← stepPc c.regs
    match ← alu event.instr.op left right with
    | .error fault => .ok ({ c with regs }.fail event.pc (.alu fault))
    | .ok (result, condition) => complete { c with regs, condition } event.pc event.instr result
  else do
    let regs ← stepPc c.regs
    .ok (.ok (), { c with regs })

/-- One step. -/
def step (c : Cpu β) : Except Crash (Cpu.Step β) := do
  match ← fetch c with
  | (.error e, c) => .ok ⟨none, .error e, c⟩
  | (.ok event, c) =>
    let (result, c) ← execute c event
    .ok ⟨some event, result, c⟩

/-- Steps until the processor halts. -/
def loop (observe : Event → β × σ → β × σ) :
    (fuel steps : Nat) → Cpu β → σ → Except Crash (Ending × Cpu β × σ)
  | fuel, steps, c, seen => do
    match ← fetch c with
    | (.error e, c) => .ok (.fault e, c, seen)
    | (.ok event, c) =>
      match fuel with
      | 0 => .ok (.cutShort, c, seen)
      | fuel + 1 =>
        let (bus, seen) := observe event (c.bus, seen)
        match ← execute { c with bus } event with
        | (.error e, c) => .ok (.fault e, c, seen)
        | (.ok (), c) =>
          if c.halted then .ok (.halted (steps + 1), c, seen)
          else loop observe fuel (steps + 1) c seen

/-- A run from an address under an observer. -/
def runObserved (c : Cpu β) (fuel : Nat) (start : Word) (observe : Event → β × σ → β × σ)
    (seen : σ) : Except Crash (Ending × Cpu β × σ) := do
  let regs ← write c.regs Registers.pcNumber start
  loop observe fuel 0 { c with halted := false, regs } seen

/-- A run from an address, with its events in order. -/
def run (c : Cpu β) (fuel : Nat) (start : Word) : Except Crash (Ending × Cpu β × Array Event) :=
  runObserved c fuel start (fun event (bus, events) => (bus, events.push event)) #[]

/-- The processor after an action. -/
def act (c : Cpu β) : Cpu.Action → Except Crash (Cpu β)
  | .step => (step c).map fun s => s.cpu
  | .run fuel start => (run c fuel start).map fun r => r.2.1
  | .put number w => (write c.regs number w).map fun regs => { c with regs }
  | .setPc w => (write c.regs Registers.pcNumber w).map fun regs => { c with regs }

/-! ## The guards never strike -/

omit [Bus β] in
theorem operands_eq (c : Cpu β) {i : Instr} (h : i.Encodable) :
    operands c i = .ok (c.regs.get i.src1, c.rightOperand i) := by
  have sum : hold ((c.regs.get i.src2).toInt + i.offset) = .ok (c.rightOperand i) :=
    hold_of_holds (summed_rightOperand c h).holds
  rw [operands, read_eq _ h.2.1, ok_bind, read_eq _ h.2.2.1, ok_bind, sum, ok_bind]

theorem fetch_eq (c : Cpu β) : fetch c = .ok c.fetch := by
  have pc : read c.regs Registers.pcNumber = .ok c.regs.pc := read_eq _ (by decide)
  rw [fetch, pc, ok_bind, Cpu.fetch]
  rcases loaded : Bus.load c.regs.pc.toInt c.bus with ⟨fault | word, bus⟩
  · simp only [loaded]
  · simp only [loaded, decode_eq, ok_bind]
    cases Instr.decode word <;> rfl

theorem complete_eq (c : Cpu β) (pc : Int) {i : Instr} (h : i.Encodable) (result : Word) :
    complete c pc i result = .ok (c.complete pc i result) := by
  unfold complete Cpu.complete
  cases i.op with
  | load =>
    rcases Bus.load result.toInt c.bus with ⟨fault | w, bus⟩
    · rfl
    · simp only [write_eq _ _ h.1, ok_bind]
  | store =>
    simp only [read_eq _ h.1, ok_bind]
    rcases Bus.store result.toInt (c.regs.get i.target) c.bus with ⟨fault | w, bus⟩ <;> rfl
  | halt => rfl
  | _ => simp only [write_eq _ _ h.1, ok_bind]

theorem execute_eq (c : Cpu β) {event : Event} (h : event.instr.Encodable) :
    execute c event = .ok (c.execute event) := by
  unfold execute
  cases executes : event.executes with
  | false =>
    rw [Cpu.execute_of_skips _ executes, if_neg Bool.false_ne_true, stepPc_eq, ok_bind]
  | true =>
    rw [Cpu.execute_of_executes _ executes, if_pos rfl, operands_eq c h, ok_bind, Cpu.compute,
      Cpu.operands_eq]
    simp only [stepPc_eq, alu_eq _ _ (summed_rightOperand c h), ok_bind]
    rcases Alu.execute event.instr.op (c.regs.get event.instr.src1)
      (BitVec.ofInt _ (c.rightOperand event.instr)) with fault | ⟨result, condition⟩
    · rfl
    · exact complete_eq _ _ h _

theorem step_eq (c : Cpu β) : step c = .ok c.step := by
  rw [step, fetch_eq, ok_bind]
  rcases fetched : c.fetch with ⟨e | event, c'⟩
  · rw [Cpu.step_of_fetch_error fetched]
  · obtain ⟨bus, met, rfl⟩ := Cpu.meets_of_fetch fetched
    rw [Cpu.step_of_fetch fetched]
    simp only [execute_eq _ met.encodable, ok_bind]

theorem loop_eq (observe : Event → β × σ → β × σ) (fuel steps : Nat) (c : Cpu β) (seen : σ) :
    loop observe fuel steps c seen = .ok (c.loop observe fuel steps seen) := by
  induction fuel generalizing steps c seen with
  | zero =>
    rw [loop, fetch_eq, ok_bind]
    rcases fetched : c.fetch with ⟨e | event, c'⟩
    · rw [Cpu.loop_of_fetch_error fetched]
    · rw [Cpu.loop_zero fetched]
  | succ fuel ih =>
    rw [loop, fetch_eq, ok_bind]
    rcases fetched : c.fetch with ⟨e | event, c'⟩
    · rw [Cpu.loop_of_fetch_error fetched]
    · obtain ⟨bus, met, rfl⟩ := Cpu.meets_of_fetch fetched
      rw [Cpu.loop_succ fetched]
      simp only [execute_eq _ met.encodable, ok_bind, ih]
      rcases ({ c with bus := (observe event (bus, seen)).1 } : Cpu β).execute event with
        ⟨e | _, last⟩
      · rfl
      · exact (apply_ite Except.ok _ _ _).symm

theorem runObserved_eq (c : Cpu β) (fuel : Nat) (start : Word) (observe : Event → β × σ → β × σ)
    (seen : σ) :
    runObserved c fuel start observe seen = .ok (c.runObserved fuel start observe seen) := by
  have started : write c.regs Registers.pcNumber start = .ok (c.regs.setPc start) :=
    write_eq _ _ (by decide)
  rw [runObserved, started, ok_bind]
  exact loop_eq observe fuel 0 _ seen

theorem act_eq (c : Cpu β) (a : Cpu.Action) : act c a = .ok (c.act a) := by
  cases a with
  | step =>
    rw [act, step_eq]
    rfl
  | run fuel start =>
    rw [act, run, runObserved_eq]
    rfl
  | put number w =>
    rw [act, write_eq _ _ number.isLt]
    rfl
  | setPc w =>
    have written : write c.regs Registers.pcNumber w = .ok (c.regs.setPc w) :=
      write_eq _ _ (by decide)
    rw [act, written]
    rfl

/-- Whatever is done with a processor, one action after the other, no guard strikes. -/
theorem acts_eq (c : Cpu β) (actions : List Cpu.Action) :
    actions.foldlM act c = .ok (actions.foldl Cpu.act c) := by
  induction actions generalizing c with
  | nil => rfl
  | cons a actions ih =>
    rw [List.foldlM_cons, act_eq, ok_bind]
    exact ih (c.act a)

end Guarded

/-! ## Accesses outside of memory -/

/-- Whether everything outside of memory is refused by its address, with no effect on the bus. -/
structure Bus.Bounded (β : Type) [Bus β] : Prop where
  load {address : Int} (outside : ¬Memory.Inside address) (b : β) :
    Bus.load address b = (.error (.outOfRange address), b)
  store {address : Int} (outside : ¬Memory.Inside address) (w : Word) (b : β) :
    Bus.store address w b = (.error (.outOfRange address), b)

theorem Memory.bounded : Bus.Bounded Memory where
  load outside m := congrArg (·, m) (Memory.get_outside outside m)
  store outside w m := by simp only [Bus.store, Memory.put_outside outside]

theorem Mapped.bounded {κ : Type} [Console κ] : Bus.Bounded (Mapped κ) where
  load {address} outside m := by
    have elsewhere : address ≠ inputAddress := by
      rintro rfl
      exact outside (by decide)
    change Mapped.load address m = _
    rw [Mapped.load, if_neg elsewhere, Memory.get_outside outside]
  store {address} outside w m := by
    have elsewhere : address ≠ outputAddress := by
      rintro rfl
      exact outside (by decide)
    change Mapped.store address w m = _
    rw [Mapped.store, if_neg elsewhere, Memory.put_outside outside]

namespace Cpu

variable {β : Type} [Bus β]

/-- A step that asks for an address outside of memory fails with this address. -/
theorem step_of_outside (bounded : Bus.Bounded β) {c : Cpu β} {address : Int}
    (asked : address ∈ c.reads ∨ address ∈ c.writes) (outside : ¬Memory.Inside address) :
    c.step.result = .error ⟨c.regs.pc.toInt, .memory (.outOfRange address)⟩ := by
  by_cases inside : Memory.Inside c.regs.pc.toInt
  · -- The fetch succeeds, so that the address is that of the instruction.
    have elsewhere : address ≠ c.regs.pc.toInt := fun same => outside (same ▸ inside)
    rcases asked with read | written
    · have transfer : address ∈ c.transferAddress? .load := by
        simpa [reads, elsewhere] using read
      obtain ⟨event, bus, result, condition, computes, op, rfl⟩ :=
        computes_of_transferAddress? transfer
      rw [(StepsTo.unloaded computes op (bounded.load outside bus)).step_eq]
    · have transfer : address ∈ c.transferAddress? .store := by
        simpa [writes] using written
      obtain ⟨event, bus, result, condition, computes, op, rfl⟩ :=
        computes_of_transferAddress? transfer
      rw [(StepsTo.unstored computes op (bounded.store outside _ bus)).step_eq]
  · have refused := (StepsTo.unfetched (bounded.load inside c.bus)).step_eq
    have no_transfer (op : Opcode) : c.transferAddress? op = none := by
      rw [transferAddress?, refused]
    have fetched : address = c.regs.pc.toInt := by
      simpa [reads, writes, no_transfer] using asked
    rw [refused, fetched]

/-! ## The whole statement -/

/-- What there is to say of a processor of which nothing but its bus is known. -/
structure Safe (c : Cpu β) : Prop where
  /-- No guard strikes, whatever is done. -/
  acts : ∀ actions : List Action,
    actions.foldlM Guarded.act c = .ok (actions.foldl act c)
  /-- No guard strikes in a run, whatever its observer does to the bus. -/
  observed : ∀ (σ : Type) (observe : Event → β × σ → β × σ) (seen : σ) (fuel : Nat) (start : Word),
    Guarded.runObserved c fuel start observe seen = .ok (c.runObserved fuel start observe seen)
  /-- The registers of an instruction exist. -/
  registers : ∀ event ∈ c.step.event, event.instr.target < registerCount ∧
    event.instr.src1 < registerCount ∧ event.instr.src2 < registerCount
  /-- An access outside of memory is answered by its address. -/
  outside : ∀ address, address ∈ c.reads ∨ address ∈ c.writes → ¬Memory.Inside address →
    c.step.result = .error ⟨c.regs.pc.toInt, .memory (.outOfRange address)⟩

theorem safe_of_bounded (bounded : Bus.Bounded β) (c : Cpu β) : Safe c where
  acts := Guarded.acts_eq c
  observed _ observe seen fuel start := Guarded.runObserved_eq c fuel start observe seen
  registers event found := by
    have fits := Instr.encodable_of_decode (step_event found).2.1
    exact ⟨fits.1, fits.2.1, fits.2.2.1⟩
  outside _ := step_of_outside bounded

/-- A program that fits memory is loaded, and from then on nothing crashes the machine: whatever is
    in memory, in the registers and in the console, and whatever steps, runs from any address and
    writes to registers follow one another, every register that an instruction names exists, every
    sum, product and quotient fits 64 bits, no division is by zero, and an access outside of memory
    makes the step fail with its address. -/
theorem never_crashes :
    (∀ program : List Word, program.length ≤ memorySize →
        ∃ memory, Memory.ofProgram program = .ok memory) ∧
      (∀ c : Cpu Memory, Safe c) ∧
      ∀ (κ : Type) [Console κ] (c : Cpu (Mapped κ)), Safe c :=
  ⟨fun _ => Memory.ofProgram_of_length_le, safe_of_bounded Memory.bounded,
    fun _ _ => safe_of_bounded Mapped.bounded⟩

/-- A processor that is about to multiply the least word by the least number that a second operand
    can be, and then to load from the sum of both, which is cut to `-1024`. -/
def computesExtremes : Cpu Memory :=
  let mul : Instr := { op := .mul, target := 3, src1 := 1, src2 := 1, offset := -1024 }
  let load : Instr := { op := .load, target := 4, src1 := 1, src2 := 1, offset := -1024 }
  let cells := ((Vector.replicate memorySize 0).setIfInBounds 0 mul.encode).setIfInBounds 1
    load.encode
  { regs := Registers.initial.put 1 0x80000000, bus := ⟨cells⟩ }

/-- The product overflows a word but crashes nothing, and the load is refused by its address. -/
theorem never_crashes_computesExtremes :
    [Action.step].foldlM Guarded.act computesExtremes = .ok computesExtremes.step.cpu ∧
      computesExtremes.step.cpu.condition = Cond.overflow ∧
      -1024 ∈ computesExtremes.step.cpu.reads ∧ ¬Memory.Inside (-1024) ∧
      computesExtremes.step.cpu.step.result = .error ⟨1, .memory (.outOfRange (-1024))⟩ ∧
      ∃ memory, Memory.ofProgram [0, 0xffffffff] = .ok memory := by
  obtain ⟨loads, safe, -⟩ := never_crashes
  have read : -1024 ∈ computesExtremes.step.cpu.reads := by decide +kernel
  have outside : ¬Memory.Inside (-1024) := by decide
  have pc : computesExtremes.step.cpu.regs.pc.toInt = 1 := by decide +kernel
  have refused := (safe computesExtremes.step.cpu).outside _ (.inl read) outside
  rw [pc] at refused
  exact ⟨(safe computesExtremes).acts [.step], by decide +kernel, read, outside, refused,
    loads _ (by decide)⟩

end Cpu

end DuckMachine
