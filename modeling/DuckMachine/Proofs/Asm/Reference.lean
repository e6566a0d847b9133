import DuckMachine.Proofs.Asm.ObjectFile
import DuckMachine.Proofs.Machine.Program

/-
  References reach their labels.

  A reference is assembled into the distance from its own address to that of its label, and the
  machine adds the offset to the program counter before this moves on, so the two errors that
  could be made here cancel only if neither is made. `reference_reaches_label` follows a reference
  from the source to its effect, for every program, distance and state of the machine. Two programs
  end the module: one refers to labels in all three ways, the other fills memory, so that its label
  after the last word is no cell.
-/

namespace DuckMachine

open Source

namespace SymbolicOp

/-- The instruction of an operation on a label adds its offset to the program counter. -/
theorem relative_atDistance (op : SymbolicOp) (cond : Cond) (target : Option Nat) (distance : Int) :
    (op.atDistance cond target distance).Relative := by
  cases op with
  | load => exact ⟨.inl rfl, rfl, rfl⟩
  | store => exact ⟨.inr (.inl rfl), rfl, rfl⟩
  | jump => exact ⟨.inr (.inr rfl), rfl, rfl⟩

theorem offset_atDistance (op : SymbolicOp) (cond : Cond) (target : Option Nat) (distance : Int) :
    (op.atDistance cond target distance).offset = distance := by
  cases op <;> rfl

theorem cond_atDistance (op : SymbolicOp) (cond : Cond) (target : Option Nat) (distance : Int) :
    (op.atDistance cond target distance).cond = cond := by
  cases op <;> rfl

/-- Whether a step from `c` with this result and the processor `last` after it carries out an
    operation on exactly this address: a jump ends there and changes no other register and no
    memory, a load reads the word there and a store writes the target register there, and both fail
    if the address is the one after the last. -/
def Reaches (op : SymbolicOp) (target : Option Nat) (address : Nat) (c : Cpu Memory)
    (result : Except RunError Unit) (last : Cpu Memory) : Prop :=
  last.condition = (if address = 0 then Cond.zero else Cond.positive) ∧
    match op with
    | .jump =>
      result = .ok () ∧ last.regs.pc.toInt = address ∧
        (∀ number ≠ 15, last.regs.get number = c.regs.get number) ∧ last.bus = c.bus
    | .load =>
      (address < memorySize →
        ∃ w, c.bus.get address = .ok w ∧ result = .ok () ∧
          last.regs = c.regs.stepPc.put (target.getD 0) w ∧ last.bus = c.bus) ∧
      (address = memorySize →
        result = .error ⟨c.regs.pc.toInt, .memory (.outOfRange 1024)⟩ ∧
          last.regs = c.regs.stepPc ∧ last.bus = c.bus)
    | .store =>
      (address < memorySize →
        ∃ changed, c.bus.put address (c.regs.stepPc.get (target.getD 0)) = .ok changed ∧
          result = .ok () ∧ last.regs = c.regs.stepPc ∧ last.bus = changed) ∧
      (address = memorySize →
        result = .error ⟨c.regs.pc.toInt, .memory (.outOfRange 1024)⟩ ∧
          last.regs = c.regs.stepPc ∧ last.bus = c.bus)

/-- The address after the last one is no cell. -/
theorem not_inside_memorySize : ¬Memory.Inside (memorySize : Nat) := by
  decide

theorem inside_of_lt {address : Nat} (h : address < memorySize) : Memory.Inside address :=
  ⟨Int.natCast_nonneg address, Int.ofNat_lt.mpr h⟩

theorem signed_of_le {address : Nat} (h : address ≤ memorySize) : Word.Signed address := by
  have size : memorySize = 1024 := rfl
  exact ⟨by omega, by omega⟩

/-- Completing an operation with the address of its label carries it out there. -/
theorem reaches_complete {op : SymbolicOp} {cond : Cond} {target : Option Nat} {distance : Int}
    {address : Nat} (inside : address ≤ memorySize) {c : Cpu Memory} (wired : c.regs.Wired)
    {result : Except RunError Unit} {last : Cpu Memory}
    (h : (result, last) =
      ({ c with regs := c.regs.stepPc, condition := Alu.sign address } : Cpu Memory).complete
        c.regs.pc.toInt (op.atDistance cond target distance) (Word.ofInt address)) :
    op.Reaches target address c result last := by
  have small := signed_of_le inside
  have at_ := Word.toInt_ofInt small
  have sign : Alu.sign (address : Int) = if address = 0 then Cond.zero else Cond.positive := by
    simp [Alu.sign, show ¬(address : Int) < 0 by omega]
  rw [Cpu.complete] at h
  cases op with
  | jump =>
    have moved : c.regs.stepPc.put 15 (Word.ofInt address) = c.regs.setPc (Word.ofInt address) :=
      c.regs.setPc_setPc _ _
    simp only [atDistance, moved, Prod.mk.injEq] at h
    obtain ⟨rfl, rfl⟩ := h
    refine ⟨sign, rfl, ?_, ?_, rfl⟩
    · dsimp only
      rw [wired.pc_setPc, at_]
    · intro number other
      exact c.regs.get_put_of_ne _ other
  | load =>
    simp only [atDistance, Bus.load, at_] at h
    by_cases cell : address < memorySize
    · obtain ⟨w, found⟩ := Memory.exists_get (inside_of_lt cell) c.bus
      simp only [found, Prod.mk.injEq] at h
      obtain ⟨rfl, rfl⟩ := h
      exact ⟨sign, fun _ => ⟨w, found, rfl, rfl, rfl⟩, fun outside => absurd cell (by omega)⟩
    · obtain rfl : address = memorySize := by omega
      simp only [Memory.get_outside not_inside_memorySize, Cpu.fail, Prod.mk.injEq] at h
      obtain ⟨rfl, rfl⟩ := h
      exact ⟨sign, fun inside => absurd inside cell, fun _ => ⟨rfl, rfl, rfl⟩⟩
  | store =>
    simp only [atDistance, Bus.store, at_] at h
    by_cases cell : address < memorySize
    · obtain ⟨changed, stored⟩ := Memory.exists_put (inside_of_lt cell) c.bus
        (c.regs.stepPc.get (target.getD 0))
      simp only [stored, Prod.mk.injEq] at h
      obtain ⟨rfl, rfl⟩ := h
      exact ⟨sign, fun _ => ⟨_, stored, rfl, rfl, rfl⟩, fun outside => absurd cell (by omega)⟩
    · obtain rfl : address = memorySize := by omega
      simp only [Memory.put_outside not_inside_memorySize, Cpu.fail, Prod.mk.injEq] at h
      obtain ⟨rfl, rfl⟩ := h
      exact ⟨sign, fun inside => absurd inside cell, fun _ => ⟨rfl, rfl, rfl⟩⟩

/-- A step that meets the word of an operation on a label carries it out at the label. -/
theorem reaches_step {op : SymbolicOp} {cond : Cond} {target : Option Nat} {distance : Int}
    {a address : Nat} (there : (a : Int) + distance = address) (inside : address ≤ memorySize)
    (fits : (op.atDistance cond target distance).Encodable) {c : Cpu Memory}
    (wired : c.regs.Wired) (pc : c.regs.pc.toInt = a)
    (word : c.bus.get a = .ok (op.atDistance cond target distance).encode)
    (executes : cond.intersects c.condition = true) :
    op.Reaches target address c c.step.result c.step.cpu := by
  have small := signed_of_le inside
  have reached : c.regs.pc.toInt + (op.atDistance cond target distance).offset = address := by
    rw [offset_atDistance, pc]
    exact there
  have shared : (op.atDistance cond target distance).cond.intersects c.condition = true := by
    rw [cond_atDistance, executes]
  exact reaches_complete inside wired
    (Cpu.step_relative wired (pc ▸ word) (Instr.decode_encode_of_encodable fits) shared
      (op.relative_atDistance cond target distance) reached small)

end SymbolicOp

/-! ## In an assembled source -/

/-- A line that refers to a label is assembled into the word of an instruction at the distance of
    the label. -/
theorem Denoted.symbolic {labels : Text → Option Nat} {lines : List Text} {words : List Word}
    (h : Denoted labels lines words) {a : Nat} {label : Option Text} {op : SymbolicOp}
    {cond : Cond} {target : Option Nat} {symbol : Text}
    (line : (spaceLines lines)[a]? = some ⟨label, .symbolic op cond target symbol⟩) :
    ∃ address : Nat, labels symbol = some address ∧
      words[a]? = some (op.atDistance cond target (address - a)).encode ∧
      (op.atDistance cond target (address - a)).Encodable := by
  obtain ⟨⟨w, found, denoted⟩, fits⟩ := h.2 a _ line
  rw [Statement.word?, Statement.instr?] at denoted
  rw [Statement.instr?] at fits
  cases known : labels symbol with
  | none =>
    rw [known] at denoted
    cases denoted
  | some address =>
    rw [known, Option.map_some] at denoted fits
    refine ⟨address, rfl, ?_, fits _ rfl⟩
    rw [found, ← Option.some.inj denoted]

/-- A line that denotes an instruction is assembled into the word of this instruction. -/
theorem Denoted.instr {labels : Text → Option Nat} {lines : List Text} {words : List Word}
    (h : Denoted labels lines words) {a : Nat} {line : Line}
    (at_ : (spaceLines lines)[a]? = some line) {i : Instr}
    (denoted : line.statement.instr? labels a = some i) :
    words[a]? = some i.encode ∧ i.Encodable := by
  obtain ⟨⟨w, found, word⟩, fits⟩ := h.2 a line at_
  rw [Statement.word?_of_instr? denoted] at word
  exact ⟨word ▸ found, fits i denoted⟩

/-- References reach their labels at run time, and a run of a program that it does not store to
    meets every instruction line as the instruction that the line denotes. -/
theorem reference_reaches_label {source : Text} {limit : Nat} {object : List Text}
    {words : List Word} (h : (assemble source { limit }).1 = .ok (some object))
    (loaded : Object.load object = .ok words) (small : words.length ≤ memorySize) :
    (∀ (a : Nat) (label : Option Text) (op : SymbolicOp) (cond : Cond) (target : Option Nat)
      (symbol : Text),
      (spaceLines source.lines)[a]? = some ⟨label, .symbolic op cond target symbol⟩ →
      ∃ (address : Nat) (w : Word), labelAddress? source.lines symbol = some address ∧
        address ≤ memorySize ∧ words[a]? = some w ∧
        ∀ c : Cpu Memory, c.regs.Wired → c.regs.pc.toInt = a → c.bus.get a = .ok w →
          cond.intersects c.condition = true →
          op.Reaches target address c c.step.result c.step.cpu) ∧
    ∀ (c : Cpu Memory) (fuel : Nat) (start : Word), Memory.ofProgram words = .ok c.bus →
      (∀ k < (c.run fuel start).2.2.size, ∀ address ∈ ((c.startAt start).after k).storeAddress?,
        ¬(0 ≤ address ∧ address < words.length)) →
      ∀ event ∈ (c.run fuel start).2.2.toList, ∀ (a : Nat) (line : Line),
        event.pc = a → (spaceLines source.lines)[a]? = some line →
        ∀ i ∈ line.statement.instr? (labelAddress? source.lines) a, event.instr = i := by
  obtain ⟨-, found, same, denoted⟩ := denoted_of_assemble h
  rw [loaded, Except.ok.injEq] at same
  subst same
  constructor
  · intro a label op cond target symbol line
    obtain ⟨address, known, word, fits⟩ := denoted.symbolic line
    have inside : address ≤ memorySize := by
      have := labelAddress?_le known
      have := denoted.1
      omega
    refine ⟨address, _, known, inside, word, ?_⟩
    intro c wired pc held executes
    have there : (a : Int) + ((address : Int) - a) = address := by omega
    exact SymbolicOp.reaches_step there inside fits wired pc held executes
  · intro c fuel start placed untouched event found a line pc at_ i meaning
    obtain ⟨word, fits⟩ := denoted.instr at_ meaning
    have holds : (c.startAt start).bus.Holds words := Memory.holds_ofProgram placed
    have ends := c.runsTo_run fuel start
    exact ends.event_of_holds holds (by simpa using untouched) found pc word fits

/-! ## Two programs -/

/-- A jump over a `HALT`, to a load of the word at the address zero, which is then stored to a cell
    that can be a console and to the cell after the last word. -/
def passOn : Text :=
  "n: DATA 7\nJUMP go\nHALT r0,r0,r0\ngo: LOAD r1,n\nSTORE r1,r0,r0[511]\n".toList
    ++ "STORE r1,end\nHALT r0,r0,r0\nend:".toList

/-- The object lines of this program. -/
def passOnObject : List Text :=
  ["n: DATA 7".toList, "ADD r15,r0,r15[2]".toList, "HALT r0,r0,r0".toList,
    "go: LOAD r1,r0,r15[-3]".toList, "STORE r1,r0,r0[511]".toList, "STORE r1,r0,r15[2]".toList,
    "HALT r0,r0,r0".toList, "end:".toList]

/-- The words of this program. -/
def passOnWords : List Word :=
  [7, 0x1FF87802, 0x07800000, 0x0F887FFD, 0x178801FF, 0x17887802, 0x07800000]

theorem assemble_passOn : (assemble passOn { limit := 0 }).1 = .ok (some passOnObject) := by
  decide

theorem load_passOnObject : Object.load passOnObject = .ok passOnWords := by
  decide

/-- A processor with this program in its memory. -/
def passOnCpu : Cpu Memory where
  bus := (Memory.ofProgram passOnWords).toOption.getD .empty

theorem ofProgram_passOnWords : Memory.ofProgram passOnWords = .ok passOnCpu.bus := rfl

/-- Zeros for all cells but the last. -/
def zeroLines : List Text := List.replicate 1023 "DATA 0".toList

/-- Lines that fill memory. The last cell has a load from the address after it. -/
def fullLines : List Text := zeroLines ++ ["LOAD r1,end".toList] ++ ["end:".toList]

theorem parse_data_zero : Line.parse "DATA 0".toList = .ok ⟨none, .data 0⟩ := by
  decide

theorem parse_load_end :
    Line.parse "LOAD r1,end".toList =
      .ok ⟨none, .symbolic .load Cond.always (some 1) "end".toList⟩ := by
  decide

theorem parse_end : Line.parse "end:".toList = .ok ⟨some "end".toList, .nothing⟩ := by
  decide

theorem spaceLines_zeroLines : spaceLines zeroLines = List.replicate 1023 ⟨none, .data 0⟩ :=
  spaceLines_replicate parse_data_zero rfl 1023

theorem spaceLines_fullLines :
    spaceLines fullLines =
      List.replicate 1023 ⟨none, .data 0⟩ ++
        [⟨none, .symbolic .load Cond.always (some 1) "end".toList⟩] := by
  rw [fullLines, spaceLines_concat _ parse_end, spaceLines_concat _ parse_load_end,
    spaceLines_zeroLines]
  exact List.append_nil _

theorem length_spaceLines_fullLines : (spaceLines fullLines).length = memorySize := by
  rw [spaceLines_fullLines, List.length_append, List.length_replicate]
  rfl

theorem getElem?_spaceLines_fullLines :
    (spaceLines fullLines)[1023]? =
      some ⟨none, .symbolic .load Cond.always (some 1) "end".toList⟩ := by
  rw [spaceLines_fullLines, List.getElem?_append_right (Nat.le_of_eq List.length_replicate),
    List.length_replicate]
  rfl

/-- No line before the last one has the label. -/
theorem labelAddress?_before_end :
    labelAddress? (zeroLines ++ ["LOAD r1,end".toList]) "end".toList = none := by
  rw [labelAddress?, Option.map_eq_none_iff, List.findIdx?_eq_none_iff]
  intro text member
  rcases List.mem_append.mp member with zero | load
  · rw [List.eq_of_mem_replicate zero, defines_eq parse_data_zero]
    rfl
  · rw [List.mem_singleton.mp load, defines_eq parse_load_end]
    rfl

theorem labelAddress?_fullLines : labelAddress? fullLines "end".toList = some 1024 := by
  rw [fullLines, labelAddress?_concat, labelAddress?_before_end, defines_eq parse_end,
    length_spaceLines_concat _ parse_load_end, spaceLines_zeroLines, List.length_replicate]
  rfl

/-- A pass finds nothing wrong if it does not with any of the three kinds of lines. -/
theorem errorsBy_fullLines {cause? : List Text → Text → Option AsmCause}
    (zero : ∀ before, cause? before "DATA 0".toList = none)
    (load : cause? zeroLines "LOAD r1,end".toList = none)
    (last : cause? (zeroLines ++ ["LOAD r1,end".toList]) "end:".toList = none) :
    errorsBy cause? fullLines = [] := by
  have zeros : errorsBy cause? zeroLines = [] := by
    refine errorsBy_eq_nil ?_
    intro before text member
    rw [List.eq_of_mem_replicate member, zero]
  rw [fullLines, errorsBy_concat, errorsBy_concat, zeros, load, last]
  rfl

theorem clean_fullLines : Clean fullLines := by
  have labels : labelErrors fullLines = [] := by
    refine errorsBy_fullLines ?_ ?_ ?_
    · intro before
      rw [labelCause?, parse_data_zero]
      rfl
    · rw [labelCause?, parse_load_end]
      rfl
    · rw [labelCause?, parse_end]
      dsimp only
      rw [Option.bind_some, labelAddress?_before_end]
      rfl
  have references : referenceErrors fullLines = [] := by
    refine errorsBy_fullLines ?_ ?_ ?_
    · intro before
      rw [referenceCause?, parse_data_zero]
    · rw [referenceCause?, parse_load_end]
      dsimp only
      rw [labelAddress?_fullLines, spaceLines_zeroLines, List.length_replicate]
      rfl
    · rw [referenceCause?, parse_end]
  rw [clean_iff, errors, if_pos labels, references]

/-- The text of these lines. -/
def fullText : Text := Object.fileText fullLines

theorem lines_fullText : fullText.lines = fullLines := by
  refine Object.lines_fileText (List.append_ne_nil_of_right_ne_nil _ (List.cons_ne_nil _ _)) ?_
  intro line member
  rcases List.mem_append.mp member with before | last
  · rcases List.mem_append.mp before with zero | load
    · rw [List.eq_of_mem_replicate zero]
      exact ⟨by decide, by decide⟩
    · rw [List.mem_singleton.mp load]
      exact ⟨by decide, by decide⟩
  · rw [List.mem_singleton.mp last]
    exact ⟨by decide, by decide⟩

theorem assemble_fullText :
    (assemble fullText { limit := 0 }).1 = .ok (some (objectLines fullText.lines)) := by
  rw [assemble_of_clean (lines_fullText ▸ clean_fullLines)]

/-- In the first program the jump goes over a `HALT`, the load comes to the address zero, the store
    to the one after the last word, and the events at its address are of this store. In the second
    program the load fails, as its label lies after the last cell. -/
theorem reference_reaches_label_twoPrograms :
    ((passOnCpu.startAt 1).step.cpu.regs.pc.toInt = 3 ∧
      (passOnCpu.startAt 1).step.cpu.condition = Cond.positive) ∧
    ((passOnCpu.startAt 3).step.cpu.regs.get 1 = 7 ∧
      (passOnCpu.startAt 3).step.cpu.condition = Cond.zero) ∧
    passOnCpu.bus.put 7 0 = .ok (passOnCpu.startAt 5).step.cpu.bus ∧
    ((passOnCpu.run 6 0).2.2.toList.map Event.pc = [0, 1, 3, 4, 5, 6] ∧
      ∀ event ∈ (passOnCpu.run 6 0).2.2.toList, event.pc = 5 →
        event.instr = SymbolicOp.store.atDistance Cond.always (some 1) 2) ∧
    ∃ (words : List Word) (m : Memory), words.length = 1024 ∧ Memory.ofProgram words = .ok m ∧
      (({ bus := m } : Cpu Memory).startAt 1023).step.result =
        .error ⟨1023, .memory (.outOfRange 1024)⟩ := by
  obtain ⟨references, events⟩ :=
    reference_reaches_label assemble_passOn load_passOnObject (by decide)
  have always : Cond.always.intersects Cond.always = true := by decide
  refine ⟨?jump, ?load, ?store, ⟨by decide, ?run⟩, ?full⟩
  case jump =>
    obtain ⟨address, w, label, -, word, reaches⟩ :=
      references 1 none .jump Cond.always none "go".toList (by decide)
    obtain rfl : address = 3 := Option.some.inj (label.symm.trans (by decide))
    obtain ⟨condition, -, pc, -⟩ := reaches (passOnCpu.startAt 1)
      (Registers.wired_initial.setPc 1) (by decide)
      (Memory.get_ofProgram ofProgram_passOnWords word) always
    exact ⟨pc, condition⟩
  case load =>
    obtain ⟨address, w, label, -, word, reaches⟩ :=
      references 3 (some "go".toList) .load Cond.always (some 1) "n".toList (by decide)
    obtain rfl : address = 0 := Option.some.inj (label.symm.trans (by decide))
    obtain ⟨condition, inside, -⟩ := reaches (passOnCpu.startAt 3)
      (Registers.wired_initial.setPc 3) (by decide)
      (Memory.get_ofProgram ofProgram_passOnWords word) always
    obtain ⟨loaded, found, -, regs, -⟩ := inside (by decide)
    have seven : passOnCpu.bus.get (0 : Nat) = .ok 7 :=
      Memory.get_ofProgram ofProgram_passOnWords rfl
    obtain rfl : 7 = loaded := Except.ok.inj (seven.symm.trans found)
    refine ⟨?_, condition⟩
    rw [regs]
    decide
  case store =>
    obtain ⟨address, w, label, -, word, reaches⟩ :=
      references 5 none .store Cond.always (some 1) "end".toList (by decide)
    obtain rfl : address = 7 := Option.some.inj (label.symm.trans (by decide))
    obtain ⟨-, inside, -⟩ := reaches (passOnCpu.startAt 5)
      (Registers.wired_initial.setPc 5) (by decide)
      (Memory.get_ofProgram ofProgram_passOnWords word) always
    obtain ⟨changed, stored, -, -, rfl⟩ := inside (by decide)
    exact stored
  case run =>
    intro event found pc
    have line : (spaceLines passOn.lines)[5]? =
        some ⟨none, .symbolic .store Cond.always (some 1) "end".toList⟩ := by decide
    exact events passOnCpu 6 0 ofProgram_passOnWords (by decide) event found 5 _ pc line _
      (by decide)
  case full =>
    obtain ⟨-, words, loaded, length, -⟩ := denoted_of_assemble assemble_fullText
    rw [lines_fullText, length_spaceLines_fullLines] at length
    obtain ⟨references, -⟩ :=
      reference_reaches_label assemble_fullText loaded (Nat.le_of_eq length)
    rw [lines_fullText] at references
    obtain ⟨address, w, label, -, word, reaches⟩ :=
      references 1023 _ _ _ _ _ getElem?_spaceLines_fullLines
    obtain rfl : address = 1024 := Option.some.inj (label.symm.trans labelAddress?_fullLines)
    obtain ⟨m, placed⟩ := Memory.ofProgram_of_length_le (Nat.le_of_eq length)
    have pc : (Registers.initial.setPc 1023).pc.toInt = 1023 := by decide
    obtain ⟨-, -, outside⟩ := reaches (({ bus := m } : Cpu Memory).startAt 1023)
      (Registers.wired_initial.setPc 1023) pc (Memory.get_ofProgram placed word) always
    exact ⟨words, m, length, placed, (outside rfl).1⟩

end DuckMachine
