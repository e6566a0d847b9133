import DuckMachine.Proofs.Machine.Transcript

/-
  The console loses nothing and makes nothing up.

  An access to mapped memory with a queue at its console does one of six things
  (`effect_of_answers`). What all accesses of a transcript have done together is then a matter of
  adding up: the queue and the two cells behind the console are accounted for at every moment
  (`lossless_of_transcript`).

  The cell at the input address is never seen. To say so it is taken out of mapped memory: what is
  left (`Veiled`) answers every access as mapped memory does, whatever that cell holds
  (`carries_veil`), so that nothing depends on it (`after_of_alike`, `run_of_alike`).
-/

namespace DuckMachine

namespace Queue

/-- The numbers that wait to be read. -/
def waiting (q : Queue) : List Int := q.input.map BitVec.toInt

/-- The numbers that have been written, in order. -/
def written (q : Queue) : List Int := q.output.toList.map BitVec.toInt

end Queue

namespace Access

/-- The word that an access takes from the console. -/
def received? : Access → Option Word
  | load address (.ok w) => if address = Mapped.inputAddress then some w else none
  | _ => none

/-- The word that an access writes to the console. -/
def sent? : Access → Option Word
  | store address w (.ok ()) => if address = Mapped.outputAddress then some w else none
  | _ => none

/-- The word that an access puts into the cell at the input address. -/
def hidden? : Access → Option Word
  | store address w (.ok ()) => if address = Mapped.inputAddress then some w else none
  | _ => none

@[simp] theorem received?_store (address : Int) (w : Word) (answer : Except MemoryFault Unit) :
    (store address w answer).received? = none := rfl

@[simp] theorem sent?_load (address : Int) (answer : Except MemoryFault Word) :
    (load address answer).sent? = none := rfl

@[simp] theorem hidden?_load (address : Int) (answer : Except MemoryFault Word) :
    (load address answer).hidden? = none := rfl

end Access

namespace Mapped

/-! ## One access -/

/-- What an access to a mapped bus can do. -/
inductive Effect (b : Mapped Queue) : Access → Mapped Queue → Prop where
  | received {w : Word} {rest : List Word} (waits : b.console.input = w :: rest) :
      Effect b (.load inputAddress (.ok w)) { b with console := { b.console with input := rest } }
  | closed (empty : b.console.input = []) :
      Effect b (.load inputAddress (.error .inputClosed)) b
  | loaded {address : Int} (elsewhere : address ≠ inputAddress) :
      Effect b (.load address (b.memory.get address)) b
  | sent (w : Word) :
      Effect b (.store outputAddress w (.ok ()))
        { b with console := { b.console with output := b.console.output.push w } }
  | stored {address : Int} {w : Word} {memory : Memory} (elsewhere : address ≠ outputAddress)
      (put : b.memory.put address w = .ok memory) :
      Effect b (.store address w (.ok ())) { b with memory }
  | refused {address : Int} {w : Word} {fault : MemoryFault} (elsewhere : address ≠ outputAddress)
      (put : b.memory.put address w = .error fault) :
      Effect b (.store address w (.error fault)) b

theorem effect_of_load {b after : Mapped Queue} {address : Int} {answer : Except MemoryFault Word}
    (h : Bus.load address b = (answer, after)) : Effect b (.load address answer) after := by
  change Mapped.load address b = _ at h
  unfold Mapped.load at h
  by_cases input : address = inputAddress
  · subst input
    rw [if_pos rfl] at h
    cases waits : b.console.input with
    | nil =>
      simp only [Console.readWord, waits, Prod.mk.injEq] at h
      obtain ⟨rfl, rfl⟩ := h
      exact .closed waits
    | cons w rest =>
      simp only [Console.readWord, waits, Prod.mk.injEq] at h
      obtain ⟨rfl, rfl⟩ := h
      exact .received waits
  · rw [if_neg input, Prod.mk.injEq] at h
    obtain ⟨rfl, rfl⟩ := h
    exact .loaded input

theorem effect_of_store {b after : Mapped Queue} {address : Int} {w : Word}
    {answer : Except MemoryFault Unit} (h : Bus.store address w b = (answer, after)) :
    Effect b (.store address w answer) after := by
  change Mapped.store address w b = _ at h
  unfold Mapped.store at h
  by_cases output : address = outputAddress
  · subst output
    rw [if_pos rfl, Prod.mk.injEq] at h
    obtain ⟨rfl, rfl⟩ := h
    exact .sent w
  · rw [if_neg output] at h
    cases put : b.memory.put address w with
    | ok memory =>
      simp only [put, Prod.mk.injEq] at h
      obtain ⟨rfl, rfl⟩ := h
      exact .stored output put
    | error fault =>
      simp only [put, Prod.mk.injEq] at h
      obtain ⟨rfl, rfl⟩ := h
      exact .refused output put

theorem effect_of_answers {b after : Mapped Queue} {a : Access} (h : Bus.Answers b a after) :
    Effect b a after := by
  cases a with
  | load address answer => exact effect_of_load h
  | store address w answer => exact effect_of_store h

/-! ## Many accesses -/

/-- Whether a bus is what the accesses since the first one have made of it: all that was written
    are the words sent, all that was read are the words received, and of the two cells behind the
    console one is as it was and the other has the word that was last put there. -/
structure Accounted (first : Mapped Queue) (accesses : List Access) (now : Mapped Queue) :
    Prop where
  output : now.console.written =
    first.console.written ++ (accesses.filterMap Access.sent?).map BitVec.toInt
  input : (accesses.filterMap Access.received?).map BitVec.toInt ++ now.console.waiting =
    first.console.waiting
  outputCell : now.memory.get outputAddress = first.memory.get outputAddress
  inputCell : now.memory.get inputAddress =
    match (accesses.filterMap Access.hidden?).getLast? with
    | some w => .ok w
    | none => first.memory.get inputAddress

theorem accounted_nil (first : Mapped Queue) : Accounted first [] first :=
  ⟨by simp, by simp, rfl, rfl⟩

theorem Accounted.append {first b now : Mapped Queue} {earlier later : List Access}
    (h : Accounted first earlier b) (h' : Accounted b later now) :
    Accounted first (earlier ++ later) now where
  output := by
    rw [h'.output, h.output, List.filterMap_append, List.map_append, List.append_assoc]
  input := by
    rw [← h.input, ← h'.input, List.filterMap_append, List.map_append, List.append_assoc]
  outputCell := h'.outputCell.trans h.outputCell
  inputCell := by
    rw [h'.inputCell, List.filterMap_append, List.getLast?_append]
    cases (later.filterMap Access.hidden?).getLast? with
    | none => exact h.inputCell
    | some w => rfl

/-- An access that moves no word of the console or of the cells behind it. -/
theorem accounted_of_idle {b after : Mapped Queue} {a : Access}
    (console : after.console = b.console)
    (outputCell : after.memory.get outputAddress = b.memory.get outputAddress)
    (inputCell : after.memory.get inputAddress = b.memory.get inputAddress)
    (sent : a.sent? = none) (received : a.received? = none) (hidden : a.hidden? = none) :
    Accounted b [a] after where
  output := by simp [console, sent]
  input := by simp [console, received]
  outputCell := outputCell
  inputCell := by simp [inputCell, hidden]

theorem accounted_of_effect {b after : Mapped Queue} {a : Access} (h : Effect b a after) :
    Accounted b [a] after := by
  have apart : inputAddress ≠ outputAddress := by decide
  cases h with
  | received waits =>
    exact ⟨by simp [Queue.written], by simp [Access.received?, Queue.waiting, waits], rfl, rfl⟩
  | closed _ => exact accounted_of_idle rfl rfl rfl rfl rfl rfl
  | @loaded address elsewhere =>
    refine accounted_of_idle rfl rfl rfl rfl ?_ rfl
    cases b.memory.get address with
    | ok w => exact if_neg elsewhere
    | error fault => rfl
  | sent w =>
    exact ⟨by simp [Access.sent?, Queue.written], by simp [Queue.waiting], rfl,
      by simp [Access.hidden?, apart.symm]⟩
  | @stored address w memory elsewhere put =>
    have found := Memory.get_put put
    have outputCell := (found outputAddress).trans (if_neg (Ne.symm elsewhere))
    by_cases input : address = inputAddress
    · subst input
      exact ⟨by simp [Access.sent?, apart], by simp, outputCell, by simp [Access.hidden?, found]⟩
    · have inputCell := (found inputAddress).trans (if_neg (Ne.symm input))
      exact accounted_of_idle rfl outputCell inputCell (if_neg elsewhere) rfl (if_neg input)
  | refused _ _ => exact accounted_of_idle rfl rfl rfl rfl rfl rfl

theorem accounted_of_transcript {first now : Mapped Queue} {accesses : List Access}
    (h : Bus.Transcript first accesses now) : Accounted first accesses now := by
  induction h with
  | nil => exact accounted_nil first
  | snoc _ answers ih => exact ih.append (accounted_of_effect (effect_of_answers answers))

/-- Whether all is accounted for at the end of a transcript and at every moment of it, and every
    access does one of the six things. -/
structure Lossless (first : Mapped Queue) (accesses : List Access) (now : Mapped Queue) :
    Prop where
  accounted : Accounted first accesses now
  moment : ∀ earlier a later, accesses = earlier ++ a :: later →
    ∃ b after, Bus.Transcript first earlier b ∧ Accounted first earlier b ∧ Effect b a after ∧
      Bus.Transcript after later now

theorem lossless_of_transcript {first now : Mapped Queue} {accesses : List Access}
    (h : Bus.Transcript first accesses now) : Lossless first accesses now where
  accounted := accounted_of_transcript h
  moment := by
    rintro earlier a later rfl
    obtain ⟨b, after, before, answers, onward⟩ := h.split_cons
    exact ⟨b, after, before, accounted_of_transcript before, effect_of_answers answers, onward⟩

/-! ## The cell that is never seen -/

variable {κ : Type}

/-- Whether two buses differ at most in the cell at the input address. -/
structure Alike (b b' : Mapped κ) : Prop where
  console : b.console = b'.console
  cells : ∀ address, address ≠ inputAddress → b.memory.get address = b'.memory.get address

end Mapped

/-- Mapped memory without the cell at the input address. -/
structure Veiled (κ : Type) where
  get : Int → Except MemoryFault Word
  console : κ

namespace Veiled

variable {κ : Type} [Console κ]

/-- A load from the console or from memory. -/
def load (address : Int) (v : Veiled κ) : Except MemoryFault Word × Veiled κ :=
  if address = Mapped.inputAddress then
    ((Console.readWord v.console).1, { v with console := (Console.readWord v.console).2 })
  else (v.get address, v)

/-- A store to the console or to memory, with no effect at the input address. -/
def store (address : Int) (w : Word) (v : Veiled κ) : Except MemoryFault Unit × Veiled κ :=
  if address = Mapped.outputAddress then
    (.ok (), { v with console := Console.writeWord w v.console })
  else if address = Mapped.inputAddress then (.ok (), v)
  else if Memory.Inside address then
    (.ok (), { v with get := fun other => if other = address then .ok w else v.get other })
  else (.error (.outOfRange address), v)

instance : Bus (Veiled κ) where
  load := load
  store := store

end Veiled

namespace Mapped

variable {κ : Type}

/-- The bus without the cell at the input address. -/
def veil (b : Mapped κ) : Veiled κ where
  get address := if address = inputAddress then .error .inputClosed else b.memory.get address
  console := b.console

theorem veil_eq_iff {b b' : Mapped κ} : b.veil = b'.veil ↔ b.Alike b' := by
  rw [veil, veil, Veiled.mk.injEq]
  constructor
  · rintro ⟨cells, console⟩
    refine ⟨console, fun address elsewhere => ?_⟩
    have same := congrFun cells address
    simpa only [if_neg elsewhere] using same
  · rintro ⟨console, cells⟩
    refine ⟨funext fun address => ?_, console⟩
    by_cases input : address = inputAddress
    · rw [if_pos input, if_pos input]
    · rw [if_neg input, if_neg input, cells address input]

variable [Console κ]

/-- Every access is answered without the cell at the input address. -/
theorem carries_veil : Bus.CarriesAll (veil : Mapped κ → Veiled κ) where
  load {address} _ b := by
    change Veiled.load address b.veil = ((Mapped.load address b).1, (Mapped.load address b).2.veil)
    unfold Veiled.load Mapped.load
    by_cases input : address = inputAddress
    · rw [if_pos input, if_pos input]
      rfl
    · rw [if_neg input, if_neg input]
      exact congrArg (fun answer => (answer, b.veil)) (if_neg input)
  store {address} _ w b := by
    change Veiled.store address w b.veil =
      ((Mapped.store address w b).1, (Mapped.store address w b).2.veil)
    unfold Veiled.store Mapped.store
    by_cases output : address = outputAddress
    · rw [if_pos output, if_pos output]
      rfl
    · rw [if_neg output, if_neg output]
      by_cases inside : Memory.Inside address
      · obtain ⟨memory, put⟩ := Memory.exists_put inside b.memory w
        have found := Memory.get_put put
        rw [put, if_pos inside]
        by_cases input : address = inputAddress
        · subst input
          rw [if_pos rfl]
          refine congrArg (fun v => (Except.ok (), v)) (veil_eq_iff.mpr ⟨rfl, ?_⟩)
          intro other elsewhere
          exact ((found other).trans (if_neg elsewhere)).symm
        · rw [if_neg input]
          refine congrArg (fun v => (Except.ok (), v)) (Veiled.mk.injEq .. |>.mpr ⟨?_, rfl⟩)
          funext other
          simp only [veil, found]
          by_cases same : other = address
          · rw [if_pos same, if_pos same, if_neg (same ▸ input)]
          · rw [if_neg same, if_neg same]
      · have input : address ≠ inputAddress := by
          rintro rfl
          exact inside (by decide)
        rw [Memory.put_outside inside, if_neg input, if_neg inside]

theorem answers_of_alike {b b' after : Mapped κ} {a : Access} (alike : b.Alike b')
    (h : Bus.Answers b a after) : ∃ after', Bus.Answers b' a after' ∧ after.Alike after' := by
  have same := veil_eq_iff.mpr alike
  cases a with
  | load address answer =>
    have carried : Bus.load address (veil b) = _ := carries_veil.load trivial b
    rw [same, carries_veil.load trivial b', show Bus.load address b = _ from h, Prod.mk.injEq]
      at carried
    obtain ⟨answers, alike⟩ := carried
    exact ⟨(Bus.load address b').2, Prod.ext answers rfl, veil_eq_iff.mp alike.symm⟩
  | store address w answer =>
    have carried : Bus.store address w (veil b) = _ := carries_veil.store trivial w b
    rw [same, carries_veil.store trivial w b', show Bus.store address w b = _ from h,
      Prod.mk.injEq] at carried
    obtain ⟨answers, alike⟩ := carried
    exact ⟨(Bus.store address w b').2, Prod.ext answers rfl, veil_eq_iff.mp alike.symm⟩

/-- The same accesses have the same answers, whatever is in the cell at the input address. -/
theorem transcript_of_alike {first first' now : Mapped κ} {accesses : List Access}
    (alike : first.Alike first') (h : Bus.Transcript first accesses now) :
    ∃ now', Bus.Transcript first' accesses now' ∧ now.Alike now' := by
  induction h with
  | nil => exact ⟨first', .nil, alike⟩
  | snoc _ answers ih =>
    obtain ⟨b', before, alike⟩ := ih
    obtain ⟨after', answers', alike⟩ := answers_of_alike alike answers
    exact ⟨after', before.snoc answers', alike⟩

end Mapped

namespace Cpu

variable {κ : Type}

/-- Processors that differ behind the veil at most. -/
theorem exists_bus_of_veil_eq {c c' : Cpu (Mapped κ)}
    (h : c.mapBus Mapped.veil = c'.mapBus Mapped.veil) :
    ∃ bus, c' = { c with bus } ∧ c.bus.Alike bus := by
  obtain ⟨regs, condition, halted, bus⟩ := c
  obtain ⟨regs', condition', halted', bus'⟩ := c'
  simp only [mapBus, mk.injEq] at h
  obtain ⟨rfl, rfl, rfl, same⟩ := h
  exact ⟨bus', rfl, Mapped.veil_eq_iff.mp same⟩

variable [Console κ]

/-- The steps of a processor do not depend on the cell at the input address. -/
theorem after_of_alike {c : Cpu (Mapped κ)} {b : Mapped κ} (alike : c.bus.Alike b) (n : Nat) :
    ({ c with bus := b } : Cpu (Mapped κ)).events n = c.events n ∧
      ∃ bus, ({ c with bus := b } : Cpu (Mapped κ)).after n = { c.after n with bus } ∧
        (c.after n).bus.Alike bus := by
  have same : c.mapBus Mapped.veil = ({ c with bus := b } : Cpu (Mapped κ)).mapBus Mapped.veil := by
    rw [mapBus, Mapped.veil_eq_iff.mpr alike]
    rfl
  constructor
  · rw [← events_mapBus Mapped.carries_veil fun _ _ => within_all _, ← same]
    exact events_mapBus Mapped.carries_veil fun _ _ => within_all _
  · refine exists_bus_of_veil_eq ?_
    rw [← after_mapBus Mapped.carries_veil fun _ _ => within_all _, same]
    exact after_mapBus Mapped.carries_veil fun _ _ => within_all _

/-- Runs do not depend on the cell at the input address. -/
theorem run_of_alike {c : Cpu (Mapped κ)} {b : Mapped κ} (alike : c.bus.Alike b) (fuel : Nat)
    (start : Word) :
    ∃ bus, ({ c with bus := b } : Cpu (Mapped κ)).run fuel start =
        ((c.run fuel start).1, { (c.run fuel start).2.1 with bus }, (c.run fuel start).2.2) ∧
      (c.run fuel start).2.1.bus.Alike bus := by
  have same : c.mapBus Mapped.veil = ({ c with bus := b } : Cpu (Mapped κ)).mapBus Mapped.veil := by
    rw [mapBus, Mapped.veil_eq_iff.mpr alike]
    rfl
  have carried := run_mapBus Mapped.carries_veil (runsWithin_all (c.startAt start) fuel)
  rw [same, run_mapBus Mapped.carries_veil (runsWithin_all _ _), Prod.mk.injEq, Prod.mk.injEq]
    at carried
  obtain ⟨ending, last, events⟩ := carried
  obtain ⟨bus, equal, alike⟩ := exists_bus_of_veil_eq last.symm
  exact ⟨bus, Prod.ext ending (Prod.ext equal events), alike⟩

/-! ## Steps and runs -/

/-- Whatever is loaded from mapped memory and stored to it, from outside or by the steps and runs of
    a processor, the console loses nothing: at every moment what was written are the words stored to
    its output address, what was read are the words loaded from its input address, and what was not
    read yet still waits. A load from there takes the first number that waits or finds the console
    closed and changes nothing; no other access takes one. The cell at the output address never
    changes, the one at the input address only by a store to it, and nothing depends on the
    latter. -/
theorem console_lossless (c : Cpu (Mapped Queue)) :
    (∀ accesses now, Bus.Transcript c.bus accesses now → Mapped.Lossless c.bus accesses now) ∧
      (∀ n, (c.recorded.after n).mapBus Recorded.bus = c.after n ∧
        Mapped.Lossless c.bus (c.accesses n) (c.after n).bus ∧
        c.accesses (n + 1) = c.accesses n ++ (c.after n).accesses 1 ∧
        ((c.after n).accesses 1).filterMap Access.loadAddress? = (c.after n).reads ∧
        ((c.after n).accesses 1).filterMap Access.storeAddress? = (c.after n).writes) ∧
      (∀ fuel start, ((c.recorded.run fuel start).1,
          (c.recorded.run fuel start).2.1.mapBus Recorded.bus, (c.recorded.run fuel start).2.2) =
            c.run fuel start ∧
        Mapped.Lossless c.bus (c.runAccesses fuel start) (c.run fuel start).2.1.bus ∧
        c.runAccesses fuel start <+: (c.startAt start).accesses (fuel + 1)) ∧
      ∀ b, c.bus.Alike b →
        (∀ accesses now, Bus.Transcript c.bus accesses now →
          ∃ now', Bus.Transcript b accesses now' ∧ now.Alike now') ∧
        (∀ n, ({ c with bus := b } : Cpu (Mapped Queue)).events n = c.events n ∧
          ∃ bus, ({ c with bus := b } : Cpu (Mapped Queue)).after n = { c.after n with bus } ∧
            (c.after n).bus.Alike bus) ∧
        ∀ fuel start, ∃ bus, ({ c with bus := b } : Cpu (Mapped Queue)).run fuel start =
            ((c.run fuel start).1, { (c.run fuel start).2.1 with bus }, (c.run fuel start).2.2) ∧
          (c.run fuel start).2.1.bus.Alike bus := by
  refine ⟨fun accesses now => Mapped.lossless_of_transcript, ?_, ?_, ?_⟩
  · intro n
    obtain ⟨loads, stores⟩ := (c.after n).accesses_step
    exact ⟨c.recorded_after n, Mapped.lossless_of_transcript (c.transcript_after n),
      c.accesses_succ n, loads, stores⟩
  · intro fuel start
    exact ⟨c.recorded_run fuel start, Mapped.lossless_of_transcript (c.transcript_run fuel start),
      c.runAccesses_prefix_accesses fuel start⟩
  · intro b alike
    exact ⟨fun accesses now => Mapped.transcript_of_alike alike, after_of_alike alike,
      run_of_alike alike⟩

/-- A processor that fetches its first instruction from the console, and with it loads `r1` from
    there. The next ones write `r1` to the console and load `r2` from it. -/
def fetchesFromConsole : Cpu (Mapped Queue) :=
  let load : Instr := { op := .load, target := 1, src1 := 0, src2 := 0, offset := 510 }
  let store : Instr := { op := .store, target := 1, src1 := 0, src2 := 0, offset := 511 }
  let again : Instr := { op := .load, target := 2, src1 := 0, src2 := 0, offset := 510 }
  let cells := ((Vector.replicate memorySize 0).setIfInBounds 511 store.encode).setIfInBounds 512
    again.encode
  { regs := Registers.initial.setPc 510
    bus := { memory := ⟨cells⟩, console := { input := [load.encode, -3] } } }

/-- It reads both numbers, writes the second and then finds the console closed, whatever the cell at
    the input address holds. -/
theorem console_lossless_fetchesFromConsole :
    ∃ memory, fetchesFromConsole.bus.memory.put Mapped.inputAddress 8 = .ok memory ∧
      fetchesFromConsole.bus.Alike { fetchesFromConsole.bus with memory } ∧
      ({ fetchesFromConsole with bus.memory := memory } : Cpu (Mapped Queue)).events 3 =
        fetchesFromConsole.events 3 ∧
      (fetchesFromConsole.after 3).bus.console.written = [-3] ∧
      ((fetchesFromConsole.accesses 3).filterMap Access.received?).map BitVec.toInt =
        fetchesFromConsole.bus.console.waiting ∧
      (fetchesFromConsole.after 2).step.result = .error ⟨512, .memory .inputClosed⟩ := by
  obtain ⟨memory, put, -⟩ := fetchesFromConsole.bus.store_inputAddress 8
  have alike : fetchesFromConsole.bus.Alike { fetchesFromConsole.bus with memory } :=
    ⟨rfl, fun address elsewhere => ((Memory.get_put put address).trans (if_neg elsewhere)).symm⟩
  obtain ⟨transcripts, -, -, unseen⟩ := console_lossless fetchesFromConsole
  obtain ⟨-, same, -⟩ := unseen _ alike
  have lossless := transcripts _ _ (fetchesFromConsole.transcript_after 3)
  have empty : (fetchesFromConsole.after 3).bus.console.waiting = [] := by decide +kernel
  have input := lossless.accounted.input
  rw [empty, List.append_nil] at input
  exact ⟨memory, put, alike, (same 3).1, by decide +kernel, input, by decide +kernel⟩

end Cpu

end DuckMachine
