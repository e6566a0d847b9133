import DuckMachine.Proofs.Machine.Program

/-
  Mapped memory refines memory.

  A step looks at its bus only through the word that it fetches and the one that its instruction
  loads or stores (`step_logged`). A map between buses that carries these accesses over therefore
  carries the step over (`step_mapBus`), and with it every run that makes no other accesses
  (`RunsTo.mapBus`). Used for the map that forgets the console, this compares a run on mapped
  memory with one on plain memory; used for the map that puts back an earlier console, it shows
  that the run has left the console alone (`plain_of_avoidsConsole`).
-/

namespace DuckMachine

/-! ## Maps between buses -/

/-- Whether a map between buses carries over the loads and the stores at these addresses. -/
structure Bus.Carries {β γ : Type} [Bus β] [Bus γ] (f : β → γ) (readable writable : Int → Prop) :
    Prop where
  load {address : Int} (allowed : readable address) (b : β) :
    Bus.load address (f b) = ((Bus.load address b).1, f (Bus.load address b).2)
  store {address : Int} (allowed : writable address) (w : Word) (b : β) :
    Bus.store address w (f b) = ((Bus.store address w b).1, f (Bus.store address w b).2)

/-- Whether a map between buses carries over all loads and stores. -/
abbrev Bus.CarriesAll {β γ : Type} [Bus β] [Bus γ] (f : β → γ) : Prop :=
  Bus.Carries f (fun _ => True) (fun _ => True)

/-! ## A record of the accesses -/

/-- A bus that keeps the addresses that it is asked for. -/
structure Logged (β : Type) where
  bus : β
  reads : List Int := []
  writes : List Int := []

namespace Logged

variable {β : Type} [Bus β]

instance : Bus (Logged β) where
  load address b :=
    let (result, bus) := Bus.load address b.bus
    (result, { b with bus, reads := b.reads ++ [address] })
  store address w b :=
    let (result, bus) := Bus.store address w b.bus
    (result, { b with bus, writes := b.writes ++ [address] })

theorem load_eq {address : Int} {b after : β} {result : Except MemoryFault Word}
    (h : Bus.load address b = (result, after)) (reads writes : List Int) :
    Bus.load address (⟨b, reads, writes⟩ : Logged β) =
      (result, ⟨after, reads ++ [address], writes⟩) := by
  simp only [Bus.load] at h ⊢
  rw [h]

theorem store_eq {address : Int} {w : Word} {b after : β} {result : Except MemoryFault Unit}
    (h : Bus.store address w b = (result, after)) (reads writes : List Int) :
    Bus.store address w (⟨b, reads, writes⟩ : Logged β) =
      (result, ⟨after, reads, writes ++ [address]⟩) := by
  simp only [Bus.store] at h ⊢
  rw [h]

end Logged

namespace Cpu

variable {β γ : Type}

/-- The processor connected to the image of its bus. -/
def mapBus (f : β → γ) (c : Cpu β) : Cpu γ :=
  { regs := c.regs, condition := c.condition, halted := c.halted, bus := f c.bus }

variable [Bus β]

/-! ## The accesses of a step -/

/-- The addresses from which the next step reads words: the program counter, and the address of a
    `LOAD` that executes. -/
def reads (c : Cpu β) : List Int := c.regs.pc.toInt :: (c.transferAddress? .load).toList

/-- The addresses to which the next step writes words: that of a `STORE` that executes. -/
def writes (c : Cpu β) : List Int := (c.transferAddress? .store).toList

/-- Whether the next step reads and writes at these addresses only. -/
structure Within (c : Cpu β) (readable writable : Int → Prop) : Prop where
  reads : ∀ address ∈ c.reads, readable address
  writes : ∀ address ∈ c.writes, writable address

instance (c : Cpu β) (readable writable : Int → Prop) [DecidablePred readable]
    [DecidablePred writable] : Decidable (c.Within readable writable) :=
  decidable_of_iff
    ((∀ address ∈ c.reads, readable address) ∧ ∀ address ∈ c.writes, writable address)
    ⟨fun ⟨reads, writes⟩ => ⟨reads, writes⟩, fun ⟨reads, writes⟩ => ⟨reads, writes⟩⟩

namespace Within

variable {c : Cpu β} {readable writable : Int → Prop}

theorem pc (h : c.Within readable writable) : readable c.regs.pc.toInt :=
  h.reads _ List.mem_cons_self

theorem load (h : c.Within readable writable) {event : Event} {bus : β} {address : Word}
    {condition : Cond} (computes : c.Computes event bus address condition)
    (op : event.instr.op = .load) : readable address.toInt := by
  refine h.reads _ (List.mem_cons_of_mem _ ?_)
  rw [transferAddress?_eq computes op]
  exact List.mem_singleton_self _

theorem store (h : c.Within readable writable) {event : Event} {bus : β} {address : Word}
    {condition : Cond} (computes : c.Computes event bus address condition)
    (op : event.instr.op = .store) : writable address.toInt := by
  refine h.writes _ ?_
  rw [Cpu.writes, transferAddress?_eq computes op]
  exact List.mem_singleton_self _

end Within

/-- A step whose fetch fails makes no other access. -/
theorem within_of_fetch_error {c : Cpu β} {e : RunError} {readable writable : Int → Prop}
    (failed : c.fetch.1 = .error e) (pc : readable c.regs.pc.toInt) :
    c.Within readable writable := by
  have no_transfer (op : Opcode) : c.transferAddress? op = none := by
    rw [transferAddress?, step_of_fetch_error (Prod.ext failed rfl)]
  constructor
  · rw [reads, no_transfer]
    exact List.forall_mem_singleton.mpr pc
  · rw [writes, no_transfer]
    exact fun _ impossible => absurd impossible List.not_mem_nil

theorem within_all (c : Cpu β) : c.Within (fun _ => True) (fun _ => True) :=
  ⟨fun _ _ => trivial, fun _ _ => trivial⟩

/-! ## These are the accesses -/

/-- The processor connected to a bus that keeps the addresses from here on. -/
def logged (c : Cpu β) (reads writes : List Int) : Cpu (Logged β) :=
  c.mapBus fun bus => ⟨bus, reads, writes⟩

theorem Meets.logged {c : Cpu β} {event : Event} {bus : β} (h : c.Meets event bus) :
    (c.logged [] []).Meets event ⟨bus, [c.regs.pc.toInt], []⟩ where
  pc := h.pc
  load := Logged.load_eq h.load [] []
  decode := h.decode
  predicate := h.predicate

theorem Computes.logged {c : Cpu β} {event : Event} {bus : β} {result : Word} {condition : Cond}
    (h : c.Computes event bus result condition) :
    (c.logged [] []).Computes event ⟨bus, [c.regs.pc.toInt], []⟩ result condition where
  toMeets := h.toMeets.logged
  executes := h.executes
  compute := h.compute

/-- A step asks its bus for the addresses in `reads` and `writes`, and for no others. -/
theorem step_logged (c : Cpu β) :
    (c.logged [] []).step =
      ⟨c.step.event, c.step.result, c.step.cpu.logged c.reads c.writes⟩ := by
  rcases stepped : c.step with ⟨event, result, last⟩
  refine StepsTo.step_eq ?_
  simp only [reads, writes, transferAddress?, stepped]
  cases stepsTo_iff.mpr stepped with
  | unfetched load => exact .unfetched (Logged.load_eq load [] [])
  | undecoded load decode => exact .undecoded (Logged.load_eq load [] []) decode
  | skipped met skips =>
    simp only [skips, Bool.false_eq_true, false_and, if_false]
    exact .skipped met.logged skips
  | undefined met executes compute =>
    simp only [compute, Except.toOption, Option.map_none, ite_self]
    exact .undefined met.logged executes compute
  | loaded computes op load =>
    simp only [computes.compute, computes.executes, op]
    exact .loaded computes.logged op (Logged.load_eq load _ _)
  | unloaded computes op load =>
    simp only [computes.compute, computes.executes, op]
    exact .unloaded computes.logged op (Logged.load_eq load _ _)
  | stored computes op store =>
    simp only [computes.compute, computes.executes, op]
    exact .stored computes.logged op (Logged.store_eq store _ _)
  | unstored computes op store =>
    simp only [computes.compute, computes.executes, op]
    exact .unstored computes.logged op (Logged.store_eq store _ _)
  | halted computes op =>
    simp only [computes.compute, computes.executes, op]
    exact .halted computes.logged op
  | written computes op =>
    simp only [computes.compute, computes.executes, op]
    exact .written computes.logged op

/-! ## Steps -/

section Carried

variable [Bus γ] {f : β → γ} {readable writable : Int → Prop}

theorem Meets.mapBus {c : Cpu β} {event : Event} {bus : β} (h : c.Meets event bus)
    (carries : Bus.Carries f readable writable) (pc : readable c.regs.pc.toInt) :
    (c.mapBus f).Meets event (f bus) where
  pc := h.pc
  load := by
    have carried := carries.load pc c.bus
    rw [h.load] at carried
    exact carried
  decode := h.decode
  predicate := h.predicate

theorem Computes.mapBus {c : Cpu β} {event : Event} {bus : β} {result : Word} {condition : Cond}
    (h : c.Computes event bus result condition) (carries : Bus.Carries f readable writable)
    (pc : readable c.regs.pc.toInt) : (c.mapBus f).Computes event (f bus) result condition where
  toMeets := h.toMeets.mapBus carries pc
  executes := h.executes
  compute := h.compute

/-- A step goes in the same way on both buses. -/
theorem StepsTo.mapBus {c last : Cpu β} {event : Option Event} {result : Except RunError Unit}
    (h : c.StepsTo event result last) (carries : Bus.Carries f readable writable)
    (within : c.Within readable writable) :
    (c.mapBus f).StepsTo event result (last.mapBus f) := by
  have load {address : Int} {bus after : β} {result : Except MemoryFault Word}
      (allowed : readable address) (loaded : Bus.load address bus = (result, after)) :
      Bus.load address (f bus) = (result, f after) := by
    rw [carries.load allowed, loaded]
  have store {address : Int} {w : Word} {bus after : β} {result : Except MemoryFault Unit}
      (allowed : writable address) (stored : Bus.store address w bus = (result, after)) :
      Bus.store address w (f bus) = (result, f after) := by
    rw [carries.store allowed, stored]
  have pc := within.pc
  cases h with
  | unfetched loaded => exact .unfetched (load pc loaded)
  | undecoded loaded decode => exact .undecoded (load pc loaded) decode
  | skipped met skips => exact .skipped (met.mapBus carries pc) skips
  | undefined met executes compute => exact .undefined (met.mapBus carries pc) executes compute
  | loaded computes op loaded =>
    exact .loaded (computes.mapBus carries pc) op (load (within.load computes op) loaded)
  | unloaded computes op loaded =>
    exact .unloaded (computes.mapBus carries pc) op (load (within.load computes op) loaded)
  | stored computes op stored =>
    exact .stored (computes.mapBus carries pc) op (store (within.store computes op) stored)
  | unstored computes op stored =>
    exact .unstored (computes.mapBus carries pc) op (store (within.store computes op) stored)
  | halted computes op => exact .halted (computes.mapBus carries pc) op
  | written computes op => exact .written (computes.mapBus carries pc) op

theorem step_mapBus {c : Cpu β} (carries : Bus.Carries f readable writable)
    (within : c.Within readable writable) :
    (c.mapBus f).step = ⟨c.step.event, c.step.result, c.step.cpu.mapBus f⟩ :=
  (c.step_stepsTo.mapBus carries within).step_eq

/-- A fetch goes the same way on a bus that answers it in the same way. -/
theorem fetch_mapBus_of_load {c : Cpu β}
    (carried : Bus.load c.regs.pc.toInt (f c.bus) =
      ((Bus.load c.regs.pc.toInt c.bus).1, f (Bus.load c.regs.pc.toInt c.bus).2)) :
    (c.mapBus f).fetch = (c.fetch.1, c.fetch.2.mapBus f) := by
  rcases loaded : Bus.load c.regs.pc.toInt c.bus with ⟨fault | word, bus⟩
  · rw [loaded] at carried
    simp only [fetch, mapBus, loaded, carried, fail]
  · rw [loaded] at carried
    simp only [fetch, mapBus, loaded, carried]
    cases Instr.decode word <;> rfl

theorem fetch_mapBus {c : Cpu β} (carries : Bus.Carries f readable writable)
    (pc : readable c.regs.pc.toInt) :
    (c.mapBus f).fetch = (c.fetch.1, c.fetch.2.mapBus f) :=
  fetch_mapBus_of_load (carries.load pc c.bus)

/-! ## Runs -/

theorem after_mapBus {c : Cpu β} {n : Nat} (carries : Bus.Carries f readable writable)
    (within : ∀ k < n, (c.after k).Within readable writable) :
    (c.mapBus f).after n = (c.after n).mapBus f := by
  induction n with
  | zero => rfl
  | succ n ih =>
    rw [after_succ, after_succ, ih fun k inside => within k (Nat.lt_succ_of_lt inside),
      step_mapBus carries (within n (Nat.lt_succ_self n))]

theorem events_mapBus {c : Cpu β} {n : Nat} (carries : Bus.Carries f readable writable)
    (within : ∀ k < n, (c.after k).Within readable writable) :
    (c.mapBus f).events n = c.events n := by
  induction n with
  | zero => rfl
  | succ n ih =>
    have before : ∀ k < n, (c.after k).Within readable writable :=
      fun k inside => within k (Nat.lt_succ_of_lt inside)
    rw [events_succ, events_succ, ih before, after_mapBus carries before,
      step_mapBus carries (within n (Nat.lt_succ_self n))]

theorem goesOn_step_mapBus {c : Cpu β} (carries : Bus.Carries f readable writable)
    (within : c.Within readable writable) : (c.mapBus f).step.GoesOn ↔ c.step.GoesOn := by
  rw [step_mapBus carries within]
  rfl

theorem goesOn_mapBus {c : Cpu β} {n : Nat} (carries : Bus.Carries f readable writable)
    (within : ∀ k < n, (c.after k).Within readable writable) (h : c.GoesOn n) :
    (c.mapBus f).GoesOn n := by
  intro k inside
  rw [after_mapBus carries fun m earlier => within m (Nat.lt_trans earlier inside)]
  exact (goesOn_step_mapBus carries (within k inside)).mpr (h k inside)

end Carried

/-- Whether a run reads and writes at these addresses only: in its steps, and in the fetch by which
    it finds that there is more to do when the fuel is used up. -/
structure RunsWithin (c : Cpu β) (fuel : Nat) (readable writable : Int → Prop) : Prop where
  steps : ∀ k < fuel, c.GoesOn k → (c.after k).Within readable writable
  last : c.GoesOn fuel → readable (c.after fuel).regs.pc.toInt

namespace RunsWithin

variable {c : Cpu β} {fuel : Nat} {readable writable : Int → Prop}

/-- The accesses of the first steps of a run. -/
theorem before (h : c.RunsWithin fuel readable writable) {n : Nat} (goes : c.GoesOn n)
    (inside : n ≤ fuel) : ∀ k < n, (c.after k).Within readable writable :=
  fun k earlier => h.steps k (Nat.lt_of_lt_of_le earlier inside) (goes.mono (Nat.le_of_lt earlier))

end RunsWithin

theorem runsWithin_all (c : Cpu β) (fuel : Nat) :
    c.RunsWithin fuel (fun _ => True) (fun _ => True) :=
  ⟨fun _ _ _ => within_all _, fun _ => trivial⟩

/-- A run comes to the same end on both buses. -/
theorem RunsTo.mapBus [Bus γ] {f : β → γ} {readable writable : Int → Prop} {c last : Cpu β}
    {fuel : Nat} {ending : Ending} {events : List Event} (h : c.RunsTo fuel ending last events)
    (carries : Bus.Carries f readable writable) (within : c.RunsWithin fuel readable writable) :
    (c.mapBus f).RunsTo fuel ending (last.mapBus f) events := by
  cases h with
  | stopped k inside before stop =>
    have earlier := within.before before (Nat.le_of_lt inside)
    have here := within.steps k inside before
    have up_to : ∀ m < k + 1, (c.after m).Within readable writable :=
      Nat.forall_lt_succ_right.mpr ⟨earlier, here⟩
    have stop' : ¬((c.mapBus f).after k).step.GoesOn := by
      rw [after_mapBus carries earlier, goesOn_step_mapBus carries here]
      exact stop
    have stopped := RunsTo.stopped k inside (goesOn_mapBus carries earlier before) stop'
    rw [after_mapBus carries earlier, step_mapBus carries here, after_mapBus carries up_to,
      events_mapBus carries up_to] at stopped
    exact stopped
  | unfetched e before failed =>
    have earlier := within.before before (Nat.le_refl fuel)
    have up_to : ∀ m < fuel + 1, (c.after m).Within readable writable :=
      Nat.forall_lt_succ_right.mpr
        ⟨earlier, within_of_fetch_error failed (within.last before)⟩
    have failed' : ((c.mapBus f).after fuel).fetch.1 = .error e := by
      rw [after_mapBus carries earlier, fetch_mapBus carries (within.last before)]
      exact failed
    have unfetched := RunsTo.unfetched e (goesOn_mapBus carries earlier before) failed'
    rw [after_mapBus carries up_to, events_mapBus carries up_to] at unfetched
    exact unfetched
  | cutShort event before fetched =>
    have earlier := within.before before (Nat.le_refl fuel)
    have fetch := fetch_mapBus carries (within.last before)
    have fetched' : ((c.mapBus f).after fuel).fetch.1 = .ok event := by
      rw [after_mapBus carries earlier, fetch]
      exact fetched
    have cut := RunsTo.cutShort event (goesOn_mapBus carries earlier before) fetched'
    rw [after_mapBus carries earlier, fetch, events_mapBus carries earlier] at cut
    exact cut

/-- A run of the same fuel is the same on both buses. -/
theorem run_mapBus [Bus γ] {f : β → γ} {readable writable : Int → Prop} {c : Cpu β} {fuel : Nat}
    {start : Word} (carries : Bus.Carries f readable writable)
    (within : (c.startAt start).RunsWithin fuel readable writable) :
    (c.mapBus f).run fuel start =
      ((c.run fuel start).1, (c.run fuel start).2.1.mapBus f, (c.run fuel start).2.2) := by
  have carried := (c.runsTo_run fuel start).mapBus carries within
  obtain ⟨ending, last, events⟩ := ((c.mapBus f).runsTo_run fuel start).unique carried
  exact Prod.ext ending (Prod.ext last (Array.toList_inj.mp events))

end Cpu

/-! ## Mapped memory -/

namespace Mapped

variable {κ : Type} [Console κ]

/-- Apart from the two addresses of the console, mapped memory is its memory. -/
theorem carries_memory :
    Bus.Carries (fun m : Mapped κ => m.memory) (· ≠ inputAddress) (· ≠ outputAddress) where
  load {address} allowed m := by
    change Bus.load address m.memory =
      ((Mapped.load address m).1, (Mapped.load address m).2.memory)
    rw [Mapped.load, if_neg allowed]
    rfl
  store {address} allowed w m := by
    change Bus.store address w m.memory =
      ((Mapped.store address w m).1, (Mapped.store address w m).2.memory)
    rw [Mapped.store, if_neg allowed]
    cases stored : m.memory.put address w <;> simp only [Bus.store, stored]

/-- Apart from the two addresses of the console, it does not matter what is in the console. -/
theorem carries_console (console : κ) :
    Bus.Carries (fun m : Mapped κ => { m with console }) (· ≠ inputAddress)
      (· ≠ outputAddress) where
  load {address} allowed m := by
    change Mapped.load address { m with console } =
      ((Mapped.load address m).1, { (Mapped.load address m).2 with console })
    rw [Mapped.load, Mapped.load, if_neg allowed, if_neg allowed]
  store {address} allowed w m := by
    change Mapped.store address w { m with console } =
      ((Mapped.store address w m).1, { (Mapped.store address w m).2 with console })
    rw [Mapped.store, Mapped.store, if_neg allowed, if_neg allowed]
    cases m.memory.put address w <;> rfl

/-- A store to the address at which the console is read goes to storage. -/
theorem store_inputAddress (m : Mapped κ) (w : Word) :
    ∃ memory, m.memory.put inputAddress w = .ok memory ∧
      Bus.store inputAddress w m = (.ok (), { m with memory }) := by
  have inside : Memory.Inside inputAddress := by decide
  obtain ⟨memory, stored⟩ := Memory.exists_put inside m.memory w
  refine ⟨memory, stored, ?_⟩
  change Mapped.store inputAddress w m = _
  rw [Mapped.store, if_neg (by decide), stored]

/-- A load from the address at which the console is written comes from storage. -/
theorem load_outputAddress (m : Mapped κ) :
    ∃ w, m.memory.get outputAddress = .ok w ∧ Bus.load outputAddress m = (.ok w, m) := by
  have inside : Memory.Inside outputAddress := by decide
  obtain ⟨w, found⟩ := Memory.exists_get inside m.memory
  refine ⟨w, found, ?_⟩
  change Mapped.load outputAddress m = _
  rw [Mapped.load, if_neg (by decide), found]

end Mapped

namespace Cpu

variable {κ : Type} [Console κ]

/-- The processor connected to the memory alone. -/
def plain (c : Cpu (Mapped κ)) : Cpu Memory := c.mapBus fun m => m.memory

/-- Whether the next step leaves the console alone: it reads no word from the address at which the
    console is read, and writes none to the address at which it is written. -/
def AvoidsConsole (c : Cpu (Mapped κ)) : Prop :=
  c.Within (· ≠ Mapped.inputAddress) (· ≠ Mapped.outputAddress)

instance (c : Cpu (Mapped κ)) : Decidable c.AvoidsConsole := inferInstanceAs (Decidable (Within ..))

/-- Whether a run leaves the console alone. -/
def RunAvoidsConsole (c : Cpu (Mapped κ)) (fuel : Nat) : Prop :=
  c.RunsWithin fuel (· ≠ Mapped.inputAddress) (· ≠ Mapped.outputAddress)

/-- Steps that avoid the console leave it as it is. -/
theorem console_after {c : Cpu (Mapped κ)} {n : Nat} (avoids : ∀ k < n, (c.after k).AvoidsConsole) :
    (c.after n).bus.console = c.bus.console := by
  -- The first console is put back before the steps, where nothing changes, or after them.
  have put_back : c.after n = (c.after n).mapBus fun m => { m with console := c.bus.console } :=
    after_mapBus (Mapped.carries_console c.bus.console) avoids
  exact congrArg (fun c => c.bus.console) put_back

/-- A run that avoids the console leaves it as it is. -/
theorem console_run {c : Cpu (Mapped κ)} {fuel : Nat} {start : Word}
    (avoids : (c.startAt start).RunAvoidsConsole fuel) :
    (c.run fuel start).2.1.bus.console = c.bus.console := by
  have put_back := run_mapBus (Mapped.carries_console c.bus.console) avoids
  exact congrArg (fun r => r.2.1.bus.console) put_back

/-- Mapped memory refines memory. Steps that avoid the console, and runs that do, are on both the
    same in all that they show, and leave the console as it is. What they may do is to store where
    the console is read and to load where it is written. -/
theorem plain_of_avoidsConsole (c : Cpu (Mapped κ)) :
    (∀ n, (∀ k < n, (c.after k).AvoidsConsole) →
      c.plain.after n = (c.after n).plain ∧ c.plain.events n = c.events n ∧
        (c.after n).bus.console = c.bus.console ∧
        ∀ k < n, (c.plain.after k).step =
          ⟨(c.after k).step.event, (c.after k).step.result, (c.after k).step.cpu.plain⟩) ∧
      (∀ fuel start, (c.startAt start).RunAvoidsConsole fuel →
        c.plain.run fuel start =
            ((c.run fuel start).1, (c.run fuel start).2.1.plain, (c.run fuel start).2.2) ∧
          (c.run fuel start).2.1.bus.console = c.bus.console) ∧
      (∀ w, ∃ memory, c.bus.memory.put Mapped.inputAddress w = .ok memory ∧
        Bus.store Mapped.inputAddress w c.bus = (.ok (), { c.bus with memory })) ∧
      ∃ w, c.bus.memory.get Mapped.outputAddress = .ok w ∧
        Bus.load Mapped.outputAddress c.bus = (.ok w, c.bus) := by
  refine ⟨?_, ?_, c.bus.store_inputAddress, c.bus.load_outputAddress⟩
  · intro n avoids
    refine ⟨after_mapBus Mapped.carries_memory avoids, events_mapBus Mapped.carries_memory avoids,
      console_after avoids, ?_⟩
    intro k inside
    have earlier : ∀ m < k, (c.after m).AvoidsConsole :=
      fun m before => avoids m (Nat.lt_trans before inside)
    rw [plain, after_mapBus Mapped.carries_memory earlier]
    exact step_mapBus Mapped.carries_memory (avoids k inside)
  · intro fuel start avoids
    exact ⟨run_mapBus Mapped.carries_memory avoids, console_run avoids⟩

/-- A processor that is about to store `r1` where the console is read and to load `r2` from where it
    is written. -/
def usesPortCells : Cpu (Mapped Queue) :=
  let store : Instr := { op := .store, target := 1, src1 := 0, src2 := 0, offset := 510 }
  let load : Instr := { op := .load, target := 2, src1 := 0, src2 := 0, offset := 511 }
  let halt : Instr := { op := .halt, target := 0, src1 := 0, src2 := 0 }
  let cells := ((((Vector.replicate memorySize 0).set 0 store.encode).set 1 load.encode).set 2
    halt.encode).set 511 9
  { regs := Registers.initial.put 1 7, bus := { memory := ⟨cells⟩, console := { input := [5] } } }

/-- The program runs on memory alone as it does on mapped memory, through the cells `510` and `511`,
    and its console keeps its input. -/
theorem plain_of_avoidsConsole_usesPortCells :
    (∀ k < 3, (usesPortCells.after k).AvoidsConsole) ∧
      usesPortCells.plain.after 3 = (usesPortCells.after 3).plain ∧
      (usesPortCells.startAt 0).RunAvoidsConsole 3 ∧
      (usesPortCells.plain.run 3 0).1 = .halted 3 ∧
      (usesPortCells.plain.run 3 0).2.1.regs.get 2 = 9 ∧
      (usesPortCells.plain.run 3 0).2.1.bus.get 510 = .ok 7 ∧
      (usesPortCells.run 3 0).2.1.bus.console = { input := [5] } := by
  have steps : ∀ k < 3, (usesPortCells.after k).AvoidsConsole := by decide
  have started : ∀ k < 3, ((usesPortCells.startAt 0).after k).AvoidsConsole := by decide
  have run : (usesPortCells.startAt 0).RunAvoidsConsole 3 :=
    ⟨fun k inside _ => started k inside, fun _ => by decide⟩
  obtain ⟨after_steps, after_run, -⟩ := plain_of_avoidsConsole usesPortCells
  obtain ⟨same, console⟩ := after_run 3 0 run
  rw [same]
  exact ⟨steps, (after_steps 3 steps).1, run, by decide, by decide +kernel, by decide +kernel,
    console⟩

end Cpu

end DuckMachine
