import DuckMachine.Proofs.Machine.Observer

/-
  Transcripts: what a bus is asked for and what it answers.

  A transcript is a list of accesses that lead from one bus to another. A bus that writes its own
  transcript (`Recorded`) answers as the bus does whose transcript it writes. A processor connected
  to it therefore goes the same way (`recorded_after`, `recorded_run`), and afterwards there is the
  list of all that it has done with its bus (`transcript_after`, `transcript_run`). A step adds the
  accesses that are known from the program counter and the instruction (`accesses_step`).
-/

namespace DuckMachine

/-- A load or a store, and the answer to it. -/
inductive Access where
  | load (address : Int) (answer : Except MemoryFault Word)
  | store (address : Int) (w : Word) (answer : Except MemoryFault Unit)

namespace Access

/-- The address of a load. -/
def loadAddress? : Access → Option Int
  | load address _ => some address
  | store _ _ _ => none

/-- The address of a store. -/
def storeAddress? : Access → Option Int
  | load _ _ => none
  | store address _ _ => some address

end Access

namespace Bus

variable {β γ : Type} [Bus β] [Bus γ]

/-- Whether a bus gives this answer to an access and is then another. -/
def Answers (b : β) : Access → β → Prop
  | .load address answer, after => Bus.load address b = (answer, after)
  | .store address w answer, after => Bus.store address w b = (answer, after)

/-- Whether accesses, one after the other, lead from one bus to another. -/
inductive Transcript (first : β) : List Access → β → Prop where
  | nil : Transcript first [] first
  | snoc {accesses : List Access} {b after : β} {a : Access} (h : Transcript first accesses b)
      (answers : Answers b a after) : Transcript first (accesses ++ [a]) after

/-- There is a moment between any two accesses. -/
theorem Transcript.split {first now : β} {earlier later : List Access}
    (h : Transcript first (earlier ++ later) now) :
    ∃ b, Transcript first earlier b ∧ Transcript b later now := by
  generalize whole : earlier ++ later = accesses at h
  induction h generalizing later with
  | nil =>
    obtain ⟨rfl, rfl⟩ := List.append_eq_nil_iff.mp whole
    exact ⟨first, .nil, .nil⟩
  | @snoc accesses b after a h answers ih =>
    rcases later.eq_nil_or_concat with rfl | ⟨later, last, rfl⟩
    · rw [List.append_nil] at whole
      rw [whole]
      exact ⟨after, h.snoc answers, .nil⟩
    · rw [List.concat_eq_append, ← List.append_assoc] at whole
      obtain ⟨prior, same⟩ := List.append_inj' whole rfl
      obtain rfl := List.singleton_inj.mp same
      obtain ⟨moment, before, onward⟩ := ih prior
      rw [List.concat_eq_append]
      exact ⟨moment, before, onward.snoc answers⟩

/-- The moments before and after an access. -/
theorem Transcript.split_cons {first now : β} {earlier later : List Access} {a : Access}
    (h : Transcript first (earlier ++ a :: later) now) :
    ∃ b after, Transcript first earlier b ∧ Answers b a after ∧ Transcript after later now := by
  rw [List.append_cons] at h
  obtain ⟨after, h, onward⟩ := h.split
  generalize whole : earlier ++ [a] = accesses at h
  cases h with
  | nil => simp at whole
  | snoc before answers =>
    obtain ⟨rfl, same⟩ := List.append_inj' whole rfl
    obtain rfl := List.singleton_inj.mp same
    exact ⟨_, after, before, answers, onward⟩

end Bus

/-! ## A bus that writes its transcript -/

/-- A bus that keeps the accesses to it. -/
structure Recorded (β : Type) where
  bus : β
  record : List Access := []

namespace Recorded

variable {β : Type} [Bus β]

instance : Bus (Recorded β) where
  load address b :=
    let (answer, bus) := Bus.load address b.bus
    (answer, ⟨bus, b.record ++ [.load address answer]⟩)
  store address w b :=
    let (answer, bus) := Bus.store address w b.bus
    (answer, ⟨bus, b.record ++ [.store address w answer]⟩)

/-- It answers as the bus itself does. -/
theorem carries_bus : Bus.CarriesAll (Recorded.bus : Recorded β → β) where
  load _ _ := rfl
  store _ _ _ := rfl

/-- What was recorded before makes no difference. -/
theorem carries_earlier (earlier : List Access) :
    Bus.CarriesAll fun b : Recorded β => (⟨b.bus, earlier ++ b.record⟩ : Recorded β) where
  load address b := by
    simp only [Bus.load, List.append_assoc]
  store address w b := by
    simp only [Bus.store, List.append_assoc]

/-- The addresses in the record are those that the bus is asked for. -/
theorem carries_logged : Bus.CarriesAll fun b : Recorded β =>
    (⟨b.bus, b.record.filterMap Access.loadAddress?,
      b.record.filterMap Access.storeAddress?⟩ : Logged β) where
  load address b := by
    simp [Bus.load, List.filterMap_append, Access.loadAddress?, Access.storeAddress?]
  store address w b := by
    simp [Bus.store, List.filterMap_append, Access.loadAddress?, Access.storeAddress?]

/-- The record is a transcript. -/
theorem keeps_transcript (first : β) :
    Bus.Keeps fun b : Recorded β => Bus.Transcript first b.record b.bus where
  load _ _ h := h.snoc rfl
  store _ _ _ h := h.snoc rfl

/-- The record only grows. -/
theorem keeps_earlier (earlier : List Access) :
    Bus.Keeps fun b : Recorded β => earlier <+: b.record where
  load _ _ h := h.trans (List.prefix_append _ _)
  store _ _ _ h := h.trans (List.prefix_append _ _)

end Recorded

/-! ## What a processor does with its bus -/

namespace Cpu

variable {β : Type} [Bus β]

/-- The processor connected to a bus that keeps the accesses from here on. -/
def recorded (c : Cpu β) : Cpu (Recorded β) := c.mapBus fun bus => ⟨bus, []⟩

/-- The accesses of a number of steps. -/
def accesses (c : Cpu β) (n : Nat) : List Access := (c.recorded.after n).bus.record

/-- The accesses of a run. -/
def runAccesses (c : Cpu β) (fuel : Nat) (start : Word) : List Access :=
  (c.recorded.run fuel start).2.1.bus.record

/-- The record makes no difference to the steps. -/
theorem recorded_after (c : Cpu β) (n : Nat) :
    (c.recorded.after n).mapBus Recorded.bus = c.after n :=
  (after_mapBus Recorded.carries_bus fun _ _ => within_all _).symm

/-- The record makes no difference to a run. -/
theorem recorded_run (c : Cpu β) (fuel : Nat) (start : Word) :
    ((c.recorded.run fuel start).1, (c.recorded.run fuel start).2.1.mapBus Recorded.bus,
      (c.recorded.run fuel start).2.2) = c.run fuel start :=
  (run_mapBus Recorded.carries_bus (runsWithin_all _ _)).symm

theorem transcript_after (c : Cpu β) (n : Nat) :
    Bus.Transcript c.bus (c.accesses n) (c.after n).bus := by
  rw [← recorded_after c n]
  exact after_keeps (Recorded.keeps_transcript c.bus) .nil n

theorem transcript_run (c : Cpu β) (fuel : Nat) (start : Word) :
    Bus.Transcript c.bus (c.runAccesses fuel start) (c.run fuel start).2.1.bus := by
  have keeps := Recorded.keeps_transcript c.bus
  rw [← recorded_run c fuel start]
  refine loop_keeps (J := fun (b : Recorded β) _ => Bus.Transcript c.bus b.record b.bus)
    (fun _ => keeps) ?_ fuel 0 .nil
  intro event b fetched _ h loaded
  have kept := keeps.load event.pc h
  rwa [loaded] at kept

theorem recorded_after_eq (c : Cpu β) (n : Nat) :
    c.recorded.after n =
      (c.after n).recorded.mapBus fun b : Recorded β => ⟨b.bus, c.accesses n ++ b.record⟩ := by
  rw [← recorded_after c n, accesses]
  simp [recorded, mapBus]

/-- The accesses of a step come after those of the steps before. -/
theorem accesses_succ (c : Cpu β) (n : Nat) :
    c.accesses (n + 1) = c.accesses n ++ (c.after n).accesses 1 := by
  rw [accesses, after_succ, recorded_after_eq,
    step_mapBus (Recorded.carries_earlier _) (within_all _)]
  rfl

theorem accesses_prefix_of_le (c : Cpu β) {m n : Nat} (le : m ≤ n) :
    c.accesses m <+: c.accesses n := by
  induction n, le using Nat.le_induction with
  | base => exact List.prefix_rfl
  | succ n _ ih =>
    rw [accesses_succ]
    exact ih.trans (List.prefix_append _ _)

/-- The accesses of a run are the first ones of the steps that its fuel allows, and of the fetch
    after them. -/
theorem runAccesses_prefix_accesses (c : Cpu β) (fuel : Nat) (start : Word) :
    c.runAccesses fuel start <+: (c.startAt start).accesses (fuel + 1) := by
  have ends := c.recorded.runsTo_run fuel start
  have same : c.recorded.startAt start = (c.startAt start).recorded := rfl
  rw [same] at ends
  unfold runAccesses
  generalize (c.recorded.run fuel start).1 = ending, (c.recorded.run fuel start).2.1 = last,
    (c.recorded.run fuel start).2.2.toList = events at ends
  cases ends with
  | stopped k inside _ _ => exact (c.startAt start).accesses_prefix_of_le (by omega)
  | unfetched _ _ _ => exact List.prefix_rfl
  | cutShort event _ fetched =>
    rw [accesses, after_succ, step_of_fetch (Prod.ext fetched rfl)]
    exact execute_keeps (Recorded.keeps_earlier _) List.prefix_rfl event

/-- A step loads from the program counter first and then makes the access of its instruction. -/
theorem accesses_step (c : Cpu β) :
    (c.accesses 1).filterMap Access.loadAddress? = c.reads ∧
      (c.accesses 1).filterMap Access.storeAddress? = c.writes := by
  have carried := step_mapBus (c := c.recorded) Recorded.carries_logged (within_all _)
  have logged := c.step_logged
  have same : (c.logged [] []).step = _ := carried
  rw [same] at logged
  have buses := congrArg (fun s => s.cpu.bus) logged
  exact ⟨congrArg Logged.reads buses, congrArg Logged.writes buses⟩

end Cpu

end DuckMachine
