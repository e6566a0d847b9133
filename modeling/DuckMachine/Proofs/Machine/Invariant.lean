import DuckMachine.Proofs.Machine.Run
import DuckMachine.Proofs.Outcome
import Mathlib.Tactic.Common

/-
  What holds of every processor.

  Whatever is done with a processor, only `r0` is wired to zero, and the condition holds every
  outcome until the first instruction has got through the arithmetic unit and exactly one from then
  on (`invariant_of_reachable`). So an instruction with the predicate `ALWAYS` executes, one with
  `NEVER` does not, and of two instructions whose predicates complement each other one does.
-/

namespace DuckMachine

/-! ## Conditions of one outcome -/

namespace Cond

/-- Whether a condition holds exactly one outcome. -/
def IsOutcome (a : Cond) : Prop := a = minus ∨ a = zero ∨ a = positive ∨ a = overflow

/-- Whether two predicates share no outcome and leave none out. -/
def Complementary (a b : Cond) : Prop := a.inter b = never ∧ a.union b = always

theorem IsOutcome.ne_always {a : Cond} (h : a.IsOutcome) : a ≠ always := by
  rcases h with rfl | rfl | rfl | rfl <;> decide

theorem never_intersects (a : Cond) : never.intersects a = false := by
  obtain ⟨bits⟩ := a
  revert bits
  decide

theorem IsOutcome.always_intersects {a : Cond} (h : a.IsOutcome) :
    always.intersects a = true := by
  rcases h with rfl | rfl | rfl | rfl <;> rfl

theorem Complementary.bits_eq {a b : Cond} (h : Complementary a b) : b = ⟨~~~a.bits⟩ := by
  obtain ⟨a⟩ := a
  obtain ⟨b⟩ := b
  obtain ⟨apart, whole⟩ := h
  rw [inter, never, mk.injEq] at apart
  rw [union, always, mk.injEq] at whole
  rw [mk.injEq]
  revert a b
  decide

theorem Complementary.intersects_eq {a b c : Cond} (h : Complementary a b) (one : c.IsOutcome) :
    a.intersects c = !b.intersects c := by
  rw [h.bits_eq]
  clear h
  obtain ⟨a⟩ := a
  revert a
  rcases one with rfl | rfl | rfl | rfl <;> decide

end Cond

theorem Alu.isOutcome_settle (wide : Wide) : (settle wide).2.IsOutcome := by
  unfold settle outcome
  dsimp only
  split
  · split
    · exact .inl rfl
    · split
      · exact .inr (.inl rfl)
      · exact .inr (.inr (.inl rfl))
  · exact .inr (.inr (.inr rfl))

theorem Alu.isOutcome_of_execute {op : Opcode} {left result : Word} {right : Wide}
    {condition : Cond} (h : execute op left right = .ok (result, condition)) :
    condition.IsOutcome := by
  obtain ⟨wide, -, settled⟩ := map_eq_ok_iff.mp h
  have one := isOutcome_settle wide
  rwa [settled] at one

namespace Cpu

variable {β : Type}

/-! ## The invariant -/

/-- What holds of a processor on which an instruction has got through the arithmetic unit or
    not. -/
structure Invariant (c : Cpu β) (settled : Prop) : Prop where
  wired : c.regs.Wired
  fresh : ¬settled → c.condition = Cond.always
  outcome : settled → c.condition.IsOutcome

theorem Invariant.congr {c : Cpu β} {p q : Prop} (h : Invariant c p) (same : p ↔ q) :
    Invariant c q :=
  propext same ▸ h

theorem invariant_new (bus : β) : Invariant ({ bus } : Cpu β) False where
  wired := Registers.wired_initial
  fresh _ := rfl
  outcome := False.elim

theorem Invariant.startAt {c : Cpu β} {settled : Prop} (h : Invariant c settled) (start : Word) :
    Invariant (c.startAt start) settled where
  wired := h.wired.setPc start
  fresh := h.fresh
  outcome := h.outcome

theorem Invariant.always_or_outcome {c : Cpu β} {settled : Prop} (h : Invariant c settled) :
    c.condition = Cond.always ∨ c.condition.IsOutcome := by
  by_cases done : settled
  · exact .inr (h.outcome done)
  · exact .inl (h.fresh done)

theorem Invariant.eq_always_iff {c : Cpu β} {settled : Prop} (h : Invariant c settled) :
    c.condition = Cond.always ↔ ¬settled :=
  ⟨fun always done => (h.outcome done).ne_always always, h.fresh⟩

variable [Bus β]

/-! ## Reachable processors -/

/-- What can be done with a processor from outside. -/
inductive Action where
  | step
  | run (fuel : Nat) (start : Word)
  | put (number : Fin registerCount) (w : Word)
  | setPc (w : Word)

/-- The processor after an action, whatever comes of it. An observer of a run makes no difference
    to the processor. -/
def act (c : Cpu β) : Action → Cpu β
  | .step => c.step.cpu
  | .run fuel start => (c.run fuel start).2.1
  | .put number w => { c with regs := c.regs.put number w }
  | .setPc w => { c with regs := c.regs.setPc w }

/-- Whether the next step gets an instruction through the arithmetic unit. -/
def Settles (c : Cpu β) : Prop :=
  ∃ event bus result condition, c.Computes event bus result condition

/-- Whether an instruction gets through the arithmetic unit in the course of an action. -/
def ActSettles (c : Cpu β) : Action → Prop
  | .step => c.Settles
  | .run fuel start =>
    ∃ k < fuel, (c.startAt start).GoesOn k ∧ ((c.startAt start).after k).Settles
  | .put _ _ => False
  | .setPc _ => False

/-- The processors that actions lead to from a new one on any bus, and whether an instruction has
    got through the arithmetic unit on the way. -/
inductive Reachable : Cpu β → Prop → Prop where
  | new (bus : β) : Reachable { bus } False
  | act {c : Cpu β} {settled : Prop} (h : Reachable c settled) (a : Action) :
      Reachable (c.act a) (settled ∨ c.ActSettles a)

/-! ## One step -/

theorem condition_complete (c : Cpu β) (pc : Int) (i : Instr) (result : Word) :
    (c.complete pc i result).2.condition = c.condition := by
  unfold complete
  cases i.op with
  | load => dsimp only; split <;> rfl
  | store => dsimp only; split <;> rfl
  | _ => rfl

theorem Computes.condition_step {c : Cpu β} {event : Event} {bus : β} {result : Word}
    {condition : Cond} (h : c.Computes event bus result condition) :
    c.step.cpu.condition = condition := by
  rw [h.step_eq]
  exact condition_complete _ _ _ _

/-- Only an instruction that gets through the arithmetic unit sets the condition. -/
theorem condition_step {c : Cpu β} (h : ¬c.Settles) : c.step.cpu.condition = c.condition := by
  rcases stepped : c.step with ⟨event, result, last⟩
  cases stepsTo_iff.mpr stepped with
  | loaded computes _ _ => exact absurd ⟨_, _, _, _, computes⟩ h
  | unloaded computes _ _ => exact absurd ⟨_, _, _, _, computes⟩ h
  | stored computes _ _ => exact absurd ⟨_, _, _, _, computes⟩ h
  | unstored computes _ _ => exact absurd ⟨_, _, _, _, computes⟩ h
  | halted computes _ => exact absurd ⟨_, _, _, _, computes⟩ h
  | written computes _ => exact absurd ⟨_, _, _, _, computes⟩ h
  | _ => rfl

theorem Invariant.step {c : Cpu β} {settled : Prop} (h : Invariant c settled) :
    Invariant c.step.cpu (settled ∨ c.Settles) := by
  refine ⟨wired_step h.wired, ?_, ?_⟩
  · intro unsettled
    rw [not_or] at unsettled
    rw [condition_step unsettled.2, h.fresh unsettled.1]
  · intro done
    by_cases settles : c.Settles
    · obtain ⟨event, bus, result, condition, computes⟩ := settles
      rw [computes.condition_step]
      exact Alu.isOutcome_of_execute computes.compute
    · rw [condition_step settles]
      exact h.outcome (done.resolve_right settles)

/-! ## Runs -/

theorem Invariant.after {c : Cpu β} {settled : Prop} (h : Invariant c settled) (n : Nat) :
    Invariant (c.after n) (settled ∨ ∃ k < n, (c.after k).Settles) := by
  induction n with
  | zero => exact h.congr (by simp)
  | succ n ih =>
    rw [after_succ]
    refine ih.step.congr ?_
    rw [or_assoc, Nat.exists_lt_succ_right]

theorem Invariant.fetched {c fetched : Cpu β} {settled : Prop} (h : Invariant c settled)
    {event : Event} (ok : c.fetch = (.ok event, fetched)) : Invariant fetched settled := by
  obtain ⟨bus, -, rfl⟩ := meets_of_fetch ok
  exact ⟨h.wired, h.fresh, h.outcome⟩

/-- The steps of a run that get an instruction through the arithmetic unit are among those that it
    comes to. -/
theorem settles_before_stop {c : Cpu β} {k fuel : Nat} (before : c.GoesOn k) (inside : k < fuel)
    (stop : ¬(c.after k).step.GoesOn) :
    (∃ j < k + 1, (c.after j).Settles) ↔ ∃ j < fuel, c.GoesOn j ∧ (c.after j).Settles := by
  constructor
  · rintro ⟨j, earlier, settles⟩
    exact ⟨j, by omega, before.mono (by omega), settles⟩
  · rintro ⟨j, -, reached, settles⟩
    refine ⟨j, ?_, settles⟩
    by_contra beyond
    exact stop (reached k (by omega))

theorem settles_goesOn {c : Cpu β} {fuel : Nat} (before : c.GoesOn fuel) :
    (∃ j < fuel, (c.after j).Settles) ↔ ∃ j < fuel, c.GoesOn j ∧ (c.after j).Settles := by
  constructor
  · rintro ⟨j, earlier, settles⟩
    exact ⟨j, earlier, before.mono (Nat.le_of_lt earlier), settles⟩
  · rintro ⟨j, earlier, -, settles⟩
    exact ⟨j, earlier, settles⟩

theorem not_settles_of_fetch_error {c : Cpu β} {e : RunError} (failed : c.fetch.1 = .error e) :
    ¬c.Settles := by
  rintro ⟨event, bus, result, condition, computes⟩
  rw [computes.fetch] at failed
  cases failed

theorem Invariant.runsTo {c last : Cpu β} {settled : Prop} (h : Invariant c settled) {fuel : Nat}
    {ending : Ending} {events : List Event} (ends : c.RunsTo fuel ending last events) :
    Invariant last (settled ∨ ∃ k < fuel, c.GoesOn k ∧ (c.after k).Settles) := by
  cases ends with
  | stopped k inside before stop =>
    exact (h.after (k + 1)).congr (or_congr_right (settles_before_stop before inside stop))
  | unfetched e before failed =>
    refine (h.after (fuel + 1)).congr (or_congr_right ?_)
    rw [Nat.exists_lt_succ_right, or_iff_left (not_settles_of_fetch_error failed)]
    exact settles_goesOn before
  | cutShort event before fetched =>
    have here := (h.after fuel).fetched (Prod.ext fetched rfl)
    exact here.congr (or_congr_right (settles_goesOn before))

/-! ## Every reachable processor -/

theorem Invariant.act {c : Cpu β} {settled : Prop} (h : Invariant c settled) (a : Action) :
    Invariant (c.act a) (settled ∨ c.ActSettles a) := by
  cases a with
  | step => exact h.step
  | run fuel start => exact (h.startAt start).runsTo (c.runsTo_run fuel start)
  | put number w =>
    have same : settled ↔ settled ∨ False := Iff.of_eq (or_false settled).symm
    exact Invariant.congr ⟨h.wired.put number w, h.fresh, h.outcome⟩ same
  | setPc w =>
    have same : settled ↔ settled ∨ False := Iff.of_eq (or_false settled).symm
    exact Invariant.congr ⟨h.wired.setPc w, h.fresh, h.outcome⟩ same

theorem Reachable.invariant {c : Cpu β} {settled : Prop} (h : Reachable c settled) :
    Invariant c settled := by
  induction h with
  | new bus => exact invariant_new bus
  | act _ a ih => exact ih.act a

/-- In every reachable processor `r0` and no other register is wired to zero, and the condition is
    `ALWAYS` as long as no instruction has got through the arithmetic unit and exactly one outcome
    after that. Whatever instruction stands at the program counter then executes if its predicate
    shares an outcome with the condition, which `ALWAYS` does, `NEVER` does not, and of two
    predicates that complement each other one does once an instruction has got through. -/
theorem invariant_of_reachable {c : Cpu β} {settled : Prop} (h : Reachable c settled) :
    (c.regs.register 0 = .ok .zero ∧ c.regs.get 0 = 0 ∧
      ∀ number, 1 ≤ number → number < registerCount →
        ∃ w, c.regs.register number = .ok (.general w)) ∧
    ((c.condition = Cond.always ∨ c.condition.IsOutcome) ∧
      (c.condition = Cond.always ↔ ¬settled)) ∧
    (∀ bus : β, ∀ event ∈ ({ c with bus } : Cpu β).step.event,
      event.executes = event.instr.cond.intersects c.condition) ∧
    Cond.always.intersects c.condition = true ∧ Cond.never.intersects c.condition = false ∧
    (settled → ∀ a b : Cond, a.Complementary b →
      a.intersects c.condition = !b.intersects c.condition) := by
  have inv := h.invariant
  refine ⟨⟨inv.wired.register_zero, inv.wired.get_zero, ?_⟩,
    ⟨inv.always_or_outcome, inv.eq_always_iff⟩, ?_, ?_, Cond.never_intersects _, ?_⟩
  · intro number positive inside
    exact inv.wired.register_general inside (Nat.ne_of_gt positive)
  · intro bus event found
    exact (step_event found).2.2.1
  · rcases inv.always_or_outcome with always | one
    · rw [always]
      rfl
    · exact one.always_intersects
  · intro done a b complementary
    exact complementary.intersects_eq (inv.outcome done)

theorem invariant_of_reachable_haltEverywhere :
    ∃ settled, Reachable ((({ bus := haltEverywhere.bus } : Cpu Memory).act
        (.put 5 7)).act (.run 3 9)) settled ∧
      settled ∧ Cond.zero.intersects ((({ bus := haltEverywhere.bus } : Cpu Memory).act
        (.put 5 7)).act (.run 3 9)).condition = true := by
  have reached := ((Reachable.new haltEverywhere.bus).act (.put 5 7)).act (.run 3 9)
  obtain ⟨-, ⟨-, fresh⟩, -⟩ := invariant_of_reachable reached
  have zero : ((({ bus := haltEverywhere.bus } : Cpu Memory).act
      (.put 5 7)).act (.run 3 9)).condition = Cond.zero := by decide
  refine ⟨_, reached, ?_, by rw [zero]; rfl⟩
  by_contra unsettled
  rw [fresh.mpr unsettled] at zero
  exact absurd zero (by decide)

end Cpu

end DuckMachine
