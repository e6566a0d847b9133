import DuckMachine.Machine.Cpu

/-
  Runs: steps until the processor halts.

  A program may run for ever, so a run is given the number of instructions that it may execute at
  most. When one more is fetched and decoded the run is cut short, and says so. An observer sees
  every instruction between its fetch and its effect; it may also act on the bus, as an operator
  at the console does.
-/

namespace DuckMachine

/-- How a run came to its end. -/
inductive Ending where
  | halted (steps : Nat)
  | fault (error : RunError)
  | cutShort
  deriving DecidableEq, Repr

namespace Cpu

variable {β : Type} [Bus β] {σ : Type}

/-- Steps until the processor halts, at most `fuel` of them, after `steps` earlier ones. -/
def loop (observe : Event → β × σ → β × σ) : (fuel steps : Nat) → Cpu β → σ → Ending × Cpu β × σ
  | fuel, steps, c, seen =>
    match c.fetch with
    | (.error e, c) => (.fault e, c, seen)
    | (.ok event, c) =>
      match fuel with
      | 0 => (.cutShort, c, seen)
      | fuel + 1 =>
        let (bus, seen) := observe event (c.bus, seen)
        match { c with bus }.execute event with
        | (.error e, c) => (.fault e, c, seen)
        | (.ok (), c) =>
          if c.halted then (.halted (steps + 1), c, seen)
          else loop observe fuel (steps + 1) c seen

/-- The processor made ready to run from an address. -/
def startAt (c : Cpu β) (start : Word) : Cpu β :=
  { c with halted := false, regs := c.regs.setPc start }

/-- A run from an address under an observer. -/
def runObserved (c : Cpu β) (fuel : Nat) (start : Word) (observe : Event → β × σ → β × σ)
    (seen : σ) : Ending × Cpu β × σ :=
  loop observe fuel 0 (c.startAt start) seen

/-- A run from an address, with its events in order. -/
def run (c : Cpu β) (fuel : Nat) (start : Word) : Ending × Cpu β × Array Event :=
  c.runObserved fuel start (fun event (bus, events) => (bus, events.push event)) #[]

end Cpu

end DuckMachine
