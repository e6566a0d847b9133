import DuckMachine.Command.Basic
import DuckMachine.Command.Notice
import DuckMachine.Machine.Terminal
import DuckMachine.Machine.Run
import DuckMachine.Machine.Trace

/-
  Sessions: a program run at the terminal.

  Before an instruction takes effect a session may ask for the enter key, and then show the
  instruction. A question takes one line from the same input that the program reads its numbers
  from; once a line cannot be read no more questions are asked.
-/

namespace DuckMachine.Session

/-- What a session has said and whether it still asks for the enter key. -/
structure Progress where
  stepping : Bool
  /-- The number of instructions so far. -/
  count : Nat := 0
  notices : Array Notice := #[]

/-- A notice that the questions end, and why. -/
def steppingStopped (fault : MemoryFault) : Notice :=
  .status "Stepping" s!"stopped: {fault.message}".toList

/-- A question before an instruction, if questions are still asked. -/
def ask (bus : Mapped Terminal) (p : Progress) : Mapped Terminal × Progress :=
  if p.stepping then
    let asked := p.notices.push (.question p.count)
    match bus.console.readLine with
    | (.ok _, console) => ({ bus with console }, { p with notices := asked })
    | (.error fault, console) =>
      ({ bus with console },
        { p with
          stepping := false
          notices := (asked.push (.plain ['\n'])).push (steppingStopped fault) })
  else (bus, p)

/-- What is done before an instruction takes effect; it is shown if there is a style for it. -/
def observe (style : Option TraceStyle) (event : Event) :
    Mapped Terminal × Progress → Mapped Terminal × Progress
  | (bus, p) =>
    let (bus, p) := ask bus p
    let p := { p with count := p.count + 1 }
    match style with
    | some style => (bus, { p with notices := p.notices.push (.plain (style.event event)) })
    | none => (bus, p)

/-- The table of the registers after a run, if there is a style for it. -/
def dump (style : Option TraceStyle) (c : Cpu (Mapped Terminal)) : List Notice :=
  match style with
  | some style => [.plain (style.registers c.regs c.condition)]
  | none => []

/-- What a run to its end leaves behind; nothing if it has not ended after `fuel` instructions. -/
def outcome (file : Text) (style : Option TraceStyle) :
    Ending × Cpu (Mapped Terminal) × Progress → Option Outcome
  | (.cutShort, _, _) => none
  | (.halted steps, c, p) =>
    some
      { stdout := c.bus.console.text
        notices := p.notices.toList ++ dump style c
          ++ [.status "Halted" s!"after {steps} steps".toList, .file "Completed" file] }
  | (.fault e, c, p) =>
    some
      { exit := 1
        stdout := c.bus.console.text
        notices := p.notices.toList ++ dump style c ++ [.failure (.reported e.report)] }

/-- A run of the program in `memory`, which came from `file`, for at most `fuel` instructions. -/
def run (fuel : Nat) (file : Text) (input : List UInt8) (trace : Bool) (options : RunOptions)
    (memory : Memory) : Option Outcome :=
  let style := if trace then some { minimal := options.minimal } else none
  let cpu : Cpu (Mapped Terminal) := { bus := { memory, console := { input } } }
  outcome file style
    (cpu.runObserved fuel options.start (observe style) { stepping := options.step })

end DuckMachine.Session
