import DuckMachine.Proofs.Command.Beginning
import DuckMachine.Proofs.Machine.Observer
import DuckMachine.Proofs.Machine.Terminal

/-
  Observing a run changes nothing but what is said about it.

  The observer of a session asks questions and shows instructions. What it shows goes into notices
  only: as far as the machine and its terminal are concerned it is an observer that pauses
  (`pause`), and every style of a trace leads to the same run (`runObserved_pause`). An outcome
  without the notices of observation is therefore the same under all of them (`essence_trace`).
-/

namespace DuckMachine

/-- Whether a notice belongs to the observation of a run: a question, a line of a trace, or the end
    of the questions. -/
def Notice.observes : Notice → Bool
  | question _ => true
  | plain _ => true
  | status verb _ => verb == "Stepping"
  | _ => false

namespace Outcome

/-- An outcome without the notices that belong to observation. -/
def essence (o : Outcome) : Outcome :=
  { o with notices := o.notices.filter fun notice => !notice.observes }

theorem essence_after (o : Outcome) (notices : List Notice) :
    (o.after notices).essence =
      o.essence.after (notices.filter fun notice => !notice.observes) := by
  simp only [essence, after, List.filter_append]

end Outcome

namespace Session

/-! ## The observer -/

/-- What the observer of a session does to the terminal: it takes a line, until there is none. -/
def pause (_ : Event) : Mapped Terminal × Bool → Mapped Terminal × Bool
  | (bus, false) => (bus, false)
  | (bus, true) =>
    match bus.console.readLine with
    | (.ok _, console) => ({ bus with console }, true)
    | (.error _, console) => ({ bus with console }, false)

theorem pause_eq (style : Option TraceStyle) (event : Event) (bus : Mapped Terminal)
    (p : Progress) :
    pause event (bus, p.stepping) =
      ((observe style event (bus, p)).1, (observe style event (bus, p)).2.stepping) := by
  have asked : pause event (bus, p.stepping) = ((ask bus p).1, (ask bus p).2.stepping) := by
    obtain ⟨stepping, count, notices⟩ := p
    cases stepping with
    | false => rfl
    | true =>
      simp only [pause, ask, if_true]
      rcases bus.console.readLine with ⟨fault | line, console⟩ <;> rfl
  rw [asked]
  cases style <;> rfl

theorem observe_fst (style : Option TraceStyle) (event : Event) (bus : Mapped Terminal)
    (p : Progress) : (observe style event (bus, p)).1 = (ask bus p).1 := by
  cases style <;> rfl

/-- All that an observer does to the terminal is to read. -/
theorem observe_bus (style : Option TraceStyle) (event : Event) (bus : Mapped Terminal)
    (p : Progress) :
    (observe style event (bus, p)).1.memory = bus.memory ∧
      (observe style event (bus, p)).1.console.output = bus.console.output ∧
      (bus.console.input = [] → (observe style event (bus, p)).1.console.input = []) := by
  have asked : (ask bus p).1 = bus ∨
      (ask bus p).1 = { bus with console := bus.console.readLine.2 } := by
    unfold ask
    split
    · rcases bus.console.readLine with ⟨fault | line, console⟩
      · exact .inr rfl
      · exact .inr rfl
    · exact .inl rfl
  rw [observe_fst]
  rcases asked with same | read
  · rw [same]
    exact ⟨rfl, rfl, id⟩
  · rw [read]
    by_cases empty : bus.console.input = []
    · rw [Terminal.readLine_of_nil empty]
      exact ⟨rfl, rfl, id⟩
    · rw [Terminal.readLine_of_ne_nil empty]
      exact ⟨rfl, rfl, fun ended => absurd ended empty⟩

/-- All that an observer says belongs to observation. -/
theorem observe_observes {style : Option TraceStyle} {event : Event} {bus : Mapped Terminal}
    {p : Progress} (h : p.notices.all Notice.observes = true) :
    (observe style event (bus, p)).2.notices.all Notice.observes = true := by
  have asked : (ask bus p).2.notices.all Notice.observes = true := by
    unfold ask
    split
    · rcases bus.console.readLine with ⟨fault | line, console⟩
      · simp only [steppingStopped, Array.all_push, h]
        rfl
      · simp only [Array.all_push, h]
        rfl
    · exact h
  cases style with
  | none => exact asked
  | some style =>
    simp only [observe, Array.all_push, asked]
    rfl

/-! ## Runs -/

/-- Every style of a trace leads to the same run. -/
theorem runObserved_pause (c : Cpu (Mapped Terminal)) (fuel : Nat) (start : Word)
    (style : Option TraceStyle) (p : Progress) :
    c.runObserved fuel start pause p.stepping =
      ((c.runObserved fuel start (observe style) p).1,
        (c.runObserved fuel start (observe style) p).2.1,
        (c.runObserved fuel start (observe style) p).2.2.stepping) :=
  Cpu.runObserved_mapSeen (observe style) pause (pause_eq style) c fuel start p

/-- Without pauses the machine is left alone. -/
theorem runObserved_pause_false (c : Cpu (Mapped Terminal)) (fuel : Nat) (start : Word) :
    c.runObserved fuel start pause false =
      ((c.run fuel start).1, (c.run fuel start).2.1, false) :=
  Cpu.runObserved_mapSeen (g := fun _ => false)
    (Cpu.watching fun event (events : Array Event) => events.push event) pause (fun _ _ _ => rfl) c
    fuel start #[]

theorem runObserved_observes (c : Cpu (Mapped Terminal)) (fuel : Nat) (start : Word)
    (style : Option TraceStyle) {p : Progress} (h : p.notices.all Notice.observes = true) :
    (c.runObserved fuel start (observe style) p).2.2.notices.all Notice.observes = true := by
  refine Cpu.loop_keeps
    (J := fun (_ : Mapped Terminal) (p : Progress) => p.notices.all Notice.observes = true)
    (fun p => ⟨fun _ _ h => h, fun _ _ _ h => h⟩) ?_ fuel 0 h
  intro event b fetched p h _
  exact observe_observes h

/-- What a run leaves behind apart from observation, given how it ended and what the program has
    written. -/
def verdict (file : Text) : Ending → Text → Option Outcome
  | .cutShort, _ => none
  | .halted steps, stdout =>
    some
      { stdout
        notices := [.status "Halted" s!"after {steps} steps".toList, .file "Completed" file] }
  | .fault e, stdout =>
    some { exit := 1, stdout, notices := [.failure (.reported e.report)] }

theorem essence_outcome (file : Text) (style : Option TraceStyle)
    {r : Ending × Cpu (Mapped Terminal) × Progress}
    (h : r.2.2.notices.all Notice.observes = true) :
    (outcome file style r).map Outcome.essence = verdict file r.1 r.2.1.bus.console.text := by
  obtain ⟨ending, c, p⟩ := r
  have silent : p.notices.toList.filter (fun notice => !notice.observes) = [] := by
    rw [← Array.all_toList, List.all_eq_true] at h
    simpa using h
  have dumped : (dump style c).filter (fun notice => !notice.observes) = [] := by
    cases style <;> rfl
  cases ending with
  | cutShort => rfl
  | halted steps =>
    simp only [outcome, Option.map_some, Outcome.essence, List.filter_append, silent, dumped]
    rfl
  | fault e =>
    simp only [outcome, Option.map_some, Outcome.essence, List.filter_append, silent, dumped]
    rfl

/-- The machine at the beginning of a session. -/
def machine (memory : Memory) (input : List UInt8) : Cpu (Mapped Terminal) :=
  { bus := { memory, console := { input } } }

/-- The style in which a session shows its instructions, if it does. -/
def style? (trace : Bool) (options : RunOptions) : Option TraceStyle :=
  if trace then some { minimal := options.minimal } else none

theorem run_eq (fuel : Nat) (file : Text) (input : List UInt8) (trace : Bool)
    (options : RunOptions) (memory : Memory) :
    run fuel file input trace options memory =
      outcome file (style? trace options)
        ((machine memory input).runObserved fuel options.start (observe (style? trace options))
          { stepping := options.step }) :=
  rfl

/-- What a run with pauses comes to, apart from observation. -/
def paused (fuel : Nat) (file : Text) (input : List UInt8) (start : Word) (step : Bool)
    (memory : Memory) : Option Outcome :=
  let r := (machine memory input).runObserved fuel start pause step
  verdict file r.1 r.2.1.bus.console.text

theorem paused_false (fuel : Nat) (file : Text) (input : List UInt8) (start : Word)
    (memory : Memory) :
    paused fuel file input start false memory =
      verdict file ((machine memory input).run fuel start).1
        ((machine memory input).run fuel start).2.1.bus.console.text := by
  rw [paused, runObserved_pause_false]

theorem paused_observe (fuel : Nat) (file : Text) (input : List UInt8) (start : Word)
    (memory : Memory) (style : Option TraceStyle) (p : Progress) :
    paused fuel file input start p.stepping memory =
      verdict file ((machine memory input).runObserved fuel start (observe style) p).1
        ((machine memory input).runObserved fuel start
          (observe style) p).2.1.bus.console.text := by
  rw [paused, runObserved_pause]

/-- Apart from observation a session is a run with pauses. -/
theorem essence_run (fuel : Nat) (file : Text) (input : List UInt8) (trace : Bool)
    (options : RunOptions) (memory : Memory) :
    (run fuel file input trace options memory).map Outcome.essence =
      paused fuel file input options.start options.step memory := by
  let p : Progress := { stepping := options.step }
  have nothing : p.notices.all Notice.observes = true := by
    simp [p]
  have said := runObserved_observes (machine memory input) fuel options.start
    (style? trace options) nothing
  have same := paused_observe fuel file input options.start memory (style? trace options) p
  rw [run_eq, essence_outcome file _ said]
  exact same.symm

end Session

namespace Command

/-- Apart from observation a run depends on its file, its error limit, its start, its input and
    whether it pauses. -/
theorem essence_perform (fuel : Nat) (host : Host) (file : Text) (options : RunOptions) :
    (perform fuel host (.run file options)).map Outcome.essence =
      match begins host (effectiveLimit host options.errorLimit) file with
      | .error o => some o.essence
      | .ok (notices, memory) =>
        (Session.paused fuel file host.input options.start options.step memory).map
          (Outcome.after (notices.filter fun notice => !notice.observes)) := by
  rcases begun : begins host (effectiveLimit host options.errorLimit) file with
    o | ⟨notices, memory⟩
  · rw [perform_run_of_error fuel host file options begun]
    rfl
  · dsimp only
    rw [perform_run_of_ok fuel host file options begun, ← Session.essence_run _ _ _ _ options,
      Option.map_map, Option.map_map]
    congr 1
    funext o
    exact o.essence_after notices

/-- Traces make no difference to a run, whether an option or the environment asks for them. -/
theorem essence_trace (fuel : Nat) (host : Host) (file : Text) (options : RunOptions)
    (trace minimal : Bool) {environment : String → Option Text}
    (same : environment "DUCK_ERROR_LIMIT" = host.environment "DUCK_ERROR_LIMIT") :
    (perform fuel { host with environment } (.run file { options with trace, minimal })).map
        Outcome.essence =
      (perform fuel host (.run file options)).map Outcome.essence := by
  have limit : effectiveLimit { host with environment } options.errorLimit =
      effectiveLimit host options.errorLimit := by
    simp only [effectiveLimit, same]
  rw [essence_perform, essence_perform]
  dsimp only
  rw [limit]
  rfl

end Command

end DuckMachine
