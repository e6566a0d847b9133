import DuckMachine.Proofs.Command.Ledger

/-
  A session with questions as a run without them.

  If the lines that the questions took are left out of the input, the program takes the same lines
  as before and goes the same way (`run_replay`). That holds for the whole run at once and not step
  by step: whether the program will read another line can be seen only when the session is over. The
  map that carries a session over to its replay is therefore given all the lines that the program
  will have taken, and holds wherever the rest of the session leads there (`Leads`).
-/

namespace DuckMachine

open Terminal

namespace Ledger

/-- The session before a replay on lines that the program takes: it finds those that it has not
    taken yet, and no others. -/
def replay (lines : List (List UInt8)) (b : Ledger) : Mapped Terminal :=
  { memory := b.session.memory
    console :=
      { input := (lines.drop b.own.length).flatten
        output := b.session.console.output } }

/-- Whether the program may still come to have taken these lines: it has taken some of them, and all
    of them if the input has ended. -/
structure Leads (lines : List (List UInt8)) (b : Ledger) : Prop where
  own : b.own <+: lines
  ended : b.session.console.input = [] → b.own = lines

theorem leads_own (b : Ledger) : Leads b.own b := ⟨List.prefix_rfl, fun _ => rfl⟩

theorem own_load (address : Int) (b : Ledger) :
    (Bus.load address b).2.own = b.own ++ (lineFor address b.session).toList := by
  have grown : (Bus.load address b).2.entries =
      b.entries ++ [.load address (lineFor address b.session)] := rfl
  rw [own, own, grown, List.filterMap_append]
  cases lineFor address b.session <;> rfl

theorem replay_append (b : Ledger) (rest : List (List UInt8)) :
    replay (b.own ++ rest) b =
      { b.session with console.input := rest.flatten } := by
  rw [replay, List.drop_left]

/-- A load finds the same word whatever comes after the line that is taken for it, unless it is the
    last one. -/
theorem load_cut {address : Int} {m : Mapped Terminal} {rest : List UInt8}
    (last : (Bus.load address m).2.console.input = [] → rest = []) :
    Bus.load address { m with console.input := (lineFor address m).toList.flatten ++ rest } =
      ((Bus.load address m).1, { (Bus.load address m).2 with console.input := rest }) := by
  by_cases input : address = Mapped.inputAddress
  · simp only [Bus.load, Mapped.load, lineFor, if_pos input] at last ⊢
    by_cases empty : m.console.input = []
    · have closed := readWord_of_nil empty
      rw [closed] at last ⊢
      rw [nextLine?_of_nil empty, last empty]
      exact congrArg (fun read : Except MemoryFault Word × Terminal =>
        (read.1, ({ m with console := read.2 } : Mapped Terminal))) (readWord_of_nil rfl)
    · rw [nextLine?_of_ne_nil empty, Option.toList_some, List.flatten_singleton,
        readWord_cut empty last]
  · simp only [Bus.load, Mapped.load, lineFor, if_neg input]
    rfl

theorem store_cut (address : Int) (w : Word) (m : Mapped Terminal) (rest : List UInt8) :
    Bus.store address w { m with console.input := rest } =
      ((Bus.store address w m).1, { (Bus.store address w m).2 with console.input := rest }) := by
  simp only [Bus.store, Mapped.store]
  split
  · rfl
  · cases m.memory.put address w <;> rfl

theorem tracks_replay (lines : List (List UInt8)) : Bus.Tracks (replay lines) (Leads lines) where
  load address {b} h := by
    obtain ⟨⟨rest, rfl⟩, ended⟩ := h
    -- If this was the last line, then no line is left for the replay either.
    have last : (Bus.load address b.session).2.console.input = [] → rest.flatten = [] := by
      intro empty
      rw [List.self_eq_append_right.mp (ended empty)]
      rfl
    refine ⟨⟨?_, ?_⟩, ?_⟩
    · rw [own_load, List.append_assoc]
      exact List.prefix_append _ _
    · -- From an ended input the load takes no line and leaves it ended.
      intro empty
      have shared := linesOf_load address b.session
      rw [empty] at shared
      obtain ⟨unread, left⟩ := List.append_eq_nil_iff.mp shared.symm
      rw [← ended (linesOf_eq_nil_iff.mp left), own_load, unread, List.append_nil]
    · rw [replay_append, own_load, List.append_assoc, replay_append, List.flatten_append,
        load_cut last]
      rfl
  store address w {b} h := by
    obtain ⟨⟨rest, rfl⟩, ended⟩ := h
    refine ⟨⟨List.prefix_append _ _, ?_⟩, ?_⟩
    · intro empty
      exact ended ((input_store address w b.session).trans empty)
    · rw [replay_append, show (Bus.store address w b).2.own = b.own from rfl, replay_append,
        store_cut]
      rfl

/-- The observer leaves alone what a replay looks at. -/
theorem replay_observe (lines : List (List UInt8)) (style : Option TraceStyle) (event : Event)
    (b : Ledger) (seen : Session.Progress × Array Event)
    (h : Leads lines (observe style event (b, seen)).1) :
    Leads lines b ∧ (replay lines b, seen.2.push event) =
      (replay lines (observe style event (b, seen)).1, (observe style event (b, seen)).2.2) := by
  have own : (observe style event (b, seen)).1.own = b.own := by
    rw [Ledger.own, observe, List.filterMap_append]
    exact List.append_nil _
  obtain ⟨memory, output, stays⟩ := Session.observe_bus style event b.session seen.1
  have leads : Leads lines b := by
    refine ⟨?_, fun empty => ?_⟩
    · rw [← own]
      exact h.own
    · rw [← own]
      exact h.ended (stays empty)
  have same : replay lines (observe style event (b, seen)).1 = replay lines b := by
    rw [replay, replay, own]
    exact congrArg₂ Mapped.mk memory (congrArg _ output)
  rw [same]
  exact ⟨leads, rfl⟩

theorem machine_replay (lines : List (List UInt8)) (memory : Memory) (input : List UInt8) :
    (machine memory input).mapBus (replay lines) = Session.machine memory lines.flatten := rfl

/-- A session with questions goes as the run goes on the lines that the program takes in it. -/
theorem run_replay (fuel : Nat) (style : Option TraceStyle) (start : Word) (memory : Memory)
    (input : List UInt8) :
    let r := run fuel style start memory input
    (Session.machine memory r.2.1.bus.own.flatten).run fuel start =
      (r.1, r.2.1.mapBus (replay r.2.1.bus.own), r.2.2.2) := by
  have carried := Cpu.runObserved_map (g := Prod.snd) (tracks_replay _) (observe style)
    (fun event (bus, events) => (bus, events.push event)) (replay_observe _ style)
    (machine memory input) fuel start ({ stepping := true }, #[]) (leads_own _)
  rw [machine_replay] at carried
  dsimp only [run, Cpu.run]
  exact carried

theorem paused_replay (fuel : Nat) (file : Text) (style : Option TraceStyle) (start : Word)
    (memory : Memory) (input : List UInt8) :
    Session.paused fuel file (run fuel style start memory input).2.1.bus.own.flatten start false
        memory =
      Session.paused fuel file input start true memory := by
  have stepped := Session.paused_observe fuel file input start memory style { stepping := true }
  rw [run_session] at stepped
  rw [Session.paused_false, run_replay, stepped]
  generalize run fuel style start memory input = r
  rfl

/-- There are as many answers as instructions. -/
theorem length_answers (b : Ledger) :
    b.answers.length = (b.entries.filterMap Entry.event?).length := by
  rw [answers]
  induction b.entries with
  | nil => rfl
  | cons entry entries ih =>
    cases entry with
    | load address line => exact ih
    | instruction event answer => exact congrArg (· + 1) ih

end Ledger

namespace Command

/-! ## Questions in an outcome -/

theorem questions_append (earlier later : List Notice) :
    questions (earlier ++ later) = questions earlier ++ questions later :=
  List.filterMap_append

theorem questions_assembled (limit failure : Nat) (name text : Text) :
    questions (assembled limit failure name text).2 = [] := by
  have reports (errors : List AsmError) :
      questions (errors.map fun e => .reported (e.report name text)) = [] := by
    simp [questions, Notice.question?]
  simp only [assembled]
  rcases DuckMachine.assemble text { limit } with ⟨exceeded | lines | lines, d⟩
  · exact (questions_append _ _).trans (congrArg (· ++ _) (reports d.errors))
  · exact (questions_append _ _).trans (congrArg (· ++ _) (reports d.errors))
  · exact reports d.errors

theorem questions_of_place {file text : Text} {notices notices' : List Notice}
    {lines : List Text} {memory : Memory}
    (h : place file text notices lines = .ok (notices', memory)) :
    questions notices' = questions notices := by
  unfold place at h
  cases loaded : Object.load lines with
  | error e =>
    rw [loaded] at h
    cases h
  | ok words =>
    rw [loaded] at h
    cases placed : Memory.ofProgram words with
    | error fault =>
      simp only [placed] at h
      cases h
    | ok memory =>
      simp only [placed] at h
      cases h
      exact (questions_append _ _).trans (List.append_nil _)

/-- No questions are asked before the first instruction. -/
theorem questions_of_begins {host : Host} {limit : Nat} {file : Text} {notices : List Notice}
    {memory : Memory} (h : begins host limit file = .ok (notices, memory)) :
    questions notices = [] := by
  unfold begins at h
  cases read : host.readFile file with
  | none =>
    rw [read] at h
    cases h
  | some text =>
    simp only [read] at h
    split at h
    · have silent := questions_assembled limit 1 file text
      rcases made : assembled limit 1 file text with ⟨exit | lines, reports⟩
      · rw [made] at h
        cases h
      · rw [made] at h silent
        exact (questions_of_place h).trans silent
    · exact questions_of_place h

/-- The questions in the outcome of a session are those of its progress. -/
theorem questions_of_outcome {file : Text} {style : Option TraceStyle}
    {r : Ending × Cpu (Mapped Terminal) × Session.Progress} {o : Outcome}
    (h : Session.outcome file style r = some o) :
    questions o.notices = questions r.2.2.notices.toList := by
  obtain ⟨ending, c, p⟩ := r
  have dumped : questions (Session.dump style c) = [] := by
    cases style <;> rfl
  cases ending with
  | cutShort => cases h
  | halted steps =>
    cases h
    rw [questions_append, questions_append, dumped, List.append_nil]
    exact List.append_nil _
  | fault e =>
    cases h
    rw [questions_append, questions_append, dumped, List.append_nil]
    exact List.append_nil _

/-! ## Stepping -/

/-- The style in which a run shows its instructions, if it does. -/
def runStyle? (host : Host) (options : RunOptions) : Option TraceStyle :=
  Session.style? (runSettings host options).trace options

/-- Whether a ledger explains a run with questions: what it leaves behind, which line goes to whom
    and which questions are asked, and what the program would do without them. -/
structure Explains (fuel : Nat) (host : Host) (file : Text) (options : RunOptions)
    (notices : List Notice) (memory : Memory)
    (r : Ending × Cpu Ledger × Session.Progress × Array Event) : Prop where
  /-- The session in the ledger is the one that the command runs. -/
  session : perform fuel host (.run file { options with step := true }) =
    (Session.outcome file (runStyle? host options)
      (r.1, r.2.1.mapBus Ledger.session, r.2.2.1)).map (Outcome.after notices)
  /-- All of the input is accounted for. -/
  balanced : r.2.1.bus.Balanced host.input r.2.2.1 r.2.2.2
  /-- There is an answer for every step that is counted. -/
  steps : ∀ n, r.1 = .halted n → r.2.1.bus.answers.length = n
  /-- The questions that were asked are those that are seen. -/
  asked : ∀ o, perform fuel host (.run file { options with step := true }) = some o →
    questions o.notices = List.range (r.2.1.bus.answers.countP Answer.asked)
  /-- On the lines that the program took it does the same without questions. -/
  replay : (Session.machine memory r.2.1.bus.own.flatten).run fuel options.start =
    (r.1, r.2.1.mapBus (Ledger.replay r.2.1.bus.own), r.2.2.2)
  unchanged : (perform fuel { host with input := r.2.1.bus.own.flatten }
      (.run file { options with step := false })).map Outcome.essence =
    (perform fuel host (.run file { options with step := true })).map Outcome.essence

variable {host : Host} {file : Text} {options : RunOptions} {notices : List Notice}
  {memory : Memory}

/-- Input and questions matter to the session alone. -/
theorem essence_step
    (begun : begins host (effectiveLimit host options.errorLimit) file = .ok (notices, memory))
    (fuel : Nat) (input : List UInt8) (step : Bool) :
    (perform fuel { host with input } (.run file { options with step })).map Outcome.essence =
      (Session.paused fuel file input options.start step memory).map
        (Outcome.after (notices.filter fun notice => !notice.observes)) := by
  have begun' : begins { host with input } (effectiveLimit { host with input } options.errorLimit)
      file = .ok (notices, memory) := begun
  rw [essence_perform]
  simp only [begun']

theorem explains_run
    (begun : begins host (effectiveLimit host options.errorLimit) file = .ok (notices, memory))
    (text : (decodeUtf8? host.input).isSome = true) (fuel : Nat) :
    Explains fuel host file options notices memory
      (Ledger.run fuel (runStyle? host options) options.start memory host.input) := by
  have ran := Ledger.run_session fuel (runStyle? host options) options.start memory host.input
  have balanced := Ledger.balanced_run fuel (runStyle? host options) options.start memory text
  have replay := Ledger.run_replay fuel (runStyle? host options) options.start memory host.input
  have same := Ledger.paused_replay fuel file (runStyle? host options) options.start memory
    host.input
  have performed := perform_run_of_ok fuel host file { options with step := true } begun
  rw [Session.run_eq] at performed
  have session := performed.trans (congrArg (fun r => (Session.outcome file _ r).map _) ran)
  -- From here on only these facts about the run matter, and not how it goes.
  generalize Ledger.run fuel (runStyle? host options) options.start memory host.input = r at *
  refine
    { session := session
      balanced := balanced
      steps := ?steps
      asked := ?asked
      replay := replay
      unchanged := ?unchanged }
  case steps =>
    intro n halted
    have ends := (Session.machine memory r.2.1.bus.own.flatten).runsTo_run fuel options.start
    rw [replay] at ends
    rw [r.2.1.bus.length_answers, balanced.complete]
    exact ends.length_events halted
  case asked =>
    intro o left
    rw [session, Option.map_eq_some_iff] at left
    obtain ⟨o, made, rfl⟩ := left
    have before := questions_of_begins begun
    have within := questions_of_outcome made
    rw [← balanced.numbered, ← within, Outcome.after, questions_append, before, List.nil_append]
  case unchanged =>
    rw [essence_step begun, same]
    exact (essence_step begun fuel host.input true).symm

/-- Observation does not change what a run leaves behind. Traces make no difference to it. Questions
    take their lines in turn with the program, one before every instruction for as long as there are
    lines; on the lines that are left to the program it does the same without them. -/
theorem observation_harmless (fuel : Nat) (host : Host) (file : Text) (options : RunOptions) :
    (∀ (trace minimal : Bool) (environment : String → Option Text),
      environment "DUCK_ERROR_LIMIT" = host.environment "DUCK_ERROR_LIMIT" →
      (perform fuel { host with environment } (.run file { options with trace, minimal })).map
          Outcome.essence =
        (perform fuel host (.run file options)).map Outcome.essence) ∧
    (∀ o, begins host (effectiveLimit host options.errorLimit) file = .error o →
      ∀ input step, perform fuel { host with input } (.run file { options with step }) = some o) ∧
    ∀ notices memory,
      begins host (effectiveLimit host options.errorLimit) file = .ok (notices, memory) →
      (decodeUtf8? host.input).isSome = true →
      Explains fuel host file options notices memory
        (Ledger.run fuel (runStyle? host options) options.start memory host.input) := by
  refine ⟨?traces, ?begun, ?stepped⟩
  case traces =>
    intro trace minimal environment same
    exact essence_trace fuel host file options trace minimal same
  case begun =>
    intro o given_up input step
    exact perform_run_of_error fuel { host with input } file { options with step } given_up
  case stepped =>
    intro notices memory begun text
    exact explains_run begun text fuel

/-- A host with a program that reads a number and writes it. On its input there is the number 5
    between empty lines. -/
def echoHost : Host where
  readFile path :=
    if path = "echo.o".toList then
      some "LOAD r1,r0,r0[510]\nSTORE r1,r0,r0[511]\nHALT r0,r0,r0[0]\n".toList
    else none
  present _ := true
  writable _ := true
  input := [10, 53, 10, 10]
  environment _ := none

/-- The number is left to the program and the questions end with the input. -/
theorem observation_harmless_echoHost :
    (perform 9 echoHost (.run "echo.o".toList { step := true })).map Outcome.stdout =
        some "Quack!: Quack!: 5\n".toList ∧
      (∀ o, perform 9 echoHost (.run "echo.o".toList { step := true }) = some o →
        questions o.notices = [0, 1, 2]) ∧
      (perform 9 { echoHost with input := [53, 10] }
          (.run "echo.o".toList {})).map Outcome.essence =
        (perform 9 echoHost (.run "echo.o".toList { step := true })).map Outcome.essence ∧
      (perform 9
          { echoHost with
            environment := fun name => if name = "DUCK_TRACE" then some ['1'] else none }
          (.run "echo.o".toList { minimal := true })).map Outcome.essence =
        (perform 9 echoHost (.run "echo.o".toList {})).map Outcome.essence := by
  let options : RunOptions := {}
  let ran (memory : Memory) := Ledger.run 9 (runStyle? echoHost options) options.start memory
    echoHost.input
  obtain ⟨traces, -, stepped⟩ := observation_harmless 9 echoHost "echo.o".toList options
  have shares : (begins echoHost 5 "echo.o".toList).toOption.map (fun begun =>
      ((ran begun.2).2.1.bus.own, (ran begun.2).2.1.bus.answers.countP Answer.asked)) =
        some ([[53, 10]], 3) := by
    decide +kernel
  rcases begun : begins echoHost 5 "echo.o".toList with o | ⟨notices, memory⟩
  · rw [begun] at shares
    cases shares
  · simp only [begun, Except.toOption, Option.map_some, Option.some.injEq, Prod.mk.injEq] at shares
    obtain ⟨r, explained, own, asked⟩ : ∃ r,
        Explains 9 echoHost "echo.o".toList options notices memory r ∧
          r.2.1.bus.own = [[53, 10]] ∧ r.2.1.bus.answers.countP Answer.asked = 3 :=
      ⟨ran memory, stepped notices memory begun (by decide +kernel), shares⟩
    have unchanged := explained.unchanged
    rw [own] at unchanged
    refine ⟨by decide +kernel, ?_, unchanged, traces false true _ rfl⟩
    intro o left
    rw [explained.asked o left, asked]
    rfl

end Command

end DuckMachine
