import DuckMachine.Proofs.Asm.ObjectFile
import DuckMachine.Proofs.Asm.Reference
import DuckMachine.Proofs.Command.Beginning

/-
  Running a source and running its object file.

  What a run leaves behind depends on the file only in the notices at its beginning and end that
  name it (`runObject_of_load`). An object file loads to the words of its source, so both runs leave
  behind what these words do when they are run (`run_object_file`).
-/

namespace DuckMachine

namespace Outcome

/-- An outcome with the notice that names the file of a run which has come to a good end. -/
def completed (file : Text) (o : Outcome) : Outcome :=
  if o.exit = 0 then { o with notices := o.notices ++ [.file "Completed" file] } else o

/-- An outcome with the notices that name the file of a run, before and after the others. -/
def ofFile (file : Text) (o : Outcome) : Outcome := (o.completed file).after [.file "Loading" file]

theorem after_nil (o : Outcome) : o.after [] = o := rfl

theorem completed_after (file : Text) (notices : List Notice) (o : Outcome) :
    (o.after notices).completed file = (o.completed file).after notices := by
  unfold completed after
  split <;> simp

end Outcome

namespace Session

/-- What a run to its end leaves behind, apart from the name of its file. -/
def ended (style : Option TraceStyle) :
    Ending × Cpu (Mapped Terminal) × Progress → Option Outcome
  | (.cutShort, _, _) => none
  | (.halted steps, c, p) =>
    some
      { stdout := c.bus.console.text
        notices := p.notices.toList ++ dump style c
          ++ [.status "Halted" s!"after {steps} steps".toList] }
  | (.fault e, c, p) =>
    some
      { exit := 1
        stdout := c.bus.console.text
        notices := p.notices.toList ++ dump style c ++ [.failure (.reported e.report)] }

theorem outcome_eq (file : Text) (style : Option TraceStyle)
    (r : Ending × Cpu (Mapped Terminal) × Progress) :
    outcome file style r = (ended style r).map (Outcome.completed file) := by
  obtain ⟨ending, c, p⟩ := r
  cases ending with
  | halted steps => simp [outcome, ended, Outcome.completed]
  | fault e => simp [outcome, ended, Outcome.completed]
  | cutShort => rfl

end Session

namespace Command

/-- What words leave behind when they are run, apart from the name of their file. -/
def runWords (fuel : Nat) (input : List UInt8) (settings : Settings) (options : RunOptions)
    (words : List Word) : Option Outcome :=
  match Memory.ofProgram words with
  | .error fault => some (.failed (.tooLarge fault))
  | .ok memory =>
    let style := if settings.trace then some { minimal := options.minimal } else none
    let cpu : Cpu (Mapped Terminal) := { bus := { memory, console := { input } } }
    (Session.ended style (cpu.runObserved fuel options.start (Session.observe style)
      { stepping := options.step })).map
        (Outcome.after [.status "Running" "loaded program".toList])

/-- Lines that load are run as their words are, whichever file and text they come from. -/
theorem runObject_of_load {lines : List Text} {words : List Word}
    (h : Object.load lines = .ok words) (fuel : Nat) (host : Host) (settings : Settings)
    (file text : Text) (options : RunOptions) :
    runObject fuel host settings file text options lines =
      (runWords fuel host.input settings options words).map (Outcome.completed file) := by
  rw [runObject, h, runWords]
  cases placed : Memory.ofProgram words with
  | error fault =>
    simp only [placed]
    rfl
  | ok memory =>
    simp only [placed, Session.run, Session.outcome_eq, Option.map_map]
    congr 1
    funext o
    exact (Outcome.completed_after file _ o).symm

/-- A source without errors gives its object lines under every limit, and nothing is said. -/
theorem assembled_of_clean {text : Text} (h : Source.Clean text.lines) (limit failure : Nat)
    (name : Text) :
    assembled limit failure name text = (.ok (Source.objectLines text.lines), []) := by
  rw [assembled, assemble_of_clean h]
  rfl

/-- A source without errors is run as the words of its object lines are. -/
theorem performRun_source {host : Host} {file text : Text} {words : List Word}
    (read : host.readFile file = some text) (source : isSource file = true)
    (clean : Source.Clean text.lines)
    (loaded : Object.load (Source.objectLines text.lines) = .ok words) (fuel : Nat)
    (settings : Settings) (options : RunOptions) :
    performRun fuel host settings file options =
      (runWords fuel host.input settings options words).map (Outcome.ofFile file) := by
  rw [performRun, read]
  simp only [source, if_true, assembled_of_clean clean, runObject_of_load loaded, Option.map_map]
  rfl

/-- A file that is no source is run as the words of its lines are. -/
theorem performRun_object {host : Host} {file text : Text} {words : List Word}
    (read : host.readFile file = some text) (object : isSource file = false)
    (loaded : Object.load text.lines = .ok words) (fuel : Nat) (settings : Settings)
    (options : RunOptions) :
    performRun fuel host settings file options =
      (runWords fuel host.input settings options words).map (Outcome.ofFile file) := by
  rw [performRun, read]
  simp only [object, Bool.false_eq_true, if_false, runObject_of_load loaded, Option.map_map]
  rfl

/-- A source without errors is assembled into the text of its object lines. -/
theorem performAssemble_of_clean {host : Host} {file text : Text}
    (read : host.readFile file = some text) (clean : Source.Clean text.lines) (limit : Nat)
    (object : Option Text) :
    performAssemble host limit (some file) object =
      (deliver host object (Source.objectLines text.lines)).after [.file "Assembling" file] := by
  rw [performAssemble, read]
  simp only [assembleText, assembled_of_clean clean, Outcome.after_nil]

/-! ## Both ways to run a program -/

/-- The object lines of a source, each with a line feed, make the text of an object file. It splits
    into the lines that were written, if there are any, and loads to the same words in any case.
    Assembling the source writes this text, and running the file leaves behind what running the
    source does: what the words leave behind, with the name of the file in the first notice and, if
    the run halts, in the last. -/
theorem run_object_file {text : Text} {limit : Nat} {lines : List Text}
    (assembled : (DuckMachine.assemble text { limit }).1 = .ok (some lines)) :
    ∃ (written : Text) (words : List Word), written = List.intercalate ['\n'] lines ++ ['\n'] ∧
      Object.load lines = .ok words ∧ Object.load written.lines = .ok words ∧
      (lines ≠ [] → written.lines = lines) ∧
      ∀ (host : Host) (source : Text), host.readFile source = some text →
        (∀ (fuel : Nat) (errorLimit : Option Nat),
          perform fuel host (.assemble (some source) none errorLimit) =
            some { stdout := written, notices := [.file "Assembling" source] }) ∧
        ∀ object : Text,
          (host.writable object = true → ∀ (fuel : Nat) (errorLimit : Option Nat),
            perform fuel host (.assemble (some source) (some object) errorLimit) =
              some
                { notices := [.file "Assembling" source,
                    .status "Finished" "object code".toList, .file "Saved" object]
                  saved := some (object, written) }) ∧
          (isSource source = true → isSource object = false → ∀ host' : Host,
            host'.readFile object = some written →
            host'.environment = host.environment → host'.input = host.input →
            ∀ (fuel : Nat) (options : RunOptions),
              perform fuel host (.run source options) =
                  (runWords fuel host.input (runSettings host options) options words).map
                    (Outcome.ofFile source) ∧
                perform fuel host' (.run object options) =
                  (runWords fuel host.input (runSettings host options) options words).map
                    (Outcome.ofFile object)) := by
  obtain ⟨clean, rfl⟩ := clean_of_assemble assembled
  obtain ⟨-, words, loaded, -⟩ := denoted_of_assemble assembled
  have readable := isLine_of_assemble assembled
  have reloaded : Object.load (Object.fileText (Source.objectLines text.lines)).lines =
      .ok words := (Object.load_lines_fileText readable).trans loaded
  refine ⟨Object.fileText (Source.objectLines text.lines), words, rfl, loaded, reloaded,
    fun nonempty => Object.lines_fileText nonempty readable, ?_⟩
  intro host source read
  refine ⟨?_, ?_⟩
  · intro fuel errorLimit
    exact congrArg some (performAssemble_of_clean read clean _ none)
  · intro object
    refine ⟨?_, ?_⟩
    · intro writable fuel errorLimit
      refine congrArg some ((performAssemble_of_clean read clean _ (some object)).trans ?_)
      simp only [deliver, if_pos writable]
      rfl
    · intro is_source no_source host' read' environment input fuel options
      refine ⟨performRun_source read is_source clean loaded fuel _ options, ?_⟩
      have settings : runSettings host' options = runSettings host options := by
        rw [runSettings, environment, runSettings]
      rw [perform_run, settings, ← input]
      exact performRun_object read' no_source reloaded fuel _ options

/-- A host with the source that passes a number on, and its object file. -/
def passOnHost : Host where
  readFile path :=
    if path = "pass.asm".toList then some passOn
    else if path = "pass.o".toList then some (List.intercalate ['\n'] passOnObject ++ ['\n'])
    else none
  present _ := true
  writable _ := true
  input := []
  environment _ := none

/-- What the run of this program leaves behind, without the name of its file. -/
def passedOn : Outcome where
  stdout := "Quack!: 7\n".toList
  notices :=
    [.status "Running" "loaded program".toList, .status "Halted" "after 6 steps".toList]

theorem run_object_file_passOn :
    Text.lines (List.intercalate ['\n'] passOnObject ++ ['\n']) = passOnObject ∧
      (∃ o, perform 0 passOnHost (.assemble (some "pass.asm".toList) (some "pass.o".toList) none) =
          some o ∧
        o.saved =
          some ("pass.o".toList, List.intercalate ['\n'] passOnObject ++ ['\n'])) ∧
      perform 6 passOnHost (.run "pass.asm".toList {}) =
        some (passedOn.ofFile "pass.asm".toList) ∧
      perform 6 passOnHost (.run "pass.o".toList {}) =
        some (passedOn.ofFile "pass.o".toList) := by
  obtain ⟨_, words, rfl, loaded, -, same, runs⟩ := run_object_file assemble_passOn
  obtain ⟨-, files⟩ := runs passOnHost "pass.asm".toList rfl
  obtain ⟨saved, both⟩ := files "pass.o".toList
  obtain ⟨source, object⟩ :=
    both (by decide) (by decide) passOnHost rfl rfl rfl 6 {}
  obtain rfl : passOnWords = words := Except.ok.inj (load_passOnObject.symm.trans loaded)
  have ended : runWords 6 passOnHost.input (runSettings passOnHost {}) {} passOnWords =
      some passedOn := by decide
  rw [ended] at source object
  exact ⟨same (by decide), ⟨_, saved rfl 0 none, rfl⟩, source, object⟩

end Command

end DuckMachine
