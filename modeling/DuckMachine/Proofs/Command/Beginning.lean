import DuckMachine.Command.Perform

/-
  How a run begins.

  Before its first instruction a run reads its file, assembles it if it is a source, and loads the
  words into memory. This either ends the command or leaves a memory to run (`begins`), and depends
  on the file and the error limit alone. Everything else that a run does is its session
  (`performRun_eq`).
-/

namespace DuckMachine.Command

/-- What lines of object code give: the outcome of a run that is given up, or the program in memory
    and all notices so far. -/
def place (file text : Text) (notices : List Notice) (lines : List Text) :
    Except Outcome (List Notice × Memory) :=
  match Object.load lines with
  | .error e => .error ((Outcome.failed (.reported (e.report file text))).after notices)
  | .ok words =>
    match Memory.ofProgram words with
    | .error fault => .error ((Outcome.failed (.tooLarge fault)).after notices)
    | .ok memory => .ok (notices ++ [.status "Running" "loaded program".toList], memory)

/-- What a run comes to before its first instruction. -/
def begins (host : Host) (limit : Nat) (file : Text) : Except Outcome (List Notice × Memory) :=
  let loading := Notice.file "Loading" file
  match host.readFile file with
  | none => .error ((Outcome.failed (.unreadable file)).after [loading])
  | some text =>
    if isSource file then
      match assembled limit 1 file text with
      | (.ok lines, notices) => place file text (loading :: notices) lines
      | (.error exit, notices) => .error { exit, notices := loading :: notices }
    else place file text [loading] text.lines

theorem runObject_eq (fuel : Nat) (host : Host) (settings : Settings) (file text : Text)
    (options : RunOptions) (notices : List Notice) (lines : List Text) :
    (runObject fuel host settings file text options lines).map (Outcome.after notices) =
      match place file text notices lines with
      | .error o => some o
      | .ok (notices, memory) =>
        (Session.run fuel file host.input settings.trace options memory).map
          (Outcome.after notices) := by
  rw [runObject, place]
  cases Object.load lines with
  | error e => rfl
  | ok words =>
    dsimp only
    cases Memory.ofProgram words with
    | error fault => rfl
    | ok memory =>
      dsimp only
      rw [Option.map_map]
      congr 1
      funext o
      simp [Outcome.after]

/-- A run is its beginning and its session. -/
theorem performRun_eq (fuel : Nat) (host : Host) (settings : Settings) (file : Text)
    (options : RunOptions) :
    performRun fuel host settings file options =
      match begins host settings.errorLimit file with
      | .error o => some o
      | .ok (notices, memory) =>
        (Session.run fuel file host.input settings.trace options memory).map
          (Outcome.after notices) := by
  rw [performRun, begins]
  cases host.readFile file with
  | none => rfl
  | some text =>
    dsimp only
    split
    · rcases assembled settings.errorLimit 1 file text with ⟨exit | lines, notices⟩
      · rfl
      · dsimp only
        rw [← runObject_eq, Option.map_map]
        rfl
    · exact runObject_eq fuel host settings file text options [.file "Loading" file] text.lines

/-- The limit that a command goes by: that of its option, else that of the environment, else 5. -/
def effectiveLimit (host : Host) (flag : Option Nat) : Nat :=
  match flag, (host.environment "DUCK_ERROR_LIMIT").bind fun text => errorLimit? text.trim with
  | some limit, _ => limit
  | none, some limit => limit
  | none, none => 5

theorem errorLimit_withErrorLimit (host : Host) (flag : Option Nat) :
    ((Settings.ofEnvironment host.environment).withErrorLimit flag).errorLimit =
      effectiveLimit host flag := by
  unfold effectiveLimit Settings.withErrorLimit Settings.ofEnvironment
  cases flag with
  | some limit => rfl
  | none =>
    cases (host.environment "DUCK_ERROR_LIMIT").bind fun text => errorLimit? text.trim <;> rfl

/-- The settings of a run. -/
def runSettings (host : Host) (options : RunOptions) : Settings :=
  ((Settings.ofEnvironment host.environment).withErrorLimit options.errorLimit).withTrace
    options.trace

theorem perform_run (fuel : Nat) (host : Host) (file : Text) (options : RunOptions) :
    perform fuel host (.run file options) =
      performRun fuel host (runSettings host options) file options := rfl

theorem errorLimit_runSettings (host : Host) (options : RunOptions) :
    (runSettings host options).errorLimit = effectiveLimit host options.errorLimit :=
  errorLimit_withErrorLimit host options.errorLimit

variable (fuel : Nat) (host : Host) (file : Text) (options : RunOptions)

/-- A run that is given up before its first instruction does not get as far as its session. -/
theorem perform_run_of_error {o : Outcome}
    (h : begins host (effectiveLimit host options.errorLimit) file = .error o) :
    perform fuel host (.run file options) = some o := by
  rw [perform_run, performRun_eq, errorLimit_runSettings, h]

theorem perform_run_of_ok {notices : List Notice} {memory : Memory}
    (h : begins host (effectiveLimit host options.errorLimit) file = .ok (notices, memory)) :
    perform fuel host (.run file options) =
      (Session.run fuel file host.input (runSettings host options).trace options memory).map
        (Outcome.after notices) := by
  rw [perform_run, performRun_eq, errorLimit_runSettings, h]

end DuckMachine.Command
