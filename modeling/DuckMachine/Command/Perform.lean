import DuckMachine.Asm.Assemble
import DuckMachine.Command.Arguments
import DuckMachine.Command.Banner
import DuckMachine.Command.Host
import DuckMachine.Command.Path
import DuckMachine.Command.Session

/-
  Commands at work.

  A command is a function from what the host offers (files, standard input, environment variables)
  to an outcome. Errors within the limit let `assemble` end without failure; `check` and `run` fail
  on every error; more errors than the limit have an exit status of their own everywhere.
-/

namespace DuckMachine

namespace Command

/-- The exit status when assembly is abandoned after too many errors. -/
def tooManyErrors : Nat := 2

/-- The object lines of the source `text` with this name, or the exit status without them, which is
    `failure` for errors within the limit; and a notice for everything that is wrong. -/
def assembled (limit failure : Nat) (name text : Text) :
    Except Nat (List Text) × List Notice :=
  let (result, d) := DuckMachine.assemble text { limit }
  let reports := d.errors.map fun e => Notice.reported (e.report name text)
  match result with
  | .ok (some lines) => (.ok lines, reports)
  | .ok none =>
    let failed := s!"{d.errors.length} error(s), no object code written"
    (.error failure, reports ++ [.status "Failed" failed.toList])
  | .error exceeded => (.error tooManyErrors, reports ++ [.reported exceeded.report])

/-- What becomes of object lines: they are saved, or written to standard output. -/
def deliver (host : Host) (object : Option Text) (lines : List Text) : Outcome :=
  let text := Object.fileText lines
  match object with
  | none => { stdout := text }
  | some path =>
    if host.writable path then
      { notices := [.status "Finished" "object code".toList, .file "Saved" path]
        saved := some (path, text) }
    else .failed (.unwritable path)

/-- Assembles a source that has been read. -/
def assembleText (host : Host) (limit : Nat) (object : Option Text) (name text : Text) : Outcome :=
  match assembled limit 0 name text with
  | (.ok lines, notices) => (deliver host object lines).after notices
  | (.error exit, notices) => { exit, notices }

/-- Assembles a source. -/
def performAssemble (host : Host) (limit : Nat) (source object : Option Text) : Outcome :=
  match source with
  | some path =>
    Outcome.after [.file "Assembling" path] <|
      match host.readFile path with
      | some text => assembleText host limit object path text
      | none => .failed (.unreadable path)
  | none =>
    match decodeUtf8? host.input with
    | some text => assembleText host limit object "<stdin>".toList text
    | none => .failed .inputNotText

/-- Checks a source. -/
def performCheck (host : Host) (limit : Nat) (file : Text) : Outcome :=
  Outcome.after [.file "Checking" file] <|
    match host.readFile file with
    | some text =>
      match assembled limit 1 file text with
      | (.ok _, notices) =>
        { notices := notices ++ [.status "Success" "no errors found!".toList] }
      | (.error exit, notices) => { exit, notices }
    | none => .failed (.unreadable file)

/-- Whether a file holds a source; every other file holds object code. -/
def isSource (file : Text) : Bool := Path.extension? file = some "asm".toList

/-- Loads object lines and runs them. -/
def runObject (fuel : Nat) (host : Host) (settings : Settings) (file text : Text)
    (options : RunOptions) (lines : List Text) : Option Outcome :=
  match Object.load lines with
  | .error e => some (.failed (.reported (e.report file text)))
  | .ok words =>
    match Memory.ofProgram words with
    | .error fault => some (.failed (.tooLarge fault))
    | .ok memory =>
      (Session.run fuel file host.input settings.trace options memory).map
        (Outcome.after [.status "Running" "loaded program".toList])

/-- Runs a program. -/
def performRun (fuel : Nat) (host : Host) (settings : Settings) (file : Text)
    (options : RunOptions) : Option Outcome :=
  Option.map (Outcome.after [.file "Loading" file]) <|
    match host.readFile file with
    | none => some (.failed (.unreadable file))
    | some text =>
      if isSource file then
        match assembled settings.errorLimit 1 file text with
        | (.ok lines, notices) =>
          (runObject fuel host settings file text options lines).map (Outcome.after notices)
        | (.error exit, notices) => some { exit, notices }
      else runObject fuel host settings file text options text.lines

/-- What a command leaves behind; nothing if it has not ended after `fuel` instructions. A watch
    on a file that is there never ends. -/
def perform (fuel : Nat) (host : Host) (command : Command) : Option Outcome :=
  let settings := Settings.ofEnvironment host.environment
  match command with
  | .banner => some { stdout := Banner.text.toList }
  | .assemble source object limit =>
    some (performAssemble host (settings.withErrorLimit limit).errorLimit source object)
  | .run file options =>
    performRun fuel host ((settings.withErrorLimit options.errorLimit).withTrace options.trace)
      file options
  | .check file limit => some (performCheck host (settings.withErrorLimit limit).errorLimit file)
  | .watch file => if host.present file then none else some (.failed (.missing file))

end Command

/-- What is left behind by arguments that ask for no command. -/
def Interruption.outcome : Interruption → Outcome
  | .misuse => { exit := 2, notices := [.misuse] }
  | .help => { stdout := Banner.help.toList }
  | .version => { stdout := Banner.versionLine.toList }

/-- What is left behind by the command that arguments ask for. -/
def performArguments (fuel : Nat) (host : Host) (arguments : List Text) : Option Outcome :=
  match Command.ofArguments arguments with
  | .ok command => command.perform fuel host
  | .error stop => some stop.outcome

end DuckMachine
