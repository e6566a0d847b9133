import DuckMachine.Command.Perform

/-
  The command line on a computer.

  A command is performed on what was read before: the file that it names, two environment variables
  and, if it uses it, standard input up to its end. What the command leaves behind is written
  afterwards. Only a watch goes on reading its file.
-/

namespace DuckMachine

/-- The result of an action, unless it fails. -/
def attempt {α : Type} (action : IO α) : IO (Option α) :=
  try some <$> action catch _ => pure none

/-- The text of a file. -/
def readText (path : Text) : IO (Option Text) := do
  return (← attempt (IO.FS.readFile path.string)).map String.toList

/-- Whether a file can be opened. -/
def canOpen (path : Text) : IO Bool := do
  return (← attempt (IO.FS.Handle.mk path.string .read)).isSome

/-- The bytes in `earlier` and all that a stream still gives. -/
partial def readBytes (stream : IO.FS.Stream) (earlier : ByteArray) : IO ByteArray := do
  let bytes ← stream.read 65536
  if bytes.isEmpty then return earlier else readBytes stream (earlier ++ bytes)

/-- What this computer offers to a command, as if every file could be written. -/
def gather (command : Command) : IO Host := do
  let (text, present) ← match command.file? with
    | some path => pure (← readText path, ← canOpen path)
    | none => pure (none, false)
  let input ← if command.readsInput then readBytes (← IO.getStdin) .empty else pure .empty
  let limit ← IO.getEnv "DUCK_ERROR_LIMIT"
  let trace ← IO.getEnv "DUCK_TRACE"
  let settings := [("DUCK_ERROR_LIMIT", limit), ("DUCK_TRACE", trace)]
  return {
    readFile := fun _ => text
    present := fun _ => present
    writable := fun _ => true
    input := input.toList
    environment := fun name => (settings.lookup name).join.map String.toList }

/-- The outcome of a command, however many instructions it takes. -/
partial def await (command : Command) (host : Host) (fuel : Nat) : IO Outcome :=
  match command.perform fuel host with
  | some outcome => pure outcome
  | none => await command host (2 * fuel)

/-- Saves what an outcome asks to be saved. If that fails, the outcome is that of a host on which
    nothing can be written. -/
def save (command : Command) (host : Host) (outcome : Outcome) : IO Outcome := do
  match outcome.saved with
  | none => return outcome
  | some (path, text) =>
    match ← attempt (IO.FS.writeFile path.string text.string) with
    | some () => return outcome
    | none => await command { host with writable := fun _ => false } 1

/-- Shows an outcome and gives its exit status. -/
def present (outcome : Outcome) : IO UInt32 := do
  (← IO.getStdout).putStr outcome.stdout.string
  (← IO.getStderr).putStr (outcome.stderr .full).string
  return outcome.exit.toUInt32

/-- Performs a command that ends. -/
def performHere (command : Command) : IO UInt32 := do
  let host ← gather command
  present (← save command host (← await command host 1000000))

/-- Checks a source whenever its text is another than the one seen last, until it cannot be
    read. -/
partial def watchFile (file : Text) (seen : Option Text) : IO UInt32 := do
  match ← readText file with
  | none => present (.failed (.unreadable file))
  | some text =>
    if seen ≠ some text then
      let _ ← performHere (.check file none)
    IO.sleep 500
    watchFile file (some text)

/-- Performs the command that arguments ask for. -/
def performArgumentsHere (arguments : List Text) : IO UInt32 := do
  match Command.ofArguments arguments with
  | .error stop => present stop.outcome
  | .ok (.watch file) =>
    if ← canOpen file then watchFile file none else performHere (.watch file)
  | .ok command => performHere command

end DuckMachine

/-- The command line. -/
def main (arguments : List String) : IO UInt32 :=
  DuckMachine.performArgumentsHere (arguments.map String.toList)
