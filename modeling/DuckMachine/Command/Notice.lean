import DuckMachine.Report

/-
  Notices: what a command says beside its output.

  A notice can be written in full or in brief. In brief a report is its code alone, so that the
  notices of two runs can be compared line by line.
-/

namespace DuckMachine

/-- Why a command was given up. -/
inductive Failure where
  | reported (report : Report)
  | unreadable (path : Text)
  | unwritable (path : Text)
  | inputNotText
  | tooLarge (fault : MemoryFault)
  | missing (path : Text)
  deriving DecidableEq, Repr

/-- What a command says beside its output. -/
inductive Notice where
  /-- What is being done or has been done. -/
  | status (verb : String) (object : Text)
  /-- A question for the enter key before an instruction. -/
  | question (number : Nat)
  /-- Text as it is: a line of a trace, or the end of an open line. -/
  | plain (text : Text)
  | reported (report : Report)
  | failure (cause : Failure)
  /-- The arguments make no sense. -/
  | misuse
  deriving DecidableEq, Repr

/-- How much is written of a notice. -/
inductive Detail where
  | brief
  | full
  deriving DecidableEq, Repr

namespace Report

/-- Where a mark lies, by the name of the text and the byte. -/
def place (r : Report) (mark : Mark) : String :=
  match r.source with
  | some name => s!"  at {name.string}, byte {mark.span.start}: {mark.remark}\n"
  | none => s!"  at byte {mark.span.start}: {mark.remark}\n"

/-- A report as text. -/
def text (r : Report) : Detail → Text
  | .brief => r.code.toList ++ ['\n']
  | .full =>
    s!"{r.code}: {r.message}\n".toList ++ ((r.marks.map fun mark => (r.place mark).toList).flatten)
      ++ s!"  help: {r.help}\n".toList

end Report

namespace Failure

/-- What is said about a failure that is not a report. -/
def message : Failure → String
  | .reported report => report.message
  | .unreadable path => s!"`{path.string}` cannot be read as text"
  | .unwritable path => s!"`{path.string}` cannot be written"
  | .inputNotText => "standard input is not text"
  | .tooLarge fault => fault.message
  | .missing _ => "File does not exist. Exiting..."

/-- A failure as text. -/
def text : Failure → Detail → Text
  | .reported report, detail => "Error: ".toList ++ report.text detail
  | _, .brief => "Error:\n".toList
  | cause, .full => s!"Error: {cause.message}\n".toList

end Failure

namespace Notice

/-- A notice as text. The verbs of status lines end in one column. -/
def text (detail : Detail) : Notice → Text
  | .status verb object => Text.padLeft 12 ' ' verb.toList ++ ' ' :: object ++ ['\n']
  | .question number => s!"Step {number}; press enter".toList
  | .plain text => text
  | .reported report => report.text detail
  | .failure cause => cause.text detail
  | .misuse => "usage error\n".toList

/-- The status of work on a file. -/
def file (verb : String) (path : Text) : Notice := .status verb ("target ".toList ++ path)

end Notice

/-- What a command leaves behind. -/
structure Outcome where
  exit : Nat := 0
  stdout : Text := []
  notices : List Notice := []
  /-- A file to be written: its path and its text. -/
  saved : Option (Text × Text) := none
  deriving DecidableEq, Repr

namespace Outcome

/-- The outcome of a command that is given up. -/
def failed (cause : Failure) : Outcome := { exit := 1, notices := [.failure cause] }

/-- An outcome with notices that were made before. -/
def after (earlier : List Notice) (o : Outcome) : Outcome :=
  { o with notices := earlier ++ o.notices }

/-- The notices as text. -/
def stderr (o : Outcome) (detail : Detail) : Text := (o.notices.map (Notice.text detail)).flatten

end Outcome

end DuckMachine
