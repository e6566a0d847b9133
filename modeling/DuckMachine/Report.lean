import DuckMachine.Asm.Diagnostic
import DuckMachine.Asm.Object
import DuckMachine.Machine.Cpu
import DuckMachine.Text.Lines

/-
  Reports: errors as they are shown to the author of a program.

  A report adds to the message of an error a code for its kind, a word of advice and, where the
  error belongs to a line of a text, a mark on that line. Marks are byte stretches of the text, and
  cover a line without its ending.
-/

namespace DuckMachine

/-- A stretch of a text and what is wrong there. -/
structure Mark where
  span : Span
  remark : String
  deriving DecidableEq, Repr

/-- An error as it is shown. -/
structure Report where
  message : String
  code : String
  help : String
  marks : List Mark := []
  /-- The name of the text that the marks belong to. -/
  source : Option Text := none
  deriving DecidableEq, Repr

namespace Report

/-- How grave a report is. Nothing is reported that lets work go on as if it were right. -/
def severity (_ : Report) : String := "Error"

end Report

/-- The code of each kind of error in a source, its advice and its remark on the line. -/
def AsmCause.advice : AsmCause → String × String × String
  | .badLine _ =>
    ("asm::syntax",
      "expected `OP[/PRED] rT,rS1,rS2[offset]`, `DATA value`, "
        ++ "or `LOAD`/`STORE`/`JUMP` with a label",
      "invalid line")
  | .duplicateLabel _ _ =>
    ("asm::duplicate_label", "labels may only be defined once per file", "duplicate label")
  | .undefinedSymbol _ =>
    ("asm::undefined_symbol",
      "define the label on the line it should refer to, like `name: DATA 0`", "undefined label")
  | .outOfReach _ _ =>
    ("asm::out_of_reach", "move the label closer, or load its address through a register",
      "label too far away")

/-- The report of an error in the source `text` with this name. -/
def AsmError.report (e : AsmError) (name text : Text) : Report :=
  let (code, help, remark) := e.cause.advice
  { message := e.message, code, help, marks := [⟨text.lineSpan e.line, remark⟩],
    source := some name }

/-- The report that there are too many errors. -/
def LimitExceeded.report (e : LimitExceeded) : Report :=
  { message := e.message, code := "asm::error_limit"
    help := "fix the errors above, or raise the limit with `--error-limit`" }

/-- The report of an error in the object code `text` with this name. -/
def ObjectError.report (e : ObjectError) (name text : Text) : Report :=
  { message := e.message, code := "object::load"
    help := "object files must contain only fully specified instructions and data"
    marks := [⟨text.lineSpan e.line, "cannot encode"⟩], source := some name }

/-- The report of a fault that ended a program. -/
def RunError.report (e : RunError) : Report :=
  { message := e.message, code := "run::fault", help := "the machine was halted" }

end DuckMachine
