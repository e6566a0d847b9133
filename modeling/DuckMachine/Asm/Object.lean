import DuckMachine.Asm.Line
import DuckMachine.Instr.Codec

/-
  Object code: lines without references to labels, and the words that they stand for.

  Every line that takes space gives one word. Loading stops at the first line that cannot be read
  or still refers to a label.
-/

namespace DuckMachine

/-- Why an object line has no word. -/
inductive ObjectCause where
  | badLine (reason : LineError)
  | unresolved (symbol : Text)
  deriving DecidableEq, Repr

/-- An object line without a word; lines count from zero. -/
structure ObjectError where
  line : Nat
  cause : ObjectCause
  deriving DecidableEq, Repr

/-- What is said about an object line without a word. -/
def ObjectError.message (e : ObjectError) : String :=
  match e.cause with
  | .badLine reason => s!"object line {e.line + 1}: {reason.message}"
  | .unresolved symbol =>
    s!"object line {e.line + 1}: reference to `{symbol.string}` was never resolved"

namespace Object

/-- The words of one object line. -/
def lineWords (text : Text) : Except ObjectCause (List Word) :=
  match Line.parse text with
  | .error reason => .error (.badLine reason)
  | .ok line =>
    match line.statement with
    | .nothing => .ok []
    | .full instr => .ok [instr.encode]
    | .data value => .ok [value]
    | .symbolic _ _ _ symbol => .error (.unresolved symbol)

/-- The words of object lines that begin with line number `number`. -/
def loadFrom (number : Nat) : List Text → Except ObjectError (List Word)
  | [] => .ok []
  | line :: rest =>
    match lineWords line with
    | .error cause => .error ⟨number, cause⟩
    | .ok words => (loadFrom (number + 1) rest).map (words ++ ·)

/-- The words of object lines. -/
def load (lines : List Text) : Except ObjectError (List Word) := loadFrom 0 lines

/-- Object lines as the text of a file: each line ends with a line feed, and no lines at all are
    one empty line. -/
def fileText (lines : List Text) : Text := List.intercalate ['\n'] lines ++ ['\n']

end Object

end DuckMachine
