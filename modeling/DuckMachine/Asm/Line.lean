import DuckMachine.Asm.Form
import DuckMachine.Word.Basic

/-
  Source lines: what a line means once its parts have been checked.

  A line that has a form can still be wrong in one of its parts. Parts are looked at in a fixed
  order, and the first one that is wrong is the error.
-/

namespace DuckMachine

/-- Why a line means nothing. -/
inductive LineError where
  | noMatch
  | field (error : FieldError)
  | dataRange (text : Text)
  | jumpTarget
  deriving DecidableEq, Repr

/-- What is said about a line that means nothing. -/
def LineError.message : LineError → String
  | .noMatch => "line does not match any instruction form"
  | .field error => error.message
  | .dataRange text => s!"data value `{text.string}` does not fit in a word"
  | .jumpTarget => "JUMP does not take a target register"

/-- What a line puts into memory. -/
inductive Statement where
  /-- Nothing: the line is blank, or has only a label or a comment. -/
  | nothing
  /-- An instruction on registers. -/
  | full (instr : Instr)
  /-- A word as it is. -/
  | data (value : Word)
  /-- A load, store or jump that refers to a label. -/
  | symbolic (op : SymbolicOp) (cond : Cond) (target : Option Nat) (symbol : Text)
  deriving DecidableEq, Repr

/-- A source line: its label and its statement. -/
structure Line where
  label : Option Text
  statement : Statement
  deriving DecidableEq, Repr

namespace Line

/-- Whether a line takes a word of memory. -/
def takesSpace (line : Line) : Bool := line.statement ≠ .nothing

/-- The number of words that a line takes. -/
def size (line : Line) : Nat := if line.takesSpace then 1 else 0

end Line

/-- The exact value of a written data word. -/
def dataInteger? : Text → Option Int
  | '0' :: 'x' :: digits => (Numeral.hex? digits).map Int.ofNat
  | text => Numeral.signed? text

/-- A written data word, in the range of a word with sign or of one without. -/
def readData (text : Text) : Except LineError Word :=
  match dataInteger? text with
  | some value =>
    if -0x80000000 ≤ value ∧ value < 0x100000000 then .ok (Word.ofInt value)
    else .error (.dataRange text)
  | none => .error (.dataRange text)

/-- The statement of a form whose parts are all valid. -/
def Form.statement : Form → Except LineError Statement
  | .nothing => .ok .nothing
  | .full fields => (fields.instr.map Statement.full).mapError LineError.field
  | .data none => .ok (.data 0)
  | .data (some text) => (readData text).map Statement.data
  | .symbolic op predicate target symbol => do
    let cond ← match predicate with
      | some text => (readPredicate text).mapError LineError.field
      | none => pure Cond.always
    let target ← match target with
      | some text => ((readRegister text).map some).mapError LineError.field
      | none => pure none
    if op = .jump ∧ target.isSome then throw LineError.jumpTarget
    pure (.symbolic op cond target symbol)

/-- The meaning of a line. -/
def Line.parse (text : Text) : Except LineError Line :=
  match Form.ofLine? text with
  | none => .error .noMatch
  | some (label, form) => form.statement.map fun statement => { label, statement }

end DuckMachine
