import DuckMachine.Instr.Operand
import DuckMachine.Text.Blank

/-
  Written instructions: cutting `OP/PRED rT,rS1,rS2[offset]` into its parts, and the instruction
  that the parts denote.

  Cutting looks at the shape alone: names are rows of letters, registers are `r` and digits, the
  offset is an optional minus sign and digits. Each part ends where its class of characters ends,
  so a text has at most one reading. Whether the parts mean something is decided afterwards.
-/

namespace DuckMachine

/-- The parts of a written instruction, not yet checked. -/
structure Fields where
  opcode : Text
  predicate : Option Text
  target : Text
  src1 : Text
  src2 : Text
  offset : Option Text
  deriving DecidableEq, Repr

namespace Scan

/-- The characters of a class that a text begins with, at least one, and what follows them. -/
def run (p : Char → Bool) (text : Text) : Option (Text × Text) :=
  match text.takeWhile p with
  | [] => none
  | found => some (found, text.dropWhile p)

/-- A text after one or more blanks. -/
def blanks (text : Text) : Option Text := (run isBlank text).map Prod.snd

/-- A text after a given character. -/
def skip (wanted : Char) : Text → Option Text
  | [] => none
  | c :: rest => if c = wanted then some rest else none

/-- A text after a comma, which may have blanks on both sides. -/
def comma (text : Text) : Option Text := (skip ',' (Text.trimStart text)).map Text.trimStart

/-- A row of letters. -/
def letters : Text → Option (Text × Text) := run Char.isAlpha

/-- A slash and a row of letters, or nothing. -/
def predicate : Text → Option (Option Text × Text)
  | '/' :: rest => (letters rest).map fun (found, rest) => (some found, rest)
  | text => some (none, text)

/-- `r` and decimal digits. -/
def register (text : Text) : Option (Text × Text) := do
  let rest ← skip 'r' text
  let (digits, rest) ← run Char.isDigit rest
  some ('r' :: digits, rest)

/-- Decimal digits with or without a minus sign. -/
def signedDigits : Text → Option (Text × Text)
  | '-' :: rest => (run Char.isDigit rest).map fun (digits, rest) => ('-' :: digits, rest)
  | text => run Char.isDigit text

/-- A number in square brackets, or nothing. -/
def offset : Text → Option (Option Text × Text)
  | '[' :: rest => do
    let (number, rest) ← signedDigits (Text.trimStart rest)
    let rest ← skip ']' (Text.trimStart rest)
    some (some number, rest)
  | text => some (none, text)

end Scan

namespace Fields

/-- The parts of the written instruction that makes up the whole text. -/
def read? (text : Text) : Option Fields := do
  let (opcode, text) ← Scan.letters text
  let (predicate, text) ← Scan.predicate text
  let text ← Scan.blanks text
  let (target, text) ← Scan.register text
  let text ← Scan.comma text
  let (src1, text) ← Scan.register text
  let text ← Scan.comma text
  let (src2, text) ← Scan.register text
  let (offset, text) ← Scan.offset text
  if text = [] then some { opcode, predicate, target, src1, src2, offset } else none

/-- The instruction that the parts denote. The parts are looked at in the order opcode, predicate,
    offset, target and sources, and the first one that is wrong is the error. -/
def instr (f : Fields) : Except FieldError Instr := do
  let op ← readOpcode f.opcode
  let cond ← match f.predicate with
    | some text => readPredicate text
    | none => pure Cond.always
  let offset ← match f.offset with
    | some text => readOffset text
    | none => pure 0
  let target ← readRegister f.target
  let src1 ← readRegister f.src1
  let src2 ← readRegister f.src2
  pure { op, cond, target, src1, src2, offset }

end Fields

/-- The instruction written in a text, with nothing but blanks around it. -/
def Instr.ofText (text : Text) : Except FieldError Instr :=
  match Fields.read? text.trim with
  | some fields => fields.instr
  | none => .error (.malformed text)

end DuckMachine
