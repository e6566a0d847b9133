import DuckMachine.Instr.Fields
import DuckMachine.Text.WordChar

/-
  Line forms: the shape of a source line, before its parts are checked.

  A line may begin with a label and a colon and end with a comment, which runs from `#` or `;` to
  the end and holds no line feed. Between the two stands nothing, an instruction on registers, a
  data word, or an operation on a label:

      loop:  ADD/ZP r1,r2,r3[-4]   # registers
             LOAD/M r2,counter     # a label
             JUMP loop
      n:     DATA 0x1f

  The forms exclude one another: only the first has commas between three registers, only the
  second is called `DATA`, and the last has one name after its operation.
-/

namespace DuckMachine

/-- Operations that may refer to a label in place of registers. -/
inductive SymbolicOp where
  | load | store | jump
  deriving DecidableEq, Repr, Inhabited

namespace SymbolicOp

/-- The name of an operation on a label. -/
def mnemonic : SymbolicOp → Text
  | load => Opcode.load.mnemonic
  | store => Opcode.store.mnemonic
  | jump => ['J', 'U', 'M', 'P']

/-- The operation on a label with this name. -/
def ofMnemonic? (name : Text) : Option SymbolicOp :=
  [load, store, jump].find? fun op => op.mnemonic = name

end SymbolicOp

/-- What stands between the label and the comment of a line, cut into parts. -/
inductive Form where
  | nothing
  | full (fields : Fields)
  | data (value : Option Text)
  | symbolic (op : SymbolicOp) (predicate target : Option Text) (symbol : Text)
  deriving DecidableEq, Repr

namespace Scan

/-- A letter and the word characters after it. -/
def name : Text → Option (Text × Text)
  | [] => none
  | c :: rest =>
    if c.isAlpha then some (c :: rest.takeWhile isWordChar, rest.dropWhile isWordChar) else none

/-- A name and a colon right after it. -/
def label (text : Text) : Option (Text × Text) := do
  let (found, rest) ← name text
  let rest ← skip ':' rest
  some (found, rest)

/-- A register and a comma. -/
def targetRegister (text : Text) : Option (Text × Text) := do
  let (found, rest) ← register text
  let rest ← comma rest
  some (found, rest)

/-- A row of hexadecimal digits after `0x`, or decimal digits with or without a minus sign. -/
def dataValue : Text → Option (Text × Text)
  | '0' :: 'x' :: rest => (run Numeral.isHexDigit rest).map fun (digits, rest) =>
    ('0' :: 'x' :: digits, rest)
  | text => signedDigits text

end Scan

namespace Form

/-- Whether a character begins a comment. -/
def opensComment (c : Char) : Bool := c == '#' || c == ';'

/-- The name of a data line. -/
def dataName : Text := ['D', 'A', 'T', 'A']

/-- A data word: the name alone, which stands for zero, or with a value after it. -/
def readData? (text : Text) : Option Form := do
  let (name, text) ← Scan.letters text
  if name ≠ dataName then none
  else if text = [] then some (.data none)
  else do
    let text ← Scan.blanks text
    let (value, text) ← Scan.dataValue text
    if text = [] then some (.data (some value)) else none

/-- An operation on a label, with a target register or without. -/
def readSymbolic? (text : Text) : Option Form := do
  let (name, text) ← Scan.letters text
  let op ← SymbolicOp.ofMnemonic? name
  let (predicate, text) ← Scan.predicate text
  let text ← Scan.blanks text
  let (target, text) := match Scan.targetRegister text with
    | some (found, rest) => (some found, rest)
    | none => (none, text)
  let (symbol, text) ← Scan.name text
  if text = [] then some (.symbolic op predicate target symbol) else none

/-- The form of the text between label and comment, which has no blanks at its ends. -/
def ofBody? (body : Text) : Option Form :=
  if body = [] then some .nothing
  else ((Fields.read? body).map Form.full).or ((readData? body).or (readSymbolic? body))

/-- The label and the form of a line. -/
def ofLine? (line : Text) : Option (Option Text × Form) :=
  let start := line.trimStart
  let (label, rest) := match Scan.label start with
    | some (found, rest) => (some found, rest)
    | none => (none, start)
  let (body, comment) := rest.cutAt opensComment
  if '\n' ∈ comment then none
  else (ofBody? body.trim).map fun form => (label, form)

end Form

end DuckMachine
