import DuckMachine.Asm.LabelTable
import DuckMachine.Asm.Pass

/-
  Collecting labels.

  Every line that takes space gets the next address, beginning with zero. A label stands for the
  address of the next word, on its own line or after it. A line that cannot be read takes none.
-/

namespace DuckMachine

/-- The addresses given out so far and the labels met. Sources of 2^32 words or more, whose
    addresses exceed 32 bits, are out of scope. -/
structure Labelling where
  address : Nat := 0
  table : LabelTable := {}
  deriving DecidableEq, Repr

namespace Labelling

/-- The table after the label of a line, and the error if the label was there before. -/
def addLabel (s : Labelling) : Option Text → Option AsmCause × LabelTable
  | none => (none, s.table)
  | some label =>
    match s.table.define label s.address with
    | .ok table => (none, table)
    | .error first => (some (.duplicateLabel label first), s.table)

/-- What collecting labels does with one line. -/
def step : PassStep Labelling := fun s text =>
  match Line.parse text with
  | .error reason => (some (.badLine reason), s)
  | .ok line =>
    let (error, table) := s.addLabel line.label
    (error, { address := s.address + line.size, table })

end Labelling

/-- The table of the labels in a source. -/
def collectLabels (lines : List Text) (d : Diagnostics) :
    Except LimitExceeded LabelTable × Diagnostics :=
  let (result, d) := Labelling.step.walk {} d lines
  (result.map Labelling.table, d)

end DuckMachine
