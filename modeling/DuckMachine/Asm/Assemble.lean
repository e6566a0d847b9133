import DuckMachine.Asm.Labels
import DuckMachine.Asm.Resolve
import DuckMachine.Text.Lines

/-
  Assembly of a source text into object lines.

  Labels are collected first. They are resolved only in a source in which nothing wrong was found
  until then, so that no error is reported twice.
-/

namespace DuckMachine

/-- The object lines of a source, if nothing is wrong with it. -/
def assemble (source : Text) (d : Diagnostics) :
    Except LimitExceeded (Option (List Text)) × Diagnostics :=
  let lines := source.lines
  match collectLabels lines d with
  | (.error exceeded, d) => (.error exceeded, d)
  | (.ok table, d) =>
    if d.errors ≠ [] then (.ok none, d)
    else match resolveLabels lines table d with
      | (.error exceeded, d) => (.error exceeded, d)
      | (.ok object, d) => (.ok (if d.errors = [] then some object else none), d)

end DuckMachine
