import DuckMachine.Asm.Diagnostic

/-
  Passes: walks over the lines of a source that carry a state along and may find an error in each
  line.

  A pass is given by what it does with one line. Whatever the step, an error is reported as soon
  as it is found, and the walk ends early only when the limit of errors is exceeded.
-/

namespace DuckMachine

/-- What a pass does with one line: an error, if it finds one, and the state for the next line. -/
abbrev PassStep (σ : Type) := σ → Text → Option AsmCause × σ

namespace PassStep

variable {σ : Type}

/-- A walk over lines that begin with line number `number`. -/
def walkFrom (step : PassStep σ) (number : Nat) (state : σ) (d : Diagnostics) :
    List Text → Except LimitExceeded σ × Diagnostics
  | [] => (.ok state, d)
  | line :: rest =>
    match step state line with
    | (none, state) => walkFrom step (number + 1) state d rest
    | (some cause, state) =>
      match d.report ⟨number, cause⟩ with
      | (.error exceeded, d) => (.error exceeded, d)
      | (.ok (), d) => walkFrom step (number + 1) state d rest

/-- A walk over all lines of a source. -/
def walk (step : PassStep σ) (state : σ) (d : Diagnostics) (lines : List Text) :
    Except LimitExceeded σ × Diagnostics :=
  step.walkFrom 0 state d lines

end PassStep

end DuckMachine
