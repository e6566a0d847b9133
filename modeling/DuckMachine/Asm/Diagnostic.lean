import DuckMachine.Asm.Line

/-
  Diagnostics: what the assembler finds wrong, and the list that collects it.

  Assembly goes on after an error, so that several can be found at once, until the list has grown
  longer than its limit. The error that exceeds the limit is still listed.
-/

namespace DuckMachine

/-- What is wrong with a source line. -/
inductive AsmCause where
  | badLine (reason : LineError)
  | duplicateLabel (label : Text) (first : Nat)
  | undefinedSymbol (symbol : Text)
  | outOfReach (symbol : Text) (distance : Int)
  deriving DecidableEq, Repr

/-- Something wrong with a source line; lines count from zero. -/
structure AsmError where
  line : Nat
  cause : AsmCause
  deriving DecidableEq, Repr

/-- What is said about a source line that is wrong. -/
def AsmError.message (e : AsmError) : String :=
  match e.cause with
  | .badLine reason => s!"syntax error in line {e.line + 1}: {reason.message}"
  | .duplicateLabel label first =>
    s!"duplicate label `{label.string}` in line {e.line + 1}, first defined at address {first}"
  | .undefinedSymbol symbol => s!"use of undefined label `{symbol.string}` in line {e.line + 1}"
  | .outOfReach symbol distance =>
    s!"label `{symbol.string}` in line {e.line + 1} is {distance} words away, "
      ++ "too far for an offset"

/-- More errors than the limit allows. -/
structure LimitExceeded where
  count : Nat
  limit : Nat
  deriving DecidableEq, Repr

/-- What is said when there are too many errors. -/
def LimitExceeded.message (e : LimitExceeded) : String :=
  s!"too many errors ({e.count}, limit is {e.limit}); abandoning assembly"

/-- The errors found so far, in order, and how many are allowed. -/
structure Diagnostics where
  limit : Nat
  errors : List AsmError := []
  deriving DecidableEq, Repr

namespace Diagnostics

/-- The list with one more error, and whether assembly may go on. -/
def report (d : Diagnostics) (e : AsmError) : Except LimitExceeded Unit × Diagnostics :=
  let errors := d.errors ++ [e]
  let result :=
    if d.limit < errors.length then .error { count := errors.length, limit := d.limit } else .ok ()
  (result, { d with errors })

end Diagnostics

end DuckMachine
