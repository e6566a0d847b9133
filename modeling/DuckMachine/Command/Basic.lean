import DuckMachine.Word.Basic

/-
  Commands: what the program can be asked to do.
-/

namespace DuckMachine

/-- How a program is run. -/
structure RunOptions where
  trace : Bool := false
  /-- A trace in plain text. -/
  minimal : Bool := false
  /-- The address of the first instruction. -/
  start : Word := 0
  /-- Whether a line is read before every instruction. -/
  step : Bool := false
  errorLimit : Option Nat := none
  deriving DecidableEq, Repr

/-- What the program can be asked to do. -/
inductive Command where
  | banner
  | assemble (source object : Option Text) (errorLimit : Option Nat)
  | run (file : Text) (options : RunOptions)
  | check (file : Text) (errorLimit : Option Nat)
  | watch (file : Text)
  deriving DecidableEq, Repr

namespace Command

/-- The file that a command reads. -/
def file? : Command → Option Text
  | banner => none
  | assemble source _ _ => source
  | run file _ => some file
  | check file _ => some file
  | watch file => some file

/-- Whether a command reads standard input. -/
def readsInput : Command → Bool
  | assemble none _ _ => true
  | run _ _ => true
  | _ => false

end Command

/-- Why arguments give no command. -/
inductive Interruption where
  | misuse
  | help
  | version
  deriving DecidableEq, Repr

end DuckMachine
