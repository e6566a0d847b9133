import DuckMachine.Text.Blank
import DuckMachine.Text.Numeral

/-
  Settings shared by every command: read from the environment, then overridden by options.
-/

namespace DuckMachine

/-- The largest error limit. -/
def maxErrorLimit : Nat := 0xFFFFFFFFFFFFFFFF

/-- A written error limit. -/
def errorLimit? (text : Text) : Option Nat :=
  (Numeral.unsigned? text).filter (· ≤ maxErrorLimit)

/-- Settings shared by every command. -/
structure Settings where
  /-- Assembly is abandoned once more errors than this are found. -/
  errorLimit : Nat := 5
  /-- Whether every instruction is shown as it executes. -/
  trace : Bool := false
  deriving DecidableEq, Repr

namespace Settings

/-- The settings that the environment asks for. A limit that cannot be read is ignored. -/
def ofEnvironment (environment : String → Option Text) : Settings :=
  let limit := (environment "DUCK_ERROR_LIMIT").bind fun text => errorLimit? text.trim
  { errorLimit := limit.getD 5, trace := environment "DUCK_TRACE" == some ['1'] }

/-- The settings under a limit given as an option, if one is. -/
def withErrorLimit (s : Settings) (limit : Option Nat) : Settings :=
  { s with errorLimit := limit.getD s.errorLimit }

/-- The settings under an option that can switch tracing on. -/
def withTrace (s : Settings) (trace : Bool) : Settings := { s with trace := s.trace || trace }

end Settings

end DuckMachine
