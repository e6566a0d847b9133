import DuckMachine.Text.Basic

/-
  Hosts: what a command can use of the computer that it runs on.
-/

namespace DuckMachine

/-- What a command can use of the computer that it runs on. -/
structure Host where
  /-- The text of a file, if the path leads to one and it is UTF-8. -/
  readFile : Text → Option Text
  /-- Whether a path leads anywhere. -/
  present : Text → Bool
  /-- Whether a file can be written to a path. -/
  writable : Text → Bool
  /-- All of standard input. -/
  input : List UInt8
  /-- The value of an environment variable, if it is set. -/
  environment : String → Option Text

end DuckMachine
