import DuckMachine.Command.Path
import DuckMachine.Command.Perform

/-
  A directory as a host: files by name, with no directories among them.

  Commands can be tried out on it without a computer's files: what they would have written can be
  read off the directory afterwards.
-/

namespace DuckMachine

/-- The files of a directory, by name. -/
structure Directory where
  files : List (Text × Text) := []
  deriving DecidableEq, Repr

namespace Directory

/-- The name of the file that a path leads to, whether there is one by that name or not. A path
    that ends as one to a directory, or leads through another directory, leads to none. -/
def name? (path : Text) : Option Text :=
  if path.head? = some '/' ∨ (Path.parts path).getLast? ∈ [none, some [], some ['.']] then none
  else match Path.components path with
    | [name] => if name = ['.', '.'] then none else some name
    | _ => none

/-- The text of the file that a path leads to. -/
def read? (d : Directory) (path : Text) : Option Text :=
  (name? path).bind fun name => d.files.lookup name

/-- The directory after a file was written. -/
def write (d : Directory) (path text : Text) : Directory :=
  match name? path with
  | some name => ⟨d.files.filter (·.1 ≠ name) ++ [(name, text)]⟩
  | none => d

/-- The files of a directory that are not in an earlier state of it with the same text. -/
def changesSince (d earlier : Directory) : List (Text × Text) :=
  d.files.filter fun (name, text) => earlier.files.lookup name ≠ some text

/-- A directory after a command. -/
def afterOutcome (d : Directory) (o : Outcome) : Directory :=
  match o.saved with
  | some (path, text) => d.write path text
  | none => d

/-- The host that a directory makes with standard input and environment variables. -/
def host (d : Directory) (input : List UInt8) (environment : String → Option Text) : Host where
  readFile := d.read?
  present path := (d.read? path).isSome
  writable path := (name? path).isSome
  input
  environment

end Directory

end DuckMachine
