import DuckMachine.Text.Basic

/-
  File paths: their components and the extension of the file that they name.
-/

namespace DuckMachine.Path

/-- The stretches of a path between its slashes. -/
def parts : Text → List Text
  | [] => [[]]
  | c :: rest =>
    if c = '/' then [] :: parts rest
    else match parts rest with
      | [] => [[c]]
      | first :: others => (c :: first) :: others

/-- The components of a path: its parts, except those that lead nowhere else. -/
def components (path : Text) : List Text := (parts path).filter fun part => part ∉ [[], ['.']]

/-- The name of the file at the end of a path. -/
def fileName? (path : Text) : Option Text := (components path).getLast?.filter (· ≠ ['.', '.'])

/-- What follows the last period of a file name. A name whose only period comes first has no
    extension. -/
def extension? (path : Text) : Option Text :=
  (fileName? path).bind fun name =>
    let (extension, stem) := Text.cutAt (· = '.') name.reverse
    if stem.length ≤ 1 then none else some extension.reverse

end DuckMachine.Path
