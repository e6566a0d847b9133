import DuckMachine.Instr.Basic
import DuckMachine.Misuse
import DuckMachine.Word.Basic

/-
  The register file.

  `r0` is wired to zero and drops every write, the other fifteen hold a word each, and `r15` is
  the program counter. `get` and `put` take any number, so that running an instruction is total;
  `read` and `write` refuse a number that names no register.
-/

namespace DuckMachine

/-- A register: wired to zero, or holding a word. -/
inductive Register where
  | zero
  | general (content : Word)
  deriving DecidableEq, Repr, Inhabited

namespace Register

/-- The content of a register. -/
def get : Register → Word
  | zero => 0
  | general content => content

/-- A register after a write. -/
def put (w : Word) : Register → Register
  | zero => zero
  | general _ => general w

end Register

/-- The registers `r0` to `r15`. -/
structure Registers where
  cells : Vector Register registerCount
  deriving DecidableEq

namespace Registers

/-- The number of the program counter. -/
def pcNumber : Nat := 15

/-- The registers before a program runs: all zero, and the first wired so. -/
def initial : Registers := ⟨(Vector.replicate registerCount (.general 0)).set 0 .zero⟩

/-- The content of a register; zero for a number that names none. -/
def get (rs : Registers) (number : Nat) : Word :=
  match rs.cells[number]? with
  | some register => register.get
  | none => 0

/-- The registers after a write. A write to a number that names none is dropped. -/
def put (rs : Registers) (number : Nat) (w : Word) : Registers :=
  if h : number < registerCount then ⟨rs.cells.set number (rs.cells[number].put w)⟩ else rs

/-- The register with this number. -/
def register (rs : Registers) (number : Nat) : Except Misuse Register :=
  match rs.cells[number]? with
  | some register => .ok register
  | none => .error (.noSuchRegister number)

/-- The content of a register that must exist. -/
def read (rs : Registers) (number : Nat) : Except Misuse Word :=
  (rs.register number).map Register.get

/-- The registers after a write to a register that must exist. -/
def write (rs : Registers) (number : Nat) (w : Word) : Except Misuse Registers :=
  (rs.register number).map fun _ => rs.put number w

/-- The registers before a program runs after writes of these contents to `r0`, `r1` and so on.
    More contents than registers are refused. -/
def ofList (contents : List Word) : Except Misuse Registers :=
  contents.zipIdx.foldlM (fun rs (w, number) => rs.write number w) initial

/-- The program counter. -/
def pc (rs : Registers) : Word := rs.get pcNumber

/-- The registers with a new program counter. -/
def setPc (rs : Registers) (w : Word) : Registers := rs.put pcNumber w

/-- The registers with the program counter one word further. -/
def stepPc (rs : Registers) : Registers := rs.setPc (rs.pc + 1)

/-- A register that is written behaves as a register does, and all others keep their contents. -/
theorem get_put {rs : Registers} {number : Nat} {r : Register}
    (h : rs.register number = .ok r) (w : Word) (other : Nat) :
    (rs.put number w).get other = if other = number then (r.put w).get else rs.get other := by
  have inside : number < registerCount := by
    by_cases inside : number < registerCount
    · exact inside
    · simp [register, inside] at h
  have found : rs.cells[number] = r := by
    simpa [register, inside] using h
  subst found
  by_cases same : other = number
  · subst same
    simp [put, get, inside]
  · simp [put, get, inside, same, Ne.symm same]

/-- The contents in the order of the numbers. -/
def toList (rs : Registers) : List Word := rs.cells.toList.map Register.get

end Registers

end DuckMachine
