import DuckMachine.Text.Basic

/-
  Opcodes: the ten operations, their numbers and their mnemonics.
-/

namespace DuckMachine

/-- An operation of the machine. -/
inductive Opcode where
  | halt | load | store | add | sub | mul | div | and | or | xor
  deriving DecidableEq, Repr, Inhabited

namespace Opcode

/-- Every operation, in the order of the numbers. -/
def all : List Opcode := [halt, load, store, add, sub, mul, div, and, or, xor]

/-- The number that stands for an operation in an instruction word. -/
def code : Opcode → Nat
  | halt => 0
  | load => 1
  | store => 2
  | add => 3
  | sub => 4
  | mul => 5
  | div => 6
  | and => 7
  | or => 8
  | xor => 9

/-- The operation with this number. -/
def ofCode? (code : Nat) : Option Opcode := all[code]?

/-- The name of an operation in source text. -/
def mnemonic : Opcode → Text
  | halt => ['H', 'A', 'L', 'T']
  | load => ['L', 'O', 'A', 'D']
  | store => ['S', 'T', 'O', 'R', 'E']
  | add => ['A', 'D', 'D']
  | sub => ['S', 'U', 'B']
  | mul => ['M', 'U', 'L']
  | div => ['D', 'I', 'V']
  | and => ['A', 'N', 'D']
  | or => ['O', 'R']
  | xor => ['X', 'O', 'R']

/-- The operation with this name. -/
def ofMnemonic? (name : Text) : Option Opcode := all.find? fun op => op.mnemonic = name

theorem ofCode?_code (op : Opcode) : ofCode? op.code = some op := by
  cases op <;> rfl

theorem code_of_ofCode? {code : Nat} {op : Opcode} (h : ofCode? code = some op) :
    op.code = code := by
  simp only [ofCode?, List.getElem?_eq_some_iff, all, List.length_cons, List.length_nil] at h
  obtain ⟨lt, rfl⟩ := h
  match code, lt with
  | 0, _ | 1, _ | 2, _ | 3, _ | 4, _ | 5, _ | 6, _ | 7, _ | 8, _ | 9, _ => rfl

theorem ofMnemonic?_mnemonic (op : Opcode) : ofMnemonic? op.mnemonic = some op := by
  cases op <;> rfl

theorem mnemonic_of_ofMnemonic? {name : Text} {op : Opcode} (h : ofMnemonic? name = some op) :
    op.mnemonic = name := by
  simpa using List.find?_some h

end Opcode

end DuckMachine
