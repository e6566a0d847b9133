import DuckMachine.Text.Basic

/-
  Misuse: a call outside the contract of an operation.

  The machine itself never makes such a call. They can come from a caller that picks its own bit
  fields, widths or register numbers, and each has one fixed wording.
-/

namespace DuckMachine

/-- A call outside the contract of an operation. -/
inductive Misuse where
  | reversedField
  | fieldPastWord
  | narrowSignExtension
  | wideSignExtension
  | noSuchRegister (number : Nat)
  deriving DecidableEq, Repr

/-- What is said about a misuse. -/
def Misuse.message : Misuse → String
  | .reversedField => "bit field range is reversed"
  | .fieldPastWord => "bit field extends past the end of a word"
  | .narrowSignExtension => "sign extension needs a field of at least 2 bits"
  | .wideSignExtension => "assertion failed: width <= WORD_SIZE"
  | .noSuchRegister number => s!"index out of bounds: the len is 16 but the index is {number}"

end DuckMachine
