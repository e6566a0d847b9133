import DuckMachine.Instr.Basic

/-
  Operands in source text: register names, offsets, and what is wrong with a part of an
  instruction that cannot be used.

  A register name is `r` and a number below 16, an offset a signed number of 11 bits. Numbers have
  their exact values: leading zeros and great lengths change nothing.
-/

namespace DuckMachine

/-- What is wrong with a part of a written instruction. -/
inductive FieldError where
  | malformed (text : Text)
  | unknownOpcode (text : Text)
  | badPredicate (text : Text)
  | badRegister (text : Text)
  | badOffset (text : Text)
  | offsetRange (offset : Int)
  deriving DecidableEq, Repr

/-- What is said about a part that cannot be used. -/
def FieldError.message : FieldError → String
  | .malformed text => s!"`{text.string}` is not of the form `OP[/PRED] rT,rS1,rS2[offset]`"
  | .unknownOpcode text => s!"unknown opcode `{text.string}`"
  | .badPredicate text => s!"invalid predicate `{text.string}`"
  | .badRegister text => s!"invalid register `{text.string}`, expected r0 to r15"
  | .badOffset text => s!"invalid offset `{text.string}`"
  | .offsetRange offset => s!"offset {offset} does not fit in 11 bits (range -1024 to 1023)"

/-- The operation with this name. -/
def readOpcode (text : Text) : Except FieldError Opcode :=
  match Opcode.ofMnemonic? text with
  | some op => .ok op
  | none => .error (.unknownOpcode text)

/-- The condition written in a predicate. -/
def readPredicate (text : Text) : Except FieldError Cond :=
  match Cond.ofText? text with
  | some cond => .ok cond
  | none => .error (.badPredicate text)

/-- The number of the register with this name. -/
def readRegister (text : Text) : Except FieldError Nat :=
  match text with
  | 'r' :: number =>
    match Numeral.unsigned? number with
    | some n => if n < registerCount then .ok n else .error (.badRegister text)
    | none => .error (.badRegister text)
  | _ => .error (.badRegister text)

/-- An offset that fits its place in an instruction word. -/
def checkOffset (offset : Int) : Except FieldError Int :=
  if -1024 ≤ offset ∧ offset ≤ 1023 then .ok offset else .error (.offsetRange offset)

/-- The offset written as a signed decimal number. One that 64 bits cannot hold is not taken for
    a number at all. -/
def readOffset (text : Text) : Except FieldError Int :=
  match Numeral.signed? text with
  | some offset =>
    if -0x8000000000000000 ≤ offset ∧ offset < 0x8000000000000000 then checkOffset offset
    else .error (.badOffset text)
  | none => .error (.badOffset text)

end DuckMachine
