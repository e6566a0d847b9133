import DuckMachine.Text.Numeral

/-
  Words, the 32-bit values in the machine's registers and memory cells.

  A word has two readings, `toNat` between 0 and 2^32 - 1 and `toInt` in two's complement. Its
  printed form is eight hexadecimal digits.
-/

namespace DuckMachine

/-- The number of bits in a word. -/
abbrev wordSize : Nat := 32

/-- The content of a register or memory cell. -/
abbrev Word := BitVec wordSize

namespace Word

/-- The word that agrees with an integer modulo 2^32. -/
def ofInt (n : Int) : Word := BitVec.ofInt wordSize n

/-- A word as eight hexadecimal digits. -/
def hex (w : Word) : Text := Numeral.hexFixed 8 w.toNat

/-- A word in decimal, read in two's complement. -/
def decimal (w : Word) : Text := Numeral.integer w.toInt

end Word

end DuckMachine
