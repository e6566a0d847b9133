import DuckMachine.Text.Basic

/-
  Numerals: written numbers and their exact values.

  Values are taken in `Nat` and `Int`, so a numeral of any length, with any number of leading
  zeros, has its mathematical value. A reader that needs a smaller range tests the value.
-/

namespace DuckMachine.Numeral

/-- A decimal or hexadecimal digit, letters in either case. -/
def isHexDigit (c : Char) : Bool :=
  c.isDigit || ('a' ≤ c && c ≤ 'f') || ('A' ≤ c && c ≤ 'F')

/-- The value of a hexadecimal digit; zero for a character that is none. -/
def digitValue (c : Char) : Nat :=
  if c.isDigit then c.toNat - '0'.toNat
  else if 'a' ≤ c && c ≤ 'f' then c.toNat - 'a'.toNat + 10
  else if 'A' ≤ c && c ≤ 'F' then c.toNat - 'A'.toNat + 10
  else 0

/-- The value of a row of digits, the most significant first. -/
def value (base : Nat) (digits : Text) : Nat :=
  digits.foldl (fun total c => base * total + digitValue c) 0

/-- One or more decimal digits. -/
def natural? (text : Text) : Option Nat :=
  if text ≠ [] ∧ text.all Char.isDigit then some (value 10 text) else none

/-- Decimal digits, with or without a plus sign before them. -/
def unsigned? : Text → Option Nat
  | '+' :: digits => natural? digits
  | digits => natural? digits

/-- Decimal digits, with or without a sign before them. -/
def signed? : Text → Option Int
  | '-' :: digits => (natural? digits).map fun n => -(n : Int)
  | '+' :: digits => (natural? digits).map Int.ofNat
  | digits => (natural? digits).map Int.ofNat

/-- One or more hexadecimal digits. -/
def hex? (text : Text) : Option Nat :=
  if text ≠ [] ∧ text.all isHexDigit then some (value 16 text) else none

/-- The decimal digits of a natural number. -/
def decimal (n : Nat) : Text := Nat.toDigits 10 n

/-- A decimal integer, with a minus sign if it is negative. -/
def integer : Int → Text
  | .ofNat n => decimal n
  | .negSucc n => '-' :: decimal (n + 1)

/-- `n` in lower case hexadecimal, filled up with zeros to `width` digits. -/
def hexFixed (width n : Nat) : Text := Text.padLeft width '0' (Nat.toDigits 16 n)

end DuckMachine.Numeral
