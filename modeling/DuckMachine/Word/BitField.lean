import DuckMachine.Misuse
import DuckMachine.Word.Basic

/-
  Bit fields: ranges of neighbouring bits in a word.

  A field is inserted into a word without touching the other bits and extracted as a number with
  or without sign. Sign extension looks at one bit of its argument and, if that bit is set,
  subtracts a power of two; bits above the width stay as they are.
-/

namespace DuckMachine

/-- The bits from `lo` to `hi` of a word, both included; bit 0 is the least significant. -/
structure BitField where
  lo : Nat
  hi : Nat
  lo_le_hi : lo ≤ hi
  hi_lt : hi < wordSize
  deriving DecidableEq

/-- The low `width` bits of `field` in two's complement, if no bit above them is set. -/
def extendSign (width : Nat) (field : Word) : Word :=
  if field.getLsbD (width - 1) then field - BitVec.twoPow wordSize width else field

/-- `extendSign` for a width that has a sign bit beside other bits and fits a word. -/
def signExtend (field : Word) (width : Nat) : Except Misuse Word :=
  if width < 2 then .error .narrowSignExtension
  else if wordSize < width then .error .wideSignExtension
  else .ok (extendSign width field)

namespace BitField

/-- The field from bit `lo` to bit `hi`. -/
def make (lo hi : Nat) : Except Misuse BitField :=
  if ordered : lo ≤ hi then
    if inside : hi < wordSize then .ok ⟨lo, hi, ordered, inside⟩
    else .error .fieldPastWord
  else .error .reversedField

/-- The number of bits in a field. -/
def width (f : BitField) : Nat := f.hi - f.lo + 1

/-- The word whose set bits are those of the field. -/
def mask (f : BitField) : Word := BitVec.ofNat wordSize ((1 <<< f.width) - 1) <<< f.lo

/-- `word` with the low bits of `value` in place of the field. -/
def insert (f : BitField) (value word : Word) : Word :=
  ((value <<< f.lo) &&& f.mask) ||| (word &&& ~~~f.mask)

/-- The field of a word as a number without sign. -/
def extract (f : BitField) (word : Word) : Word := (word &&& f.mask) >>> f.lo

/-- The field of a word in two's complement. -/
def extractSigned (f : BitField) (word : Word) : Except Misuse Word :=
  signExtend (f.extract word) f.width

/-- The least number that the field holds with sign. -/
def minSigned (f : BitField) : Int := -(1 <<< (f.width - 1) : Nat)

/-- The greatest number that the field holds with sign. -/
def maxSigned (f : BitField) : Int := (1 <<< (f.width - 1) : Nat) - 1

/-- The greatest number that the field holds without sign. -/
def maxUnsigned (f : BitField) : Word := f.mask >>> f.lo

end BitField

end DuckMachine
