import DuckMachine.Instr.Basic
import DuckMachine.Word.BitField

/-
  Instruction words.

     31      27 26    23 22    19 18    15 14    11 10            0
    +----------+--------+--------+--------+--------+---------------+
    |  opcode  |  cond  | target |  src1  |  src2  |    offset     |
    +----------+--------+--------+--------+--------+---------------+

  The fields cover the whole word, so a word whose opcode is known is the encoding of what it
  decodes to.
-/

namespace DuckMachine

namespace Layout

def opcode : BitField := ⟨27, 31, by decide, by decide⟩
def cond : BitField := ⟨23, 26, by decide, by decide⟩
def target : BitField := ⟨19, 22, by decide, by decide⟩
def src1 : BitField := ⟨15, 18, by decide, by decide⟩
def src2 : BitField := ⟨11, 14, by decide, by decide⟩
def offset : BitField := ⟨0, 10, by decide, by decide⟩

end Layout

/-- Why a word is no instruction. -/
inductive DecodeError where
  | unknownOpcode (word : Word)
  deriving DecidableEq, Repr

/-- What is said about a word that is no instruction. -/
def DecodeError.message : DecodeError → String
  | .unknownOpcode word =>
    let opcode := (Layout.opcode.extract word).toNat
    s!"unknown opcode {opcode} in instruction word 0x{word.hex.string}"

namespace Instr

/-- The word of an instruction. A register number or offset too big for its place is cut. -/
def encode (i : Instr) : Word :=
  let word := Layout.opcode.insert (BitVec.ofNat wordSize i.op.code) 0
  let word := Layout.cond.insert (i.cond.bits.setWidth wordSize) word
  let word := Layout.target.insert (BitVec.ofNat wordSize i.target) word
  let word := Layout.src1.insert (BitVec.ofNat wordSize i.src1) word
  let word := Layout.src2.insert (BitVec.ofNat wordSize i.src2) word
  Layout.offset.insert (Word.ofInt i.offset) word

/-- The instruction of a word. -/
def decode (word : Word) : Except DecodeError Instr :=
  match Opcode.ofCode? (Layout.opcode.extract word).toNat with
  | none => .error (.unknownOpcode word)
  | some op => .ok {
      op
      cond := Cond.ofNat (Layout.cond.extract word).toNat
      target := (Layout.target.extract word).toNat
      src1 := (Layout.src1.extract word).toNat
      src2 := (Layout.src2.extract word).toNat
      offset := (extendSign Layout.offset.width (Layout.offset.extract word)).toInt }

end Instr

end DuckMachine
