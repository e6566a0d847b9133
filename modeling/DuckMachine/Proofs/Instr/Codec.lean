import DuckMachine.Instr.Codec
import DuckMachine.Proofs.Word.FieldLaws

/-
  Instructions and their words.

  Decoding an encoded instruction gives it back with its registers reduced modulo 16 and its offset
  to 11 bits in two's complement (`decode_encode`), so an encodable instruction comes back
  unchanged. In the other direction a word that decodes is the encoding of what it decodes to
  (`encode_of_decode`), because the six fields cover the word.
-/

namespace DuckMachine.Instr

open BitField

/-- The instruction that fits its word and agrees with `i` in the bits that the word holds. -/
def reduce (i : Instr) : Instr :=
  { i with
    target := i.target % registerCount
    src1 := i.src1 % registerCount
    src2 := i.src2 % registerCount
    offset := i.offset.bmod 2048 }

theorem encodable_reduce (i : Instr) : i.reduce.Encodable := by
  have lower := Int.le_bmod (x := i.offset) (m := 2048) (by decide)
  have upper := Int.bmod_lt (x := i.offset) (m := 2048) (by decide)
  refine ⟨Nat.mod_lt _ (by decide), Nat.mod_lt _ (by decide), Nat.mod_lt _ (by decide), ?_, ?_⟩
  · exact lower
  · exact Int.le_of_lt_add_one upper

theorem reduce_of_encodable {i : Instr} (h : i.Encodable) : i.reduce = i := by
  obtain ⟨target, src1, src2, lower, upper⟩ := h
  unfold reduce
  rw [Nat.mod_eq_of_lt target, Nat.mod_eq_of_lt src1, Nat.mod_eq_of_lt src2,
    Int.bmod_eq_of_le_mul_two (by omega) (by omega)]

/-! ## The fields of an encoded instruction -/

theorem extract_opcode_encode (i : Instr) :
    (Layout.opcode.extract i.encode).toNat = i.op.code := by
  have cut : Layout.opcode.extract i.encode = Layout.opcode.cut (BitVec.ofNat _ i.op.code) := by
    simp only [encode]
    rw [extract_insert_disjoint (by decide), extract_insert_disjoint (by decide),
      extract_insert_disjoint (by decide), extract_insert_disjoint (by decide),
      extract_insert_disjoint (by decide), extract_insert]
  rw [cut, toNat_cut]
  cases i.op <;> rfl

theorem extract_cond_encode (i : Instr) :
    (Layout.cond.extract i.encode).toNat = i.cond.bits.toNat := by
  have cut : Layout.cond.extract i.encode = Layout.cond.cut (i.cond.bits.setWidth _) := by
    simp only [encode]
    rw [extract_insert_disjoint (by decide), extract_insert_disjoint (by decide),
      extract_insert_disjoint (by decide), extract_insert_disjoint (by decide), extract_insert]
  have small : i.cond.bits.toNat < 2 ^ 4 := i.cond.bits.isLt
  rw [cut, toNat_cut, BitVec.toNat_setWidth]
  change i.cond.bits.toNat % 2 ^ 32 % 2 ^ 4 = _
  omega

/-- A register number is cut to four bits. -/
theorem toNat_cut_register {f : BitField} (four : f.width = 4) (number : Nat) :
    (f.cut (BitVec.ofNat wordSize number)).toNat = number % registerCount := by
  rw [toNat_cut, four, BitVec.toNat_ofNat]
  change number % 2 ^ 32 % 2 ^ 4 = number % 16
  omega

theorem extract_target_encode (i : Instr) :
    (Layout.target.extract i.encode).toNat = i.target % registerCount := by
  rw [← toNat_cut_register (f := Layout.target) rfl]
  simp only [encode]
  rw [extract_insert_disjoint (by decide), extract_insert_disjoint (by decide),
    extract_insert_disjoint (by decide), extract_insert]

theorem extract_src1_encode (i : Instr) :
    (Layout.src1.extract i.encode).toNat = i.src1 % registerCount := by
  rw [← toNat_cut_register (f := Layout.src1) rfl]
  simp only [encode]
  rw [extract_insert_disjoint (by decide), extract_insert_disjoint (by decide), extract_insert]

theorem extract_src2_encode (i : Instr) :
    (Layout.src2.extract i.encode).toNat = i.src2 % registerCount := by
  rw [← toNat_cut_register (f := Layout.src2) rfl]
  simp only [encode]
  rw [extract_insert_disjoint (by decide), extract_insert]

theorem offset_width : Layout.offset.width = 11 := rfl

theorem extendSign_extract (w : Word) :
    (extendSign Layout.offset.width (Layout.offset.extract w)).toInt =
      ((Layout.offset.extract w).toNat : Int).bmod 2048 :=
  toInt_extendSign (by decide) (by decide) (toNat_extract_lt _ _)

theorem extract_offset_encode (i : Instr) :
    (extendSign Layout.offset.width (Layout.offset.extract i.encode)).toInt =
      i.offset.bmod 2048 := by
  simp only [encode]
  exact toInt_extendSign_insert Layout.offset i.offset _

/-! ## Decoding and encoding -/

/-- Decoding an encoded instruction gives it back, each part cut to its place in the word. -/
theorem decode_encode (i : Instr) : decode i.encode = .ok i.reduce := by
  unfold decode
  rw [extract_opcode_encode, Opcode.ofCode?_code]
  simp only [extract_cond_encode, extract_target_encode, extract_src1_encode, extract_src2_encode,
    extract_offset_encode, Cond.ofNat, BitVec.ofNat_toNat, BitVec.setWidth_eq, reduce]

theorem decode_encode_of_encodable {i : Instr} (h : i.Encodable) : decode i.encode = .ok i := by
  rw [decode_encode, reduce_of_encodable h]

theorem decode_eq_ok {w : Word} {i : Instr} (h : decode w = .ok i) :
    i.op.code = (Layout.opcode.extract w).toNat ∧
      i.cond = Cond.ofNat (Layout.cond.extract w).toNat ∧
      i.target = (Layout.target.extract w).toNat ∧
      i.src1 = (Layout.src1.extract w).toNat ∧
      i.src2 = (Layout.src2.extract w).toNat ∧
      i.offset = ((Layout.offset.extract w).toNat : Int).bmod 2048 := by
  unfold decode at h
  split at h
  · cases h
  · next op known =>
    simp only [Except.ok.injEq] at h
    subst h
    exact ⟨Opcode.code_of_ofCode? known, rfl, rfl, rfl, rfl, extendSign_extract w⟩

theorem toNat_extract_opcode (w : Word) : (Layout.opcode.extract w).toNat = (w >>> 27).toNat := by
  have small : w.toNat / 2 ^ 27 < 2 ^ 5 := by
    have := w.isLt
    simp only [wordSize] at this
    omega
  rw [toNat_extract, BitVec.toNat_ushiftRight, Nat.shiftRight_eq_div_pow]
  exact Nat.mod_eq_of_lt small

/-- A word does not decode if and only if the number in its top five bits is above 9. -/
theorem decode_eq_error_iff {w : Word} {reason : DecodeError} :
    decode w = .error reason ↔ 9 < (w >>> 27).toNat ∧ reason = .unknownOpcode w := by
  have unknown : Opcode.ofCode? (w >>> 27).toNat = none ↔ 9 < (w >>> 27).toNat :=
    List.getElem?_eq_none_iff
  rw [decode, toNat_extract_opcode, ← unknown]
  cases Opcode.ofCode? (w >>> 27).toNat with
  | none => simp [eq_comm]
  | some op => simp

/-- A field into which its own content is inserted as a number. -/
theorem cut_ofNat_extract (f : BitField) (w : Word) :
    f.cut (BitVec.ofNat wordSize (f.extract w).toNat) = f.extract w := by
  rw [BitVec.ofNat_toNat, BitVec.setWidth_eq, cut_extract]

theorem cut_cond_extract (w : Word) :
    Layout.cond.cut ((Cond.ofNat (Layout.cond.extract w).toNat).bits.setWidth wordSize) =
      Layout.cond.extract w := by
  have small : (Layout.cond.extract w).toNat < 2 ^ 4 := toNat_extract_lt _ _
  apply BitVec.eq_of_toNat_eq
  rw [toNat_cut, BitVec.toNat_setWidth, Cond.ofNat, BitVec.toNat_ofNat]
  change (Layout.cond.extract w).toNat % 2 ^ 4 % 2 ^ 32 % 2 ^ 4 = _
  omega

theorem cut_offset_extract (w : Word) :
    Layout.offset.cut (Word.ofInt (((Layout.offset.extract w).toNat : Int).bmod 2048)) =
      Layout.offset.extract w := by
  have small : (Layout.offset.extract w).toNat < 2048 := toNat_extract_lt _ _
  apply BitVec.eq_of_toNat_eq
  rw [toNat_cut, Word.ofInt, BitVec.toNat_ofInt, offset_width, Int.bmod_def]
  simp only [wordSize]
  split <;> omega

/-- A word that decodes is the encoding of what it decodes to. -/
theorem encode_of_decode {w : Word} {i : Instr} (h : decode w = .ok i) : i.encode = w := by
  obtain ⟨op, cond, target, src1, src2, offset⟩ := decode_eq_ok h
  refine BitVec.eq_of_getLsbD_eq fun j inside => ?_
  simp only [encode, op, cond, target, src1, src2, offset]
  rw [getLsbD_insert_of_cut (cut_offset_extract w), getLsbD_insert_of_cut (cut_ofNat_extract _ w),
    getLsbD_insert_of_cut (cut_ofNat_extract _ w), getLsbD_insert_of_cut (cut_ofNat_extract _ w),
    getLsbD_insert_of_cut (cut_cond_extract w), getLsbD_insert_of_cut (cut_ofNat_extract _ w)]
  -- Every bit belongs to one of the six fields.
  simp only [Covers, Layout.offset, Layout.src2, Layout.src1, Layout.target, Layout.cond,
    Layout.opcode]
  have last : j ≤ 31 := Nat.le_of_lt_succ inside
  grind

theorem encodable_of_decode {w : Word} {i : Instr} (h : decode w = .ok i) : i.Encodable := by
  have again := decode_encode i
  rw [encode_of_decode h, h, Except.ok.injEq] at again
  rw [again]
  exact encodable_reduce i

/-- Every other word decodes, to an instruction that fits a word and is encoded as this one. -/
theorem exists_decode {w : Word} (h : ¬9 < (w >>> 27).toNat) :
    ∃ i, decode w = .ok i ∧ i.encode = w ∧ i.Encodable := by
  cases decoded : decode w with
  | error reason => exact absurd (decode_eq_error_iff.mp decoded).1 h
  | ok i => exact ⟨i, rfl, encode_of_decode decoded, encodable_of_decode decoded⟩

/-- An instruction survives its word if and only if it fits the word. -/
theorem decode_encode_eq_self_iff {i : Instr} : decode i.encode = .ok i ↔ i.Encodable :=
  ⟨encodable_of_decode, decode_encode_of_encodable⟩

end DuckMachine.Instr
