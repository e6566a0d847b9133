import DuckMachine.Proofs.Machine.Safety
import Mathlib.Algebra.Order.Floor.Ring
import Mathlib.Data.Int.Bitwise
import Mathlib.Data.Int.ModEq
import Mathlib.Data.Rat.Floor

/-
  Exact arithmetic.

  `exactResult` says what an operation comes to on integers of any size. The arithmetic unit comes
  to the same: on a word and the sum of a word and an offset every number on the way fits 64 bits,
  so that only the last step, the cut to a word, loses anything (`execute_exact`). For the bitwise
  operations this is so because the bits of an integer go on with its sign for ever: an operation on
  two numbers of 64 bits gives one of 64 bits (`holds_bitwise`), and the bits of the result are
  those of the exact one (`toInt_bitwise`).
-/

namespace DuckMachine.Alu

open Guarded

/-- The exact result of an operation on integers. The bits of an integer are those of its two's
    complement, which has no end. -/
def exactResult (op : Opcode) (l r : Int) : Except AluFault Int :=
  match op with
  | .halt => .ok 0
  | .load | .store | .add => .ok (l + r)
  | .sub => .ok (l - r)
  | .mul => .ok (l * r)
  | .div => if r = 0 then .error .divisionByZero else .ok ⌊(l : ℚ) / r⌋
  | .and => .ok (l.land r)
  | .or => .ok (l.lor r)
  | .xor => .ok (l.xor r)

/-! ## Quotients -/

/-- Rounding down is the floor of the rational quotient. -/
theorem fdiv_eq_floor (l r : Int) : l.fdiv r = ⌊(l : ℚ) / r⌋ := by
  rcases Int.le_total 0 r with positive | negative
  · obtain ⟨d, rfl⟩ := Int.eq_ofNat_of_zero_le positive
    rw [Int.fdiv_eq_ediv_of_nonneg l positive, Int.cast_natCast, Rat.floor_intCast_div_natCast]
  · obtain ⟨d, same⟩ := Int.eq_ofNat_of_zero_le (Int.neg_nonneg_of_nonpos negative)
    have turned : (l : ℚ) / r = ((-l : Int) : ℚ) / (d : ℚ) := by
      rw [← Int.cast_natCast, ← same, Int.cast_neg, Int.cast_neg, neg_div_neg_eq]
    rw [← Int.neg_fdiv_neg, same, Int.fdiv_eq_ediv_of_nonneg _ (Int.natCast_nonneg d), turned,
      Rat.floor_intCast_div_natCast]

/-! ## Bits -/

/-- An integer cut to some bits keeps these bits. -/
theorem getLsbD_ofInt (width : Nat) (n : Int) {i : Nat} (inside : i < width) :
    (BitVec.ofInt width n).getLsbD i = n.testBit i := by
  have natural (n : Nat) : (BitVec.ofNat width n).getLsbD i = n.testBit i := by
    rw [BitVec.getLsbD_ofNat, decide_eq_true inside, Bool.true_and]
  cases n with
  | ofNat n => exact natural n
  | negSucc n =>
    rw [BitVec.ofInt_negSucc_eq_not_ofNat, BitVec.getLsbD_not, natural, decide_eq_true inside,
      Bool.true_and]
    rfl

theorem holds_natCast_iff {n : Nat} : Holds n ↔ n < 2 ^ 63 := by
  unfold Holds
  omega

theorem holds_negSucc_iff {n : Nat} : Holds (Int.negSucc n) ↔ n < 2 ^ 63 := by
  unfold Holds
  omega

/-- Bitwise operations on numbers of 64 bits give numbers of 64 bits. -/
theorem holds_bitwise (f : Bool → Bool → Bool) {l r : Int} (hl : Holds l) (hr : Holds r) :
    Holds (Int.bitwise f l r) := by
  have natural (g : Bool → Bool → Bool) {a b : Nat} (ha : a < 2 ^ 63) (hb : b < 2 ^ 63) :
      Holds (Int.natBitwise g a b) := by
    unfold Int.natBitwise
    cases g false false with
    | true => exact holds_negSucc_iff.mpr (Nat.bitwise_lt_two_pow ha hb)
    | false => exact holds_natCast_iff.mpr (Nat.bitwise_lt_two_pow ha hb)
  -- A negative number has the bits of a natural number turned over.
  cases l with
  | ofNat a =>
    have ha := holds_natCast_iff.mp hl
    cases r with
    | ofNat b => exact natural f ha (holds_natCast_iff.mp hr)
    | negSucc b => exact natural (fun x y => f x (!y)) ha (holds_negSucc_iff.mp hr)
  | negSucc a =>
    have ha := holds_negSucc_iff.mp hl
    cases r with
    | ofNat b => exact natural (fun x y => f (!x) y) ha (holds_natCast_iff.mp hr)
    | negSucc b => exact natural (fun x y => f (!x) (!y)) ha (holds_negSucc_iff.mp hr)

/-- A bitwise operation on 64 bits is the operation on the numbers that they hold. -/
theorem toInt_bitwise {f : Bool → Bool → Bool} {l r : Int} {wide : Wide} (hl : Holds l)
    (hr : Holds r)
    (each : ∀ i, wide.getLsbD i =
      f ((BitVec.ofInt (2 * wordSize) l).getLsbD i) ((BitVec.ofInt (2 * wordSize) r).getLsbD i)) :
    wide.toInt = Int.bitwise f l r := by
  have cut : wide = BitVec.ofInt _ (Int.bitwise f l r) := by
    refine BitVec.eq_of_getLsbD_eq fun i inside => ?_
    rw [each, getLsbD_ofInt _ _ inside, getLsbD_ofInt _ _ inside, getLsbD_ofInt _ _ inside,
      Int.testBit_bitwise]
  rw [cut, toInt_wide (holds_bitwise f hl hr)]

/-! ## Operations -/

section

variable {l r : Int}

/-- The exact result of an operation on operands fits 64 bits. -/
theorem holds_exactResult {op : Opcode} (hl : Word.Signed l) (hr : Summed r) {x : Int}
    (h : exactResult op l r = .ok x) : Holds x := by
  have sum (same : (.ok (l + r) : Except AluFault Int) = .ok x) : Holds x :=
    Except.ok.inj same ▸ holds_add hl hr
  have bitwise (f : Bool → Bool → Bool) := holds_bitwise f (holds_of_signed hl) hr.holds
  cases op with
  | halt => exact Except.ok.inj h ▸ ⟨by decide, by decide⟩
  | load => exact sum h
  | store => exact sum h
  | add => exact sum h
  | sub => exact Except.ok.inj h ▸ holds_sub hl hr
  | mul => exact Except.ok.inj h ▸ holds_mul hl hr
  | div =>
    rw [exactResult] at h
    split at h
    · cases h
    · next nonzero =>
      rw [← Except.ok.inj h, ← fdiv_eq_floor]
      exact holds_fdiv hl nonzero
  | and =>
    rw [← Except.ok.inj h, ← Int.bitwise_and]
    exact bitwise and
  | or =>
    rw [← Except.ok.inj h, ← Int.bitwise_or]
    exact bitwise or
  | xor =>
    rw [← Except.ok.inj h, ← Int.bitwise_xor]
    exact bitwise xor

/-- On operands, all numbers on the way to the exact result fit 64 bits. -/
theorem compute_eq_exactResult (op : Opcode) (hl : Word.Signed l) (hr : Summed r) :
    Guarded.compute op l r = .ok (exactResult op l r) := by
  have held {n : Int} (h : Holds n) :
      ((hold n).map .ok : Except Crash (Except AluFault Int)) = .ok (.ok n) := by
    rw [hold_of_holds h]
    rfl
  have wide := holds_of_signed hl
  cases op with
  | halt => rfl
  | load => exact held (holds_add hl hr)
  | store => exact held (holds_add hl hr)
  | add => exact held (holds_add hl hr)
  | sub => exact held (holds_sub hl hr)
  | mul => exact held (holds_mul hl hr)
  | div =>
    rw [Guarded.compute, exactResult]
    by_cases zero : r = 0
    · rw [if_pos zero, if_pos zero]
    · rw [if_neg zero, if_neg zero, floorDiv_eq hl zero, fdiv_eq_floor]
      rfl
  | and =>
    rw [Guarded.compute, exactResult, ← Int.bitwise_and,
      toInt_bitwise (f := and) wide hr.holds fun _ => BitVec.getLsbD_and]
  | or =>
    rw [Guarded.compute, exactResult, ← Int.bitwise_or,
      toInt_bitwise (f := or) wide hr.holds fun _ => BitVec.getLsbD_or]
  | xor =>
    rw [Guarded.compute, exactResult, ← Int.bitwise_xor,
      toInt_bitwise (f := xor) wide hr.holds fun _ => BitVec.getLsbD_xor]

end

/-- The arithmetic unit comes to the exact result, cut to a word. -/
theorem execute_eq_exactResult (op : Opcode) (left : Word) {r : Int} (hr : Summed r) :
    execute op left (BitVec.ofInt _ r) =
      (exactResult op left.toInt r).map fun x => (Word.ofInt x, exactOutcome x) := by
  have small := Word.signed_toInt left
  have guarded : Guarded.alu op left r = .ok (execute op left (BitVec.ofInt _ r)) :=
    alu_eq op left hr
  rw [Guarded.alu, compute_eq_exactResult op small hr] at guarded
  rw [← Except.ok.inj guarded]
  cases result : exactResult op left.toInt r with
  | error fault => rfl
  | ok x => exact congrArg Except.ok (settle_ofInt (holds_exactResult small hr result))

/-- Only a division by zero has no exact result. -/
theorem exactResult_eq_error_iff {op : Opcode} {l r : Int} {fault : AluFault} :
    exactResult op l r = .error fault ↔ op = .div ∧ r = 0 := by
  obtain ⟨⟩ := fault
  cases op with
  | div =>
    rw [exactResult]
    by_cases zero : r = 0
    · simp [zero]
    · simp [zero]
  | _ => simp [exactResult]

/-- A word and an offset are added in 64 bits. -/
theorem operand_eq (base : Word) (offset : Int) :
    base.signExtend (2 * wordSize) + BitVec.ofInt _ offset =
      BitVec.ofInt _ (base.toInt + offset) := by
  rw [BitVec.ofInt_add]
  rfl

/-- A word agrees modulo 2^32 with the number that was cut to it. -/
theorem toInt_ofInt_modEq (n : Int) : (Word.ofInt n).toInt ≡ n [ZMOD 2 ^ wordSize] := by
  rw [Word.ofInt, BitVec.toInt_ofInt]
  exact Int.bmod_emod

/-- The arithmetic unit computes exactly. Its second operand is the sum of a word and an offset,
    formed without overflow. No number on the way overflows 64 bits either, only a division by an
    operand that is zero fails, and otherwise the result is the word that agrees with the exact
    result modulo 2^32, and the outcome is the sign of the exact result, or overflow if no word has
    this value. -/
theorem execute_exact (op : Opcode) (left base : Word) (offset : Int)
    (short : -1024 ≤ offset ∧ offset ≤ 1023) :
    let right : Wide := base.signExtend _ + BitVec.ofInt _ offset
    right.toInt = base.toInt + offset ∧
      Guarded.alu op left right.toInt = .ok (execute op left right) ∧
      (∀ fault, execute op left right = .error fault ↔ op = .div ∧ right.toInt = 0) ∧
      (¬(op = .div ∧ right.toInt = 0) →
        ∃ x result, exactResult op left.toInt right.toInt = .ok x ∧
          execute op left right = .ok (result, exactOutcome x) ∧
          result.toInt ≡ x [ZMOD 2 ^ wordSize]) := by
  have summed := summed_operand base short
  have value := toInt_wide summed.holds
  dsimp only
  rw [operand_eq, value]
  refine ⟨rfl, alu_eq op left summed, ?_, ?_⟩
  · intro fault
    have failed : exactResult op left.toInt (base.toInt + offset) = .error fault ↔
        op = .div ∧ base.toInt + offset = 0 := exactResult_eq_error_iff
    rw [execute_eq_exactResult op left summed, ← failed]
    cases exactResult op left.toInt (base.toInt + offset) with
    | error _ => simp [Except.map]
    | ok x => simp [Except.map]
  · intro defined
    cases result : exactResult op left.toInt (base.toInt + offset) with
    | error fault => exact absurd (exactResult_eq_error_iff.mp result) defined
    | ok x =>
      refine ⟨x, Word.ofInt x, rfl, ?_, toInt_ofInt_modEq x⟩
      rw [execute_eq_exactResult op left summed, result]
      rfl

/-- The least word and the least operand are both negative and share no bit of a word, so that a
    bitwise operation overflows. -/
theorem execute_exact_least :
    let right : Wide := (0x80000000#32).signExtend _ + BitVec.ofInt _ (-1024)
    right.toInt = -0x80000400 ∧
      exactResult .and (-0x80000000) (-0x80000400) = .ok (-0x100000000) ∧
      ∃ result : Word, execute .and 0x80000000#32 right = .ok (result, Cond.overflow) ∧
        result.toInt ≡ -0x100000000 [ZMOD 2 ^ wordSize] := by
  obtain ⟨formed, -, -, defined⟩ :=
    execute_exact .and 0x80000000#32 0x80000000#32 (-1024) (by decide)
  obtain ⟨x, result, found, executed, agrees⟩ := defined (by decide)
  have value : exactResult .and (-0x80000000) (-0x80000400) = .ok (-0x100000000) := by decide
  rw [formed] at found
  obtain rfl : -0x100000000 = x := Except.ok.inj (value.symm.trans found)
  exact ⟨formed, value, result, executed, agrees⟩

end DuckMachine.Alu
