import DuckMachine.Word.BitField
import Mathlib.Algebra.Ring.Nat

/-
  Laws of bit fields.

  Both operations are described bit by bit. An insertion replaces the bits of its field and keeps
  the others; an extraction moves the bits of its field down and clears the others. What was
  inserted is extracted again cut to the width, and fields without a common bit do not see each
  other.
-/

namespace DuckMachine

namespace BitField

theorem lo_add_width (f : BitField) : f.lo + f.width = f.hi + 1 := by
  have := f.lo_le_hi
  unfold width
  omega

theorem width_le (f : BitField) : f.width ≤ wordSize := by
  have := f.lo_add_width
  have := f.hi_lt
  omega

/-- Whether a bit belongs to a field. -/
def Covers (f : BitField) (i : Nat) : Prop := f.lo ≤ i ∧ i ≤ f.hi

instance (f : BitField) (i : Nat) : Decidable (f.Covers i) := inferInstanceAs (Decidable (_ ∧ _))

theorem getLsbD_mask (f : BitField) (i : Nat) : f.mask.getLsbD i = decide (f.Covers i) := by
  have := f.lo_add_width
  have := f.hi_lt
  rw [mask, BitVec.getLsbD_shiftLeft, BitVec.getLsbD_ofNat, Nat.one_shiftLeft,
    Nat.testBit_two_pow_sub_one]
  simp only [← decide_not, ← Bool.decide_and, Covers]
  congr 1
  exact propext ⟨by omega, by omega⟩

theorem getLsbD_insert (f : BitField) (v x : Word) (i : Nat) :
    (f.insert v x).getLsbD i =
      if f.Covers i then v.getLsbD (i - f.lo) else x.getLsbD i := by
  simp only [insert, BitVec.getLsbD_or, BitVec.getLsbD_and, BitVec.getLsbD_not,
    BitVec.getLsbD_shiftLeft, getLsbD_mask]
  by_cases h : f.Covers i
  · have := f.hi_lt
    have inside : i < wordSize := by have := h.2; omega
    have above : ¬ i < f.lo := by have := h.1; omega
    simp [h, inside, above]
  · by_cases inside : i < wordSize
    · simp [h, inside]
    · simp [h, inside, BitVec.getLsbD_of_ge x i (by omega)]

theorem getLsbD_extract (f : BitField) (x : Word) (i : Nat) :
    (f.extract x).getLsbD i = (decide (i < f.width) && x.getLsbD (f.lo + i)) := by
  have := f.lo_add_width
  rw [extract, BitVec.getLsbD_ushiftRight, BitVec.getLsbD_and, getLsbD_mask, Bool.and_comm]
  congr 1
  simp only [Covers]
  exact decide_eq_decide.mpr (by omega)

/-- The low bits of a word, as many as a field holds. -/
def cut (f : BitField) (v : Word) : Word := (v.setWidth f.width).setWidth wordSize

theorem getLsbD_cut (f : BitField) (v : Word) (i : Nat) :
    (f.cut v).getLsbD i = (decide (i < f.width) && v.getLsbD i) := by
  have := f.width_le
  rw [cut, BitVec.getLsbD_setWidth, BitVec.getLsbD_setWidth, ← Bool.and_assoc]
  congr 1
  simp only [← Bool.decide_and, decide_eq_decide]
  omega

theorem toNat_cut (f : BitField) (v : Word) : (f.cut v).toNat = v.toNat % 2 ^ f.width := by
  rw [cut, BitVec.toNat_setWidth, BitVec.toNat_setWidth]
  refine Nat.mod_eq_of_lt (Nat.lt_of_lt_of_le (Nat.mod_lt _ (Nat.two_pow_pos _)) ?_)
  exact Nat.pow_le_pow_right (by decide) f.width_le

theorem toNat_extract (f : BitField) (x : Word) :
    (f.extract x).toNat = x.toNat / 2 ^ f.lo % 2 ^ f.width := by
  have same : f.extract x = f.cut (x >>> f.lo) := by
    refine BitVec.eq_of_getLsbD_eq fun i _ => ?_
    rw [getLsbD_extract, getLsbD_cut, BitVec.getLsbD_ushiftRight]
  rw [same, toNat_cut, BitVec.toNat_ushiftRight, Nat.shiftRight_eq_div_pow]

theorem toNat_extract_lt (f : BitField) (x : Word) : (f.extract x).toNat < 2 ^ f.width := by
  rw [toNat_extract]
  exact Nat.mod_lt _ (Nat.two_pow_pos _)

/-- What was inserted into a field is extracted from it, cut to its width. -/
theorem extract_insert (f : BitField) (v x : Word) : f.extract (f.insert v x) = f.cut v := by
  refine BitVec.eq_of_getLsbD_eq fun i _ => ?_
  rw [getLsbD_extract, getLsbD_insert, getLsbD_cut]
  by_cases h : i < f.width
  · have := f.lo_add_width
    have covers : f.Covers (f.lo + i) := ⟨by omega, by omega⟩
    rw [if_pos covers, Nat.add_sub_cancel_left]
  · simp [h]

/-- An insertion into one field is not seen in a field that has no bit with it in common. -/
theorem extract_insert_disjoint {f g : BitField} (apart : f.hi < g.lo ∨ g.hi < f.lo)
    (v x : Word) : f.extract (g.insert v x) = f.extract x := by
  refine BitVec.eq_of_getLsbD_eq fun i _ => ?_
  rw [getLsbD_extract, getLsbD_extract, getLsbD_insert]
  by_cases h : i < f.width
  · have := f.lo_add_width
    have outside : ¬ g.Covers (f.lo + i) := by
      rintro ⟨low, high⟩
      omega
    rw [if_neg outside]
  · simp [h]

/-- An insertion of bits that a word has in the field already copies them from that word. -/
theorem getLsbD_insert_of_cut {f : BitField} {v w : Word} (h : f.cut v = f.extract w) (x : Word)
    (i : Nat) :
    (f.insert v x).getLsbD i = if f.Covers i then w.getLsbD i else x.getLsbD i := by
  rw [getLsbD_insert]
  split
  · next covers =>
    have := f.lo_add_width
    obtain ⟨low, high⟩ := covers
    have inside : i - f.lo < f.width := by omega
    have bit := congrArg (BitVec.getLsbD · (i - f.lo)) h
    simpa only [getLsbD_cut, getLsbD_extract, inside, decide_true, Bool.true_and,
      Nat.add_sub_cancel' low] using bit
  · rfl

end BitField

/-! ## Sign extension -/

theorem getLsbD_pred {width : Nat} {field : Word} (small : field.toNat < 2 * 2 ^ (width - 1)) :
    field.getLsbD (width - 1) = decide (2 ^ (width - 1) ≤ field.toNat) := by
  rw [BitVec.getLsbD, Nat.testBit_eq_decide_div_mod_eq, decide_eq_decide]
  have quotient : field.toNat / 2 ^ (width - 1) < 2 := by
    rw [Nat.div_lt_iff_lt_mul (Nat.two_pow_pos _)]
    exact small
  constructor
  · intro odd
    have positive : field.toNat / 2 ^ (width - 1) ≠ 0 := by
      intro zero
      rw [zero] at odd
      exact absurd odd (by decide)
    exact (Nat.div_pos_iff.mp (Nat.pos_of_ne_zero positive)).2
  · intro large
    have := Nat.div_pos large (Nat.two_pow_pos _)
    omega

/-- A number without bits above the width, read in two's complement of that width. -/
theorem toInt_extendSign {width : Nat} (pos : 0 < width) (le : width ≤ wordSize) {field : Word}
    (small : field.toNat < 2 ^ width) :
    (extendSign width field).toInt = (field.toNat : Int).bmod (2 ^ width) := by
  obtain ⟨half, rfl⟩ : ∃ half, width = half + 1 := ⟨width - 1, by omega⟩
  have bound : 2 ^ half ≤ 2 ^ 31 := Nat.pow_le_pow_right (by decide) (Nat.le_of_succ_le_succ le)
  have double : 2 ^ (half + 1) = 2 * 2 ^ half := by rw [Nat.pow_succ, Nat.mul_comm]
  have size : 2 ^ wordSize = 4294967296 := by decide
  rw [double] at small
  rw [extendSign, getLsbD_pred small, Nat.add_sub_cancel, double]
  by_cases negative : 2 ^ half ≤ field.toNat
  · rw [decide_eq_true negative, if_pos rfl, BitVec.toInt_eq_toNat_cond, BitVec.toNat_sub,
      BitVec.toNat_twoPow, double, size, Int.bmod_def, Int.emod_eq_of_lt (by omega) (by omega)]
    split <;> split <;> omega
  · rw [decide_eq_false negative, if_neg (by decide), BitVec.toInt_eq_toNat_of_lt (by omega),
      Int.bmod_eq_of_le_mul_two (by omega) (by omega)]

end DuckMachine
