import DuckMachine.Proofs.Word.FieldLaws

/-
  Sign extension of words that are wider than the field.

  The result always agrees with its argument modulo two to the width. But the bits above the width
  are kept and not cleared: where they stand in the way, the result is not the two's complement
  reading of the bits below, and no two words have the same result (`extendSign_inj`). The reading is
  right for exactly the words without such bits (`signExtend_low_bits_iff`), and these are all that
  the extraction of a field ever passes on.
-/

namespace DuckMachine

/-- Both readings of a word agree modulo a power of two that divides the number of words. -/
theorem toInt_emod_two_pow {width : Nat} (fits : width ≤ wordSize) (x : Word) :
    x.toInt % (2 ^ width : Nat) = x.toNat % (2 ^ width : Nat) := by
  have divides : ((2 ^ width : Nat) : Int) ∣ ((2 ^ wordSize : Nat) : Int) :=
    Int.natCast_dvd_natCast.mpr (Nat.pow_dvd_pow 2 fits)
  rw [BitVec.toInt_eq_toNat_bmod, ← Int.emod_emod_of_dvd _ divides, Int.bmod_emod,
    Int.emod_emod_of_dvd _ divides]

/-- Sign extension keeps the bits below the width. -/
theorem toInt_extendSign_emod {width : Nat} (fits : width ≤ wordSize) (field : Word) :
    (extendSign width field).toInt % (2 ^ width : Nat) = field.toNat % (2 ^ width : Nat) := by
  have divides : ((2 ^ width : Nat) : Int) ∣ ((2 ^ wordSize : Nat) : Int) :=
    Int.natCast_dvd_natCast.mpr (Nat.pow_dvd_pow 2 fits)
  unfold extendSign
  split
  · have power : (BitVec.twoPow wordSize width).toInt % (2 ^ width : Nat) = 0 := by
      rw [toInt_emod_two_pow fits, BitVec.toNat_twoPow, Int.natCast_emod,
        Int.emod_emod_of_dvd _ divides, Int.emod_self]
    rw [BitVec.toInt_sub, ← Int.emod_emod_of_dvd _ divides, Int.bmod_emod,
      Int.emod_emod_of_dvd _ divides, Int.sub_emod, power, sub_zero, Int.emod_emod,
      toInt_emod_two_pow fits]
  · exact toInt_emod_two_pow fits field

/-- The result of sign extension determines its argument, bits above the width included. -/
theorem extendSign_inj {width : Nat} (positive : 0 < width) (fits : width ≤ wordSize)
    {field other : Word} :
    extendSign width field = extendSign width other ↔ field = other := by
  refine ⟨fun same => ?_, congrArg _⟩
  have low : field.toNat % 2 ^ width = other.toNat % 2 ^ width := by
    have agree := toInt_extendSign_emod fits field
    rw [same, toInt_extendSign_emod fits other] at agree
    exact_mod_cast agree.symm
  have sign : field.getLsbD (width - 1) = other.getLsbD (width - 1) := by
    have inside : width - 1 < width := Nat.sub_lt positive Nat.one_pos
    have bit := congrArg (Nat.testBit · (width - 1)) low
    simpa only [Nat.testBit_mod_two_pow, inside, decide_true, Bool.true_and,
      BitVec.testBit_toNat] using bit
  unfold extendSign at same
  rw [sign] at same
  split at same
  · exact (BitVec.sub_left_inj _).mp same
  · exact same

/-- The result of sign extension is the two's complement reading of the bits below the width if and
    only if there are no others. -/
theorem toInt_extendSign_eq_iff {width : Nat} (positive : 0 < width) (fits : width ≤ wordSize)
    {field : Word} {n : Int} (low : -2 ^ (width - 1) ≤ n) (high : n < 2 ^ (width - 1))
    (agrees : n % 2 ^ width = field.toNat % 2 ^ width) :
    (extendSign width field).toInt = n ↔ field.toNat < 2 ^ width := by
  let f : BitField := ⟨0, width - 1, Nat.zero_le _, by omega⟩
  have size : f.width = width := Nat.sub_add_cancel positive
  have reading : (field.toNat : Int).bmod (2 ^ width) = n := by
    rw [← size, f.bmod_eq_iff, f.minSigned_eq, f.maxSigned_eq, size]
    exact ⟨⟨low, Int.le_sub_one_of_lt high⟩, agrees⟩
  constructor
  · -- The bits below the width alone have this reading, so they are the whole word.
    intro same
    have small : (f.cut field).toNat < 2 ^ width := by
      rw [BitField.toNat_cut, size]
      exact Nat.mod_lt _ (Nat.two_pow_pos _)
    have cut : (extendSign width (f.cut field)).toInt = n := by
      rw [toInt_extendSign positive fits small, BitField.toNat_cut, size, Int.natCast_emod,
        Int.emod_bmod, reading]
    have whole := (extendSign_inj positive fits).mp (BitVec.eq_of_toInt_eq (same.trans cut.symm))
    rwa [← whole] at small
  · intro small
    rw [toInt_extendSign positive fits small, reading]

/-- Sign extension of any word from a width that has room for a sign. The result agrees with the
    word modulo two to the width. It is the number of the two's complement range that does so if
    and only if the word has no bit above the width, and no other word has the same result. -/
theorem signExtend_low_bits_iff (field : Word) {width : Nat} (wide : 2 ≤ width)
    (fits : width ≤ wordSize) :
    ∃ r, signExtend field width = .ok r ∧
      r.toInt % 2 ^ width = field.toNat % 2 ^ width ∧
      (∀ n : Int, -2 ^ (width - 1) ≤ n → n < 2 ^ (width - 1) →
        n % 2 ^ width = field.toNat % 2 ^ width → (r.toInt = n ↔ field.toNat < 2 ^ width)) ∧
      ∀ other, signExtend other width = .ok r ↔ other = field := by
  have positive : 0 < width := Nat.lt_of_lt_of_le (by decide) wide
  have extend (other : Word) : signExtend other width = .ok (extendSign width other) := by
    rw [signExtend, if_neg (Nat.not_lt.mpr wide), if_neg (Nat.not_lt.mpr fits)]
  refine ⟨extendSign width field, extend field, ?_, ?_, ?_⟩
  · exact_mod_cast toInt_extendSign_emod fits field
  · intro n low high agrees
    exact toInt_extendSign_eq_iff positive fits low high agrees
  · intro other
    rw [extend, Except.ok.injEq, extendSign_inj positive fits]

/-- With all bits of a word set, sign extension from three bits gives -9, which three bits cannot
    hold. The bits below the width are those of 7, from which it gives -1. -/
theorem signExtend_reads_high_bits :
    ∃ r s, signExtend 0xFFFFFFFF 3 = .ok r ∧ signExtend 0b111 3 = .ok s ∧
      (0xFFFFFFFF : Word).toNat % 2 ^ 3 = (0b111 : Word).toNat % 2 ^ 3 ∧
      r.toInt = -9 ∧ s.toInt = -1 ∧ ¬(-2 ^ 2 ≤ r.toInt ∧ r.toInt < 2 ^ 2) :=
  ⟨Word.ofInt (-9), Word.ofInt (-1), by decide, by decide, by decide, by decide, by decide,
    by decide⟩

theorem signExtend_low_bits_iff_threeBits :
    2 ≤ 3 ∧ 3 ≤ wordSize ∧ (0b100 : Word).toNat < 2 ^ 3 ∧
      (∃ r, signExtend 0b100 3 = .ok r ∧ r.toInt = -4) ∧
      ∃ r, signExtend 0b1100 3 = .ok r ∧ r.toInt ≠ -4 := by
  obtain ⟨r, extended, -, reading, -⟩ :=
    signExtend_low_bits_iff 0b100 (show 2 ≤ 3 by decide) (show 3 ≤ wordSize by decide)
  obtain ⟨s, beyond, -, misread, -⟩ :=
    signExtend_low_bits_iff 0b1100 (show 2 ≤ 3 by decide) (show 3 ≤ wordSize by decide)
  have four := (reading (-4) (by decide) (by decide) (by decide)).mpr (by decide)
  have other := (misread (-4) (by decide) (by decide) (by decide)).not.mpr (by decide)
  exact ⟨by decide, by decide, by decide, ⟨r, extended, four⟩, s, beyond, other⟩

end DuckMachine
