import DuckMachine.Instr.Codec
import DuckMachine.Proofs.Word.BitField
import Mathlib.Algebra.Ring.Int.Defs

/-
  Bit fields as variables.

  A field of a word is read and written like a variable: a read gives what was written last, cut to
  the width, writing what is there already changes nothing (`insert_extract`), and only the last of
  several writes counts (`insert_insert`). Fields without a common bit are independent variables
  (`insert_comm`). All of this is shown bit by bit, from what an insertion and an extraction do with
  one bit. Read with sign, a field gives the number of its range that agrees with the one written
  modulo the size of the range (`toInt_extendSign_insert`).
-/

namespace DuckMachine.BitField

/-- The fields are the ranges of bits that are not empty and lie within a word. -/
theorem make_eq_ok_iff {lo hi : Nat} {f : BitField} :
    make lo hi = .ok f ↔ f.lo = lo ∧ f.hi = hi := by
  constructor
  · intro made
    unfold make at made
    split at made
    · split at made
      · rw [← Except.ok.inj made]
        exact ⟨rfl, rfl⟩
      · cases made
    · cases made
  · rintro ⟨rfl, rfl⟩
    rw [make, dif_pos f.lo_le_hi, dif_pos f.hi_lt]

/-! ## Without sign -/

/-- A write leaves the bits outside of its field alone. -/
theorem getLsbD_insert_outside (f : BitField) (v x : Word) {i : Nat} (h : i < f.lo ∨ f.hi < i) :
    (f.insert v x).getLsbD i = x.getLsbD i := by
  have uncovered : ¬f.Covers i := by
    rintro ⟨low, high⟩
    omega
  rw [getLsbD_insert, if_neg uncovered]

theorem cut_extract (f : BitField) (x : Word) : f.cut (f.extract x) = f.extract x := by
  apply BitVec.eq_of_toNat_eq
  rw [toNat_cut, Nat.mod_eq_of_lt (toNat_extract_lt f x)]

/-- Writing what is in a field already changes nothing. -/
theorem insert_extract (f : BitField) (x : Word) : f.insert (f.extract x) x = x := by
  refine BitVec.eq_of_getLsbD_eq fun i _ => ?_
  rw [getLsbD_insert_of_cut (f.cut_extract x), ite_self]

/-- Of two writes to a field the second counts. -/
theorem insert_insert (f : BitField) (u v x : Word) :
    f.insert v (f.insert u x) = f.insert v x := by
  refine BitVec.eq_of_getLsbD_eq fun i _ => ?_
  simp only [getLsbD_insert]
  by_cases covers : f.Covers i
  · simp only [if_pos covers]
  · simp only [if_neg covers]

/-- Writes to fields without a common bit can be made in either order. -/
theorem insert_comm {f g : BitField} (apart : f.hi < g.lo ∨ g.hi < f.lo) (u v x : Word) :
    f.insert v (g.insert u x) = g.insert u (f.insert v x) := by
  refine BitVec.eq_of_getLsbD_eq fun i _ => ?_
  simp only [getLsbD_insert]
  by_cases covers : f.Covers i
  · have uncovered : ¬g.Covers i := by
      rintro ⟨low, high⟩
      obtain ⟨low', high'⟩ := covers
      omega
    simp only [if_pos covers, if_neg uncovered]
  · simp only [if_neg covers]

/-! ## With sign -/

theorem minSigned_eq (f : BitField) : f.minSigned = -2 ^ (f.width - 1) := by
  rw [minSigned, Nat.one_shiftLeft]
  push_cast
  rfl

theorem maxSigned_eq (f : BitField) : f.maxSigned = 2 ^ (f.width - 1) - 1 := by
  rw [maxSigned, Nat.one_shiftLeft]
  push_cast
  rfl

/-- The numbers of the range of a field are those that are their own remainder around zero. -/
theorem inRange_iff (f : BitField) (n : Int) :
    f.minSigned ≤ n ∧ n ≤ f.maxSigned ↔ n.bmod (2 ^ f.width) = n := by
  have double : 2 ^ f.width = 2 * 2 ^ (f.width - 1) := by
    rw [← Nat.pow_succ', width, Nat.add_sub_cancel]
  have positive : 0 < 2 ^ (f.width - 1) := Nat.two_pow_pos _
  rw [minSigned_eq, maxSigned_eq, double]
  constructor
  · rintro ⟨low, high⟩
    apply Int.bmod_eq_of_le_mul_two
    · push_cast
      omega
    · push_cast
      omega
  · intro same
    have low := Int.le_bmod (x := n) (m := 2 * 2 ^ (f.width - 1)) (by omega)
    have high := Int.bmod_lt (x := n) (m := 2 * 2 ^ (f.width - 1)) (by omega)
    rw [same] at low high
    push_cast at low high
    omega

/-- A number is read with sign as its remainder around zero. -/
theorem toInt_extendSign_insert (f : BitField) (s : Int) (x : Word) :
    (extendSign f.width (f.extract (f.insert (Word.ofInt s) x))).toInt =
      s.bmod (2 ^ f.width) := by
  have positive : 0 < f.width := Nat.succ_pos _
  have divides : ((2 ^ f.width : Nat) : Int) ∣ ((2 ^ wordSize : Nat) : Int) :=
    Int.natCast_dvd_natCast.mpr (Nat.pow_dvd_pow 2 f.width_le)
  have nonneg : 0 ≤ s % ((2 ^ wordSize : Nat) : Int) := Int.emod_nonneg _ (by decide)
  rw [toInt_extendSign positive f.width_le (toNat_extract_lt f _), extract_insert, toNat_cut,
    Word.ofInt, BitVec.toNat_ofInt, Int.natCast_emod, Int.toNat_of_nonneg nonneg,
    Int.emod_emod_of_dvd _ divides, Int.emod_bmod]

/-- The remainder around zero is the number of the range that has the same remainder. -/
theorem bmod_eq_iff (f : BitField) (s n : Int) :
    s.bmod (2 ^ f.width) = n ↔
      (f.minSigned ≤ n ∧ n ≤ f.maxSigned) ∧ n % 2 ^ f.width = s % 2 ^ f.width := by
  have size : ((2 ^ f.width : Nat) : Int) = 2 ^ f.width := by push_cast; rfl
  rw [inRange_iff, ← size]
  constructor
  · rintro rfl
    exact ⟨Int.bmod_bmod, Int.bmod_emod⟩
  · rintro ⟨own, agrees⟩
    rw [← own, ← Int.emod_bmod s, ← agrees, Int.emod_bmod]

/-- A field that is wide enough for a sign can be read with sign. -/
theorem extractSigned_eq {f : BitField} (wide : 2 ≤ f.width) (x : Word) :
    f.extractSigned x = .ok (extendSign f.width (f.extract x)) := by
  rw [extractSigned, signExtend, if_neg (Nat.not_lt.mpr wide), if_neg (Nat.not_lt.mpr f.width_le)]

/-! ## The laws together -/

/-- Every range of bits in a word is a field with these laws. It is read as what was written last,
    modulo two to the width; a write leaves all other bits alone, writing back what was read changes
    nothing, and a later write overrides an earlier one. Fields without a common bit are written in
    either order and do not see each other. A field of two bits or more is read with sign as the one
    number of its range that agrees with the number written, so that exactly the numbers of the
    range are read as they are. -/
theorem laws_of_make {lo hi : Nat} (ordered : lo ≤ hi) (inside : hi ≤ 31) :
    ∃ f, make lo hi = .ok f ∧ f.width = hi - lo + 1 ∧
      (∀ v x, (f.extract (f.insert v x)).toNat = v.toNat % 2 ^ f.width) ∧
      (∀ v x i, i < lo ∨ hi < i → (f.insert v x).getLsbD i = x.getLsbD i) ∧
      (∀ x, f.insert (f.extract x) x = x) ∧
      (∀ u v x, f.insert v (f.insert u x) = f.insert v x) ∧
      (∀ g : BitField, hi < g.lo ∨ g.hi < lo → ∀ u v x,
        f.insert v (g.insert u x) = g.insert u (f.insert v x) ∧
          f.extract (g.insert u x) = f.extract x ∧ g.extract (f.insert v x) = g.extract x) ∧
      (2 ≤ f.width → ∀ (s : Int) (x : Word), ∃ r,
        f.extractSigned (f.insert (Word.ofInt s) x) = .ok r ∧
          (∀ n, r.toInt = n ↔
            (f.minSigned ≤ n ∧ n ≤ f.maxSigned) ∧ n % 2 ^ f.width = s % 2 ^ f.width) ∧
          (r.toInt = s ↔ f.minSigned ≤ s ∧ s ≤ f.maxSigned)) := by
  have fits : hi < wordSize := Nat.lt_succ_of_le inside
  refine ⟨⟨lo, hi, ordered, fits⟩, make_eq_ok_iff.mpr ⟨rfl, rfl⟩, rfl, ?_, ?_, insert_extract _,
    insert_insert _, ?_, ?_⟩
  · intro v x
    rw [extract_insert, toNat_cut]
  · intro v x i outside
    exact getLsbD_insert_outside _ v x outside
  · intro g apart u v x
    exact ⟨insert_comm apart u v x, extract_insert_disjoint apart u x,
      extract_insert_disjoint apart.symm v x⟩
  · intro wide s x
    refine ⟨_, extractSigned_eq wide _, ?_, ?_⟩
    · intro n
      rw [toInt_extendSign_insert, bmod_eq_iff]
    · rw [toInt_extendSign_insert, inRange_iff]

theorem laws_of_make_threeBits :
    8 ≤ 10 ∧ 10 ≤ 31 ∧ ∃ f, make 8 10 = .ok f ∧ f.width = 3 ∧
      (∀ x, (f.extract (f.insert 0xFFF x)).toNat = 7) ∧
      (∀ x, (f.insert 0xFFF x).getLsbD 11 = x.getLsbD 11) ∧
      (∀ x, f.insert 5 (Layout.src2.insert 9 x) = Layout.src2.insert 9 (f.insert 5 x)) ∧
      ∃ r, f.extractSigned (f.insert (Word.ofInt 5) 0) = .ok r ∧ r.toInt = -3 := by
  obtain ⟨f, made, width, reads, outside, -, -, apart, signed⟩ :=
    laws_of_make (show 8 ≤ 10 by decide) (show 10 ≤ 31 by decide)
  obtain ⟨r, read, agrees, -⟩ := signed (by omega) 5 0
  have seven : ∀ x, (f.extract (f.insert 0xFFF x)).toNat = 7 := by
    intro x
    rw [reads, width]
    rfl
  refine ⟨by decide, by decide, f, made, width, seven, fun x => outside _ x _ (by decide),
    fun x => (apart Layout.src2 (by decide) _ _ x).1, r, read, (agrees _).mpr ?_⟩
  rw [minSigned_eq, maxSigned_eq, width]
  decide

end DuckMachine.BitField
