import DuckMachine.Proofs.Asm.Meaning
import DuckMachine.Proofs.Text.Value

/-
  Numbers in source lines.

  Registers, offsets and data words are read as the numbers that their digits stand for and then
  tested for their ranges (`numbers_read_exactly`). The ranges all lie within a byte or within 64
  bits, and an offset beyond 64 bits is refused as text and not as a number. A reader that fails at
  the first number beyond a byte, or beyond 64 bits, therefore has the same results on digits of any
  length (`readRegister_within`, `readOffset_within`, `readData_within`).
-/

namespace DuckMachine

open Text Grammar Numeral

/-! ## Registers -/

/-- A register is `r` and digits, with or without a plus sign, that stand for its number. -/
theorem readRegister_eq_ok_iff {text : Text} {n : Nat} :
    readRegister text = .ok n ↔
      n < registerCount ∧ ∃ number, text = 'r' :: number ∧ IsUnsigned number n := by
  constructor
  · intro h
    unfold readRegister at h
    split at h
    · next number =>
      split at h
      · next m read =>
        split at h
        · next small =>
          obtain rfl := Except.ok.inj h
          exact ⟨small, number, rfl, unsigned?_eq_some_iff.mp read⟩
        · cases h
      · cases h
    · cases h
  · rintro ⟨small, number, rfl, written⟩
    simp only [readRegister, unsigned?_eq_some_iff.mpr written, if_pos small]

theorem badRegister_of_readRegister {text : Text} {e : FieldError}
    (h : readRegister text = .error e) : e = .badRegister text := by
  unfold readRegister at h
  split at h
  · split at h
    · split at h
      · cases h
      · exact (Except.error.inj h).symm
    · exact (Except.error.inj h).symm
  · exact (Except.error.inj h).symm

theorem readRegister_eq_error_iff {text : Text} {e : FieldError} :
    readRegister text = .error e ↔
      e = .badRegister text ∧ ¬∃ n, readRegister text = .ok n := by
  cases read : readRegister text with
  | ok n => simp
  | error e' =>
    obtain rfl := badRegister_of_readRegister read
    simp [eq_comm]

/-- A byte is enough to read a register. -/
theorem readRegister_within (number : Text) :
    readRegister ('r' :: number) =
      ((unsignedWithin? 255 number).filter (· < registerCount)).elim
        (.error (.badRegister ('r' :: number))) .ok := by
  have byte : ∀ n : Nat, decide (n < registerCount) = true → decide (n ≤ 255) = true := by
    intro n
    simp only [registerCount, decide_eq_true_eq]
    omega
  rw [unsignedWithin?_eq, filter_filter_of_imp byte]
  cases read : unsigned? number with
  | none => simp only [readRegister, read, Option.filter_none, Option.elim_none]
  | some n =>
    by_cases small : n < registerCount <;> simp [readRegister, read, small, Option.filter_some]

/-! ## Offsets -/

/-- Whether an integer has 64 bits. -/
def IsLong (v : Int) : Prop := -0x8000000000000000 ≤ v ∧ v < 0x8000000000000000

instance (v : Int) : Decidable (IsLong v) := inferInstanceAs (Decidable (_ ∧ _))

theorem long?_eq_some_iff {text : Text} {v : Int} :
    signedWithin? 0x7fffffffffffffff text = some v ↔ IsSigned text v ∧ IsLong v := by
  rw [signedWithin?_eq, Option.filter_eq_some_iff, signed?_eq_some_iff, decide_eq_true_eq, IsLong]
  refine and_congr_right fun _ => ?_
  push_cast
  omega

/-- 64 bits are enough to read an offset. -/
theorem readOffset_within (text : Text) :
    readOffset text =
      (signedWithin? 0x7fffffffffffffff text).elim (.error (.badOffset text)) checkOffset := by
  cases read : signedWithin? 0x7fffffffffffffff text with
  | some v =>
    obtain ⟨written, long⟩ := long?_eq_some_iff.mp read
    simp only [readOffset, signed?_eq_some_iff.mpr written, Option.elim_some]
    exact if_pos long
  | none =>
    rw [Option.elim_none, readOffset]
    split
    · next v written =>
      refine if_neg fun long => ?_
      rw [long?_eq_some_iff.mpr ⟨signed?_eq_some_iff.mp written, long⟩] at read
      cases read
    · rfl

theorem checkOffset_eq_error_iff {v : Int} {e : FieldError} :
    checkOffset v = .error e ↔ e = .offsetRange v ∧ ¬(-1024 ≤ v ∧ v ≤ 1023) := by
  unfold checkOffset
  split
  · next inside => simp [inside]
  · next outside => simp [outside, eq_comm]

/-- An offset is read as its number if that has 11 bits. -/
theorem readOffset_eq_ok_iff {text : Text} {v : Int} :
    readOffset text = .ok v ↔ IsSigned text v ∧ -1024 ≤ v ∧ v ≤ 1023 := by
  rw [readOffset_within]
  constructor
  · intro h
    cases read : signedWithin? 0x7fffffffffffffff text with
    | none => simp [read] at h
    | some u =>
      rw [read] at h
      obtain ⟨rfl, inside⟩ := bounds_of_checkOffset h
      exact ⟨(long?_eq_some_iff.mp read).1, inside⟩
  · rintro ⟨written, inside⟩
    have long : IsLong v := ⟨by omega, by omega⟩
    rw [long?_eq_some_iff.mpr ⟨written, long⟩]
    exact if_pos inside

/-- An offset that has 64 bits but not 11 is out of range. -/
theorem readOffset_eq_offsetRange_iff {text : Text} {v : Int} :
    readOffset text = .error (.offsetRange v) ↔
      IsSigned text v ∧ IsLong v ∧ ¬(-1024 ≤ v ∧ v ≤ 1023) := by
  rw [readOffset_within]
  constructor
  · intro h
    cases read : signedWithin? 0x7fffffffffffffff text with
    | none => simp [read] at h
    | some u =>
      rw [read] at h
      obtain ⟨same, outside⟩ := checkOffset_eq_error_iff.mp h
      obtain rfl := FieldError.offsetRange.inj same
      obtain ⟨written, long⟩ := long?_eq_some_iff.mp read
      exact ⟨written, long, outside⟩
  · rintro ⟨written, long, outside⟩
    rw [long?_eq_some_iff.mpr ⟨written, long⟩]
    exact if_neg outside

/-- Any other text is no offset. -/
theorem readOffset_eq_badOffset_iff {text : Text} :
    readOffset text = .error (.badOffset text) ↔ ¬∃ v, IsSigned text v ∧ IsLong v := by
  simp only [readOffset_within, ← long?_eq_some_iff]
  cases signedWithin? 0x7fffffffffffffff text with
  | none => simp
  | some u => simp [checkOffset_eq_error_iff]

/-! ## Data words -/

/-- Whether a number is in the range of a word with sign or in that of one without. -/
def FitsWord (v : Int) : Prop := -0x80000000 ≤ v ∧ v ≤ 0xffffffff

instance (v : Int) : Decidable (FitsWord v) := inferInstanceAs (Decidable (_ ∧ _))

/-- The value of a data word, read without any number beyond the limit. -/
def dataWithin? (limit : Nat) : Text → Option Int
  | '0' :: 'x' :: digits => (rowWithin? isHexDigit 16 limit digits).map Int.ofNat
  | text => signedWithin? limit text

theorem dataInteger?_of_ne_hex {text : Text} (plain : ∀ digits, text ≠ '0' :: 'x' :: digits) :
    dataInteger? text = signed? text := by
  unfold dataInteger?
  split
  · exact absurd rfl (plain _)
  · rfl

theorem dataWithin?_eq (limit : Nat) (text : Text) :
    dataWithin? limit text =
      (dataInteger? text).filter fun n => -(limit + 1 : Int) ≤ n ∧ n ≤ limit := by
  unfold dataWithin?
  split
  · rw [dataInteger?, rowWithin?_hexadecimal]
    refine map_filter_of_iff (fun n => ?_) _
    rw [Int.ofNat_eq_natCast]
    omega
  · next plain =>
    rw [dataInteger?_of_ne_hex plain]
    exact signedWithin?_eq limit _

theorem readData_eq (text : Text) :
    readData text = ((dataInteger? text).filter FitsWord).elim (.error (.dataRange text))
      fun v => .ok (Word.ofInt v) := by
  cases read : dataInteger? text with
  | none => simp only [readData, read, Option.filter_none, Option.elim_none]
  | some v =>
    have bound : FitsWord v ↔ -0x80000000 ≤ v ∧ v < 0x100000000 := by
      unfold FitsWord
      omega
    by_cases fits : FitsWord v
    · simp [readData, read, Option.filter_some, fits, bound.mp fits]
    · simp only [readData, read, Option.filter_some, fits, if_neg (bound.not.mp fits)]
      simp

/-- 64 bits are enough to read a data word. -/
theorem readData_within (text : Text) :
    readData text =
      ((dataWithin? 0x7fffffffffffffff text).filter FitsWord).elim (.error (.dataRange text))
        fun v => .ok (Word.ofInt v) := by
  have long : ∀ v : Int, decide (FitsWord v) = true →
      decide (-((0x7fffffffffffffff : Nat) + 1 : Int) ≤ v ∧ v ≤ (0x7fffffffffffffff : Nat)) =
        true := by
    intro v fits
    obtain ⟨low, high⟩ := of_decide_eq_true fits
    exact decide_eq_true (by omega)
  rw [readData_eq, dataWithin?_eq, filter_filter_of_imp long]

theorem Word.toNat_ofInt (v : Int) : ((Word.ofInt v).toNat : Int) = v % 2 ^ 32 := by
  rw [Word.ofInt, BitVec.toNat_ofInt, Int.toNat_of_nonneg (Int.emod_nonneg _ (by decide))]
  rfl

namespace Grammar

/-- The value of a data word, and the number that its digits stand for. -/
inductive ValueDenotes : Text → Int → Prop where
  | hex {digits : Text} :
      IsRow isHexDigit digits → ValueDenotes ('0' :: 'x' :: digits) (placeValue 16 digits)
  | number {text : Text} {v : Int} : IsNumber text → IsSigned text v → ValueDenotes text v

theorem IsNumber.dataInteger_eq {text : Text} (h : IsNumber text) :
    dataInteger text = integer text := by
  cases h with
  | plain row =>
    unfold dataInteger
    split
    · exact absurd (row.2 'x' (by simp)) (by decide)
    · rfl
  | negative row => rfl

theorem valueDenotes_iff {operand : Text} (h : IsValue operand) {v : Int} :
    ValueDenotes operand v ↔ v = dataInteger operand := by
  constructor
  · intro denotes
    cases denotes with
    | hex row => rw [dataInteger, value_eq_placeValue]
    | number number written =>
      have read := (signed?_of_isNumber number).symm.trans (signed?_eq_some_iff.mpr written)
      rw [number.dataInteger_eq, Option.some.inj read]
  · rintro rfl
    cases h with
    | hex row =>
      rw [dataInteger, value_eq_placeValue]
      exact .hex row
    | number number =>
      rw [number.dataInteger_eq]
      exact .number number (signed?_eq_some_iff.mp (signed?_of_isNumber number))

/-- Every value can be written in a line of its own. -/
theorem derives_data {operand : Text} (h : IsValue operand) :
    Derives none (.data (some operand)) ("DATA ".toList ++ operand) := by
  have written : IsBody (.data (some operand)) (Form.dataName ++ ([' '] ++ operand)) :=
    .data (.present ⟨[' '], ⟨List.cons_ne_nil _ _, List.all_eq_true.mp (by decide)⟩, h, rfl⟩)
  have no_blanks : AllBlank [] := List.forall_mem_nil _
  have alone : Surrounds (Form.dataName ++ ([' '] ++ operand)) none _ :=
    .line no_blanks .absent no_blanks no_blanks .absent
  simp only [List.nil_append, List.append_nil] at alone
  exact ⟨_, written, alone⟩

end Grammar

/-- A line with a data word holds the word that the value agrees with modulo 2^32, if the value is in
    range, and is otherwise refused with the value as it is written. -/
theorem parse_data {label : Option Text} {operand line : Text}
    (h : Derives label (.data (some operand)) line) :
    Line.parse line =
      if FitsWord (dataInteger operand)
      then .ok ⟨label, .data (Word.ofInt (dataInteger operand))⟩
      else .error (.dataRange operand) := by
  have value : IsValue operand := by
    obtain ⟨body, written, -⟩ := h
    cases written with
    | data written => exact written.forall_mem (fun _ _ ⟨_, _, value, _⟩ => value) operand rfl
  have parsed : Line.parse line = (readData operand).map fun w => ⟨label, .data w⟩ := by
    rw [Line.parse, Form.ofLine?_eq_some_iff.mpr h]
    dsimp only [Form.statement]
    cases readData operand <;> rfl
  rw [parsed, readData_eq, dataInteger?_of_isValue value, Option.filter_some]
  by_cases fits : FitsWord (dataInteger operand)
  · simp [fits, Except.map]
  · simp [fits, Except.map]

/-! ## All numbers -/

/-- Numbers are read exactly. A register is `r` and digits, with or without a plus sign, whose value
    is below 16; an offset is its value if that has 11 bits, out of range if it has 64, and no
    offset otherwise; a data word is its value modulo 2^32 if it is in the range of a word with sign
    or without, and otherwise refused as it is written. Zeros in front change no value, and readers
    that fail at the first number beyond a byte, or beyond 64 bits, give the same results. -/
theorem numbers_read_exactly :
    (∀ text n, readRegister text = .ok n ↔
      n < registerCount ∧ ∃ number, text = 'r' :: number ∧ IsUnsigned number n) ∧
    (∀ text e, readRegister text = .error e ↔
      e = .badRegister text ∧ ¬∃ n, readRegister text = .ok n) ∧
    (∀ text v, readOffset text = .ok v ↔ IsSigned text v ∧ -1024 ≤ v ∧ v ≤ 1023) ∧
    (∀ text v, readOffset text = .error (.offsetRange v) ↔
      IsSigned text v ∧ IsLong v ∧ ¬(-1024 ≤ v ∧ v ≤ 1023)) ∧
    (∀ text, readOffset text = .error (.badOffset text) ↔ ¬∃ v, IsSigned text v ∧ IsLong v) ∧
    (∀ operand, IsValue operand → ∃ (v : Int) (w : Word),
      (∀ u, ValueDenotes operand u ↔ u = v) ∧ (w.toNat : Int) = v % 2 ^ 32 ∧
        Derives none (.data (some operand)) ("DATA ".toList ++ operand) ∧
        ∀ label line, Derives label (.data (some operand)) line →
          Line.parse line =
            if FitsWord v then .ok ⟨label, .data w⟩ else .error (.dataRange operand)) ∧
    (∀ base count digits,
      placeValue base (List.replicate count '0' ++ digits) = placeValue base digits) ∧
    (∀ number, readRegister ('r' :: number) =
      ((unsignedWithin? 255 number).filter (· < registerCount)).elim
        (.error (.badRegister ('r' :: number))) .ok) ∧
    (∀ text, readOffset text =
      (signedWithin? 0x7fffffffffffffff text).elim (.error (.badOffset text)) checkOffset) ∧
    ∀ operand, readData operand =
      ((dataWithin? 0x7fffffffffffffff operand).filter FitsWord).elim
        (.error (.dataRange operand)) fun v => .ok (Word.ofInt v) := by
  refine ⟨fun _ _ => readRegister_eq_ok_iff, fun _ _ => readRegister_eq_error_iff,
    fun _ _ => readOffset_eq_ok_iff, fun _ _ => readOffset_eq_offsetRange_iff,
    fun _ => readOffset_eq_badOffset_iff, ?_, placeValue_zeros, readRegister_within,
    readOffset_within, readData_within⟩
  intro operand value
  exact ⟨_, _, fun _ => valueDenotes_iff value, Word.toNat_ofInt _, derives_data value,
    fun _ _ => parse_data⟩

theorem numbers_read_exactly_longNumbers :
    readRegister "r+000000000000000000000015".toList = .ok 15 ∧
    readOffset "-9223372036854775808".toList = .error (.offsetRange (-9223372036854775808)) ∧
    readOffset "9223372036854775808".toList = .error (.badOffset "9223372036854775808".toList) ∧
    IsValue "0x000000000000000ffffffff".toList ∧
    Line.parse "n: DATA 0x000000000000000ffffffff # all".toList =
      .ok ⟨some ['n'], .data 0xffffffff⟩ ∧
    IsValue "-2147483649".toList ∧
    Line.parse "DATA -2147483649".toList = .error (.dataRange "-2147483649".toList) := by
  obtain ⟨registers, -, -, far, beyond, data, -⟩ := numbers_read_exactly
  have fifteen : IsUnsigned "+000000000000000000000015".toList 15 :=
    unsigned?_eq_some_iff.mp (by decide)
  have least : IsSigned "-9223372036854775808".toList (-9223372036854775808) :=
    signed?_eq_some_iff.mp (by decide)
  have greater : ¬∃ v, IsSigned "9223372036854775808".toList v ∧ IsLong v := by
    rintro ⟨v, written, long⟩
    have read : signed? "9223372036854775808".toList = some 9223372036854775808 := by decide
    rw [signed?_eq_some_iff.mpr written] at read
    obtain rfl := Option.some.inj read
    exact absurd long (by decide)
  have hex : IsValue "0x000000000000000ffffffff".toList :=
    .hex ⟨by decide, List.all_eq_true.mp (by decide)⟩
  have number : IsValue "-2147483649".toList :=
    .number (.negative ⟨by decide, List.all_eq_true.mp (by decide)⟩)
  obtain ⟨v, w, value, word, -, lines⟩ := data _ hex
  obtain ⟨u, _, value', -, alone, lines'⟩ := data _ number
  obtain rfl : 0xffffffff = v := (value _).mp ((valueDenotes_iff hex).mpr (by decide))
  obtain rfl : -2147483649 = u := (value' _).mp ((valueDenotes_iff number).mpr (by decide))
  obtain rfl : 0xffffffff = w := BitVec.eq_of_toNat_eq (by exact_mod_cast word.symm)
  have derived : Derives (some ['n']) (.data (some "0x000000000000000ffffffff".toList))
      "n: DATA 0x000000000000000ffffffff # all".toList :=
    Form.ofLine?_eq_some_iff.mp (by decide)
  refine ⟨(registers _ _).mpr ⟨by decide, _, rfl, fifteen⟩,
    (far _ _).mpr ⟨least, by decide, by decide⟩, (beyond _).mpr greater, hex, ?_, number, ?_⟩
  · rw [lines _ _ derived, if_pos (by decide)]
  · exact (lines' _ _ alone).trans (if_neg (by decide))

end DuckMachine
