import DuckMachine.Text.Numeral

/-
  Numerals read back.

  A written number consists of digits, after a minus sign if it is negative, and every reader gives
  back the number that was written.
-/

namespace DuckMachine.Numeral

theorem isDigit_of_mem_decimal {n : Nat} {c : Char} (h : c ∈ decimal n) : c.isDigit = true :=
  Nat.isDigit_of_mem_toDigits (by decide) (by decide) h

theorem decimal_ne_nil (n : Nat) : decimal n ≠ [] := Nat.toDigits_ne_nil

theorem exists_digitChar {base n : Nat} (h : 1 < base) {c : Char}
    (found : c ∈ Nat.toDigits base n) : ∃ digit, c = Nat.digitChar digit := by
  induction n using Nat.strongRecOn with
  | ind n ih =>
    rw [Nat.toDigits_eq_if h] at found
    split at found
    · exact ⟨n, List.mem_singleton.mp found⟩
    · next large =>
      rcases List.mem_append.mp found with earlier | last
      · exact ih (n / base) (Nat.div_lt_self (by omega) h) earlier
      · exact ⟨n % base, List.mem_singleton.mp last⟩

/-- On decimal digits the value is the one that the core library computes. -/
theorem value_ten {digits : Text} (h : ∀ c ∈ digits, c.isDigit = true) :
    value 10 digits = Nat.ofDigitChars 10 digits 0 := by
  unfold value Nat.ofDigitChars
  generalize 0 = total
  induction digits generalizing total with
  | nil => rfl
  | cons c rest ih =>
    have digit : digitValue c = c.toNat - '0'.toNat := by simp [digitValue, h c]
    rw [List.foldl_cons, List.foldl_cons, digit]
    exact ih (fun d hd => h d (List.mem_cons_of_mem _ hd)) _

theorem natural?_of_digits {digits : Text} (nonempty : digits ≠ [])
    (h : ∀ c ∈ digits, c.isDigit = true) : natural? digits = some (value 10 digits) :=
  if_pos ⟨nonempty, List.all_eq_true.mpr h⟩

theorem hex?_of_digits {digits : Text} (nonempty : digits ≠ [])
    (h : ∀ c ∈ digits, isHexDigit c = true) : hex? digits = some (value 16 digits) :=
  if_pos ⟨nonempty, List.all_eq_true.mpr h⟩

theorem natural?_decimal (n : Nat) : natural? (decimal n) = some n := by
  have digits : ∀ c ∈ decimal n, c.isDigit = true := fun c hc => isDigit_of_mem_decimal hc
  rw [natural?_of_digits (decimal_ne_nil n) digits, value_ten digits]
  exact congrArg some Nat.ofDigitChars_ten_toDigits

/-- A numeral without a sign can be read as one that might have one. -/
theorem unsigned?_of_digits {digits : Text} (h : ∀ c ∈ digits, c.isDigit = true) :
    unsigned? digits = natural? digits := by
  unfold unsigned?
  split
  · exact absurd (h '+' (by simp)) (by decide)
  · rfl

theorem signed?_of_digits {digits : Text} (h : ∀ c ∈ digits, c.isDigit = true) :
    signed? digits = (natural? digits).map Int.ofNat := by
  unfold signed?
  split
  · exact absurd (h '-' (by simp)) (by decide)
  · exact absurd (h '+' (by simp)) (by decide)
  · rfl

theorem unsigned?_decimal (n : Nat) : unsigned? (decimal n) = some n := by
  rw [unsigned?_of_digits fun c hc => isDigit_of_mem_decimal hc, natural?_decimal]

theorem signed?_integer (n : Int) : signed? (integer n) = some n := by
  cases n with
  | ofNat n =>
    unfold integer
    rw [signed?_of_digits fun c hc => isDigit_of_mem_decimal hc, natural?_decimal]
    rfl
  | negSucc n =>
    simp only [integer, signed?, natural?_decimal]
    rfl

end DuckMachine.Numeral
