import DuckMachine.Proofs.Text.Numeral
import DuckMachine.Proofs.Text.Scan
import Mathlib.Data.Nat.Digits.Defs

/-
  The value of written numbers.

  A row of digits stands for the sum of its digits, each times the power of the base that belongs to
  its place (`placeValue`). The readers give this number for rows of any length
  (`unsigned?_eq_some_iff`, `signed?_eq_some_iff`). A reader whose numbers are bounded, and which
  fails at the first product or sum beyond the bound, gives the same number as long as the number
  itself is within the bound, and nothing otherwise (`valueWithin?_eq`): what it meets on the way is
  never greater than what it ends with.
-/

namespace DuckMachine.Numeral

/-- The number that a row of digits stands for, the last digit at place zero. -/
def placeValue (base : Nat) (digits : Text) : Nat :=
  Nat.ofDigits base (digits.reverse.map digitValue)

theorem value_concat (base : Nat) (digits : Text) (c : Char) :
    value base (digits ++ [c]) = base * value base digits + digitValue c := by
  simp only [value, List.foldl_append, List.foldl_cons, List.foldl_nil]

/-- The value computed from the left is the sum over the places. -/
theorem value_eq_placeValue (base : Nat) (digits : Text) :
    value base digits = placeValue base digits := by
  induction digits using List.reverseRecOn with
  | nil => rfl
  | append_singleton digits c ih =>
    rw [value_concat, ih, placeValue, placeValue, List.reverse_append, List.reverse_singleton,
      List.singleton_append, List.map_cons, Nat.ofDigits_cons, Nat.add_comm]

/-- Zeros in front of a row of digits count for nothing. -/
theorem placeValue_zeros (base count : Nat) (digits : Text) :
    placeValue base (List.replicate count '0' ++ digits) = placeValue base digits := by
  rw [← value_eq_placeValue, ← value_eq_placeValue]
  induction count with
  | zero => rfl
  | succ count ih =>
    have zero : base * 0 + digitValue '0' = 0 := by simp [digitValue]
    rw [List.replicate_succ, List.cons_append, ← ih]
    unfold value
    rw [List.foldl_cons, zero]

/-! ## Bounded readers -/

/-- A number with one more digit after it, unless that takes it beyond the limit. -/
def appendWithin? (limit base total : Nat) (c : Char) : Option Nat :=
  if base * total ≤ limit then
    if base * total + digitValue c ≤ limit then some (base * total + digitValue c) else none
  else none

/-- The value of a row of digits, found without any number beyond the limit. -/
def valueWithin? (limit base : Nat) (digits : Text) : Option Nat :=
  digits.foldlM (appendWithin? limit base) 0

/-- One or more digits, read without any number beyond the limit. -/
def rowWithin? (isDigit : Char → Bool) (base limit : Nat) (text : Text) : Option Nat :=
  if text ≠ [] ∧ text.all isDigit then valueWithin? limit base text else none

/-- Decimal digits with or without a plus sign, read without any number beyond the limit. -/
def unsignedWithin? (limit : Nat) : Text → Option Nat
  | '+' :: digits => rowWithin? Char.isDigit 10 limit digits
  | digits => rowWithin? Char.isDigit 10 limit digits

/-- Decimal digits with or without a sign, read without any number beyond the limit, which is
    greater by one for negative numbers. -/
def signedWithin? (limit : Nat) : Text → Option Int
  | '-' :: digits => (rowWithin? Char.isDigit 10 (limit + 1) digits).map fun n : Nat => -(n : Int)
  | text => (unsignedWithin? limit text).map Int.ofNat

theorem appendWithin?_eq (limit base total : Nat) (c : Char) :
    appendWithin? limit base total c =
      if base * total + digitValue c ≤ limit then some (base * total + digitValue c) else none := by
  unfold appendWithin?
  split
  · rfl
  · next beyond => rw [if_neg (by omega)]

/-- A bounded reader finds the value if and only if the value is within the limit. -/
theorem valueWithin?_eq {base : Nat} (positive : 0 < base) (limit : Nat) (digits : Text) :
    valueWithin? limit base digits =
      if value base digits ≤ limit then some (value base digits) else none := by
  induction digits using List.reverseRecOn with
  | nil => rfl
  | append_singleton digits c ih =>
    have grows : value base digits ≤ base * value base digits := Nat.le_mul_of_pos_left _ positive
    have step : valueWithin? limit base (digits ++ [c]) =
        (valueWithin? limit base digits).bind fun total => appendWithin? limit base total c := by
      simp [valueWithin?, List.foldlM_append]
    rw [step, ih, value_concat]
    split
    · rw [Option.bind_some, appendWithin?_eq]
    · rw [Option.bind_none, if_neg (by omega)]

theorem rowWithin?_eq (isDigit : Char → Bool) {base : Nat} (positive : 0 < base) (limit : Nat)
    (text : Text) :
    rowWithin? isDigit base limit text =
      (if text ≠ [] ∧ text.all isDigit then some (value base text) else none).filter
        (· ≤ limit) := by
  unfold rowWithin?
  split
  · rw [valueWithin?_eq positive, Option.filter_some]
    simp only [decide_eq_true_eq]
  · rfl

theorem rowWithin?_decimal (limit : Nat) (text : Text) :
    rowWithin? Char.isDigit 10 limit text = (natural? text).filter (· ≤ limit) :=
  rowWithin?_eq Char.isDigit (by decide) limit text

theorem rowWithin?_hexadecimal (limit : Nat) (text : Text) :
    rowWithin? isHexDigit 16 limit text = (hex? text).filter (· ≤ limit) :=
  rowWithin?_eq isHexDigit (by decide) limit text

theorem unsigned?_of_ne_plus {text : Text} (plain : ∀ digits, text ≠ '+' :: digits) :
    unsigned? text = natural? text := by
  unfold unsigned?
  split
  · exact absurd rfl (plain _)
  · rfl

theorem unsignedWithin?_eq (limit : Nat) (text : Text) :
    unsignedWithin? limit text = (unsigned? text).filter (· ≤ limit) := by
  unfold unsignedWithin?
  split
  · exact rowWithin?_decimal limit _
  · next plain =>
    rw [unsigned?_of_ne_plus plain]
    exact rowWithin?_decimal limit _

theorem signed?_minus (digits : Text) :
    signed? ('-' :: digits) = (natural? digits).map fun n : Nat => -(n : Int) := by
  rw [signed?]
  cases natural? digits <;> rfl

theorem signed?_of_ne_minus {text : Text} (plain : ∀ digits, text ≠ '-' :: digits) :
    signed? text = (unsigned? text).map Int.ofNat := by
  unfold signed?
  split
  · exact absurd rfl (plain _)
  · rfl
  · next other => rw [unsigned?_of_ne_plus other]

/-- A bound on a number as a bound on what is made of it. -/
theorem map_filter_of_iff {limit : Nat} {f : Nat → Int} {low high : Int}
    (bound : ∀ n, n ≤ limit ↔ low ≤ f n ∧ f n ≤ high) (read : Option Nat) :
    (read.filter (· ≤ limit)).map f = (read.map f).filter fun n => low ≤ n ∧ n ≤ high := by
  rw [Option.filter_map]
  congr
  funext n
  exact decide_eq_decide.mpr (bound n)

/-- A test that implies another makes it needless. -/
theorem filter_filter_of_imp {α : Type} {p q : α → Bool} (imp : ∀ a, p a = true → q a = true)
    (read : Option α) : (read.filter q).filter p = read.filter p := by
  cases read with
  | none => rfl
  | some a =>
    cases known : p a with
    | true => simp [Option.filter_some, known, imp a known]
    | false => by_cases other : q a = true <;> simp [Option.filter_some, known, other]

theorem signedWithin?_eq (limit : Nat) (text : Text) :
    signedWithin? limit text =
      (signed? text).filter fun n => -(limit + 1 : Int) ≤ n ∧ n ≤ limit := by
  unfold signedWithin?
  split
  · rw [rowWithin?_decimal, signed?_minus]
    exact map_filter_of_iff (by omega) _
  · next plain =>
    rw [unsignedWithin?_eq, signed?_of_ne_minus plain]
    refine map_filter_of_iff (fun n => ?_) _
    rw [Int.ofNat_eq_natCast]
    omega

/-! ## What is read -/

/-- Decimal digits with or without a plus sign, and the number that they stand for. -/
inductive IsUnsigned : Text → Nat → Prop where
  | plain {digits : Text} : IsRow Char.isDigit digits → IsUnsigned digits (placeValue 10 digits)
  | plus {digits : Text} :
      IsRow Char.isDigit digits → IsUnsigned ('+' :: digits) (placeValue 10 digits)

/-- Decimal digits with or without a sign, and the number that they stand for. -/
inductive IsSigned : Text → Int → Prop where
  | unsigned {text : Text} {n : Nat} : IsUnsigned text n → IsSigned text n
  | minus {digits : Text} :
      IsRow Char.isDigit digits → IsSigned ('-' :: digits) (-placeValue 10 digits)

theorem natural?_eq_some_iff {text : Text} {n : Nat} :
    natural? text = some n ↔ IsRow Char.isDigit text ∧ placeValue 10 text = n := by
  rw [← value_eq_placeValue]
  constructor
  · intro h
    unfold natural? at h
    split at h
    · next row => exact ⟨⟨row.1, List.all_eq_true.mp row.2⟩, Option.some.inj h⟩
    · cases h
  · rintro ⟨row, rfl⟩
    exact natural?_of_digits row.1 row.2

theorem unsigned?_eq_some_iff {text : Text} {n : Nat} :
    unsigned? text = some n ↔ IsUnsigned text n := by
  constructor
  · intro h
    unfold unsigned? at h
    split at h
    · obtain ⟨row, rfl⟩ := natural?_eq_some_iff.mp h
      exact .plus row
    · obtain ⟨row, rfl⟩ := natural?_eq_some_iff.mp h
      exact .plain row
  · intro h
    cases h with
    | plain row => rw [unsigned?_of_digits row.2, natural?_eq_some_iff.mpr ⟨row, rfl⟩]
    | plus row => exact natural?_eq_some_iff.mpr ⟨row, rfl⟩

theorem IsUnsigned.ne_minus {text : Text} {n : Nat} (h : IsUnsigned text n) (digits : Text) :
    text ≠ '-' :: digits := by
  rintro rfl
  cases h with
  | plain row => exact absurd (row.2 '-' List.mem_cons_self) (by decide)

theorem signed?_eq_some_iff {text : Text} {n : Int} : signed? text = some n ↔ IsSigned text n := by
  constructor
  · intro h
    by_cases minus : ∃ digits, text = '-' :: digits
    · obtain ⟨digits, rfl⟩ := minus
      rw [signed?_minus] at h
      obtain ⟨m, read, rfl⟩ := Option.map_eq_some_iff.mp h
      obtain ⟨row, rfl⟩ := natural?_eq_some_iff.mp read
      exact .minus row
    · rw [signed?_of_ne_minus (not_exists.mp minus)] at h
      obtain ⟨m, read, rfl⟩ := Option.map_eq_some_iff.mp h
      exact .unsigned (unsigned?_eq_some_iff.mp read)
  · intro h
    cases h with
    | unsigned written =>
      rw [signed?_of_ne_minus written.ne_minus, unsigned?_eq_some_iff.mpr written]
      rfl
    | minus row =>
      rw [signed?_minus, natural?_eq_some_iff.mpr ⟨row, rfl⟩]
      rfl

end DuckMachine.Numeral
