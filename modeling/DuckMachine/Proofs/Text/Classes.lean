import DuckMachine.Asm.Form
import Mathlib.Data.List.TakeWhile

/-
  Character classes and the stretches of a text that they cut off.

  The blanks, the word characters and the characters that begin a comment exclude one another. A
  stretch of a class is found again in front of any text that does not go on with the class
  (`takeWhile_append_of_leaves`), so a scanner that takes as much as it can has no choice.
-/

namespace DuckMachine

/-! ## Classes exclude one another -/

/-- The code points of the blanks. -/
def blankCodes : List Nat :=
  [9, 10, 11, 12, 13, 0x20, 0x85, 0xA0, 0x1680, 0x2000, 0x2001, 0x2002, 0x2003, 0x2004, 0x2005,
    0x2006, 0x2007, 0x2008, 0x2009, 0x200A, 0x2028, 0x2029, 0x202F, 0x205F, 0x3000]

theorem toNat_mem_blankCodes {c : Char} (h : isBlank c = true) : c.toNat ∈ blankCodes := by
  simp only [isBlank, Bool.or_eq_true, Bool.and_eq_true, decide_eq_true_eq, beq_iff_eq] at h
  simp only [blankCodes, List.mem_cons, List.not_mem_nil, or_false]
  omega

/-- What holds of the blank with each of the code points holds of every blank. -/
theorem forall_blank {P : Char → Prop} (h : ∀ n ∈ blankCodes, P (Char.ofNat n)) {c : Char}
    (hc : isBlank c = true) : P c := by
  have found := h c.toNat (toNat_mem_blankCodes hc)
  rwa [Char.ofNat_toNat] at found

theorem isWordChar_of_isBlank {c : Char} (h : isBlank c = true) : isWordChar c = false := by
  have all : ∀ n ∈ blankCodes, isWordChar (Char.ofNat n) = false := by decide +kernel
  exact forall_blank (P := fun c => isWordChar c = false) all h

theorem opensComment_of_isBlank {c : Char} (h : isBlank c = true) :
    Form.opensComment c = false := by
  have all : ∀ n ∈ blankCodes, Form.opensComment (Char.ofNat n) = false := by decide
  exact forall_blank (P := fun c => Form.opensComment c = false) all h

theorem isBlank_of_isWordChar {c : Char} (h : isWordChar c = true) : isBlank c = false := by
  by_contra blank
  rw [isWordChar_of_isBlank (Bool.not_eq_false _ ▸ blank)] at h
  exact Bool.noConfusion h

/-- A blank is in no class of word characters. -/
theorem not_of_isBlank {p : Char → Bool} (word : ∀ c, p c = true → isWordChar c = true) {c : Char}
    (h : isBlank c = true) : p c = false := by
  by_contra inside
  rw [isBlank_of_isWordChar (word c (Bool.not_eq_false _ ▸ inside))] at h
  cases h

theorem isWordChar_of_isAlpha {c : Char} (h : c.isAlpha = true) : isWordChar c = true :=
  isWordChar_of_isAlphanum c (by simp [Char.isAlphanum, h])

theorem isWordChar_of_isDigit {c : Char} (h : c.isDigit = true) : isWordChar c = true :=
  isWordChar_of_isAlphanum c (by simp [Char.isAlphanum, h])

theorem opensComment_of_isWordChar {c : Char} (h : isWordChar c = true) :
    Form.opensComment c = false := by
  by_contra opens
  simp only [Form.opensComment, Bool.not_eq_false, Bool.or_eq_true, beq_iff_eq] at opens
  rcases opens with rfl | rfl <;> exact absurd h (by decide)

theorem ne_newline_of_isWordChar {c : Char} (h : isWordChar c = true) : c ≠ '\n' := by
  rintro rfl
  exact absurd h (by decide)

namespace Text

/-! ## Longest stretches -/

/-- Whether a text ends or goes on with a character outside of a class. -/
def Leaves (p : Char → Bool) (text : Text) : Prop := ∀ c ∈ text.head?, p c = false

@[simp] theorem leaves_nil (p : Char → Bool) : Leaves p [] := by
  simp [Leaves]

@[simp] theorem leaves_cons {p : Char → Bool} {c : Char} {rest : Text} :
    Leaves p (c :: rest) ↔ p c = false := by
  simp [Leaves]

theorem leaves_dropWhile (p : Char → Bool) (text : Text) : Leaves p (text.dropWhile p) := by
  intro c hc
  have := List.head?_dropWhile_not p text
  rw [Option.mem_def.mp hc] at this
  simpa using this

theorem takeWhile_of_leaves {p : Char → Bool} {text : Text} (h : Leaves p text) :
    text.takeWhile p = [] := by
  cases text with
  | nil => rfl
  | cons c rest => rw [List.takeWhile_cons_of_neg (by simpa using h)]

theorem dropWhile_of_leaves {p : Char → Bool} {text : Text} (h : Leaves p text) :
    text.dropWhile p = text := by
  cases text with
  | nil => rfl
  | cons c rest => rw [List.dropWhile_cons_of_neg (by simpa using h)]

theorem takeWhile_append_of_leaves {p : Char → Bool} {found rest : Text}
    (inside : ∀ c ∈ found, p c = true) (h : Leaves p rest) :
    (found ++ rest).takeWhile p = found := by
  rw [List.takeWhile_append_of_pos inside, takeWhile_of_leaves h, List.append_nil]

theorem dropWhile_append_of_leaves {p : Char → Bool} {found rest : Text}
    (inside : ∀ c ∈ found, p c = true) (h : Leaves p rest) :
    (found ++ rest).dropWhile p = rest := by
  rw [List.dropWhile_append_of_pos inside, dropWhile_of_leaves h]

end Text

end DuckMachine
