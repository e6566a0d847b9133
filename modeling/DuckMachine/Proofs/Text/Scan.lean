import DuckMachine.Proofs.Text.Trim

/-
  Scanners find what they look for.

  What a scanner finds is a row of its class, a name or a label, up to where the class ends, and
  nothing of the text is lost; wherever such a part is in front, it is found.
-/

namespace DuckMachine

open Text

/-- A row of characters of a class, at least one. -/
def IsRow (p : Char → Bool) (text : Text) : Prop := text ≠ [] ∧ ∀ c ∈ text, p c = true

/-- No character of a row is in a class that excludes the row's own. -/
theorem IsRow.leaves {p q : Char → Bool} {text rest : Text} (h : IsRow p text)
    (out : ∀ c, p c = true → q c = false) : Leaves q (text ++ rest) := by
  obtain ⟨c, more, rfl⟩ := List.exists_cons_of_ne_nil h.1
  exact leaves_cons.mpr (out c (h.2 c List.mem_cons_self))

/-- A letter and word characters after it, as in every label and symbol. -/
def IsName (text : Text) : Prop :=
  ∃ c rest, text = c :: rest ∧ c.isAlpha = true ∧ ∀ d ∈ rest, isWordChar d = true

theorem IsName.ne_nil {name : Text} (h : IsName name) : name ≠ [] := by
  obtain ⟨first, rest, rfl, -⟩ := h
  exact List.cons_ne_nil _ _

theorem IsName.isWordChar {name : Text} (h : IsName name) {c : Char} (hc : c ∈ name) :
    isWordChar c = true := by
  obtain ⟨first, rest, rfl, alpha, word⟩ := h
  rcases List.mem_cons.mp hc with rfl | hc
  · exact isWordChar_of_isAlpha alpha
  · exact word c hc

namespace Scan

theorem run_append {p : Char → Bool} {found rest : Text} (nonempty : found ≠ [])
    (inside : ∀ c ∈ found, p c = true) (leaves : Leaves p rest) :
    run p (found ++ rest) = some (found, rest) := by
  unfold run
  rw [takeWhile_append_of_leaves inside leaves, dropWhile_append_of_leaves inside leaves]
  cases found with
  | nil => exact absurd rfl nonempty
  | cons c more => rfl

theorem run_eq_some_iff {p : Char → Bool} {text found rest : Text} :
    run p text = some (found, rest) ↔ IsRow p found ∧ Leaves p rest ∧ found ++ rest = text := by
  constructor
  · intro h
    unfold run at h
    split at h
    · cases h
    · next nonempty =>
      simp only [Option.some.injEq, Prod.mk.injEq] at h
      obtain ⟨rfl, rfl⟩ := h
      refine ⟨⟨nonempty, fun c hc => List.mem_takeWhile_imp hc⟩, leaves_dropWhile _ _, ?_⟩
      exact List.takeWhile_append_dropWhile
  · rintro ⟨⟨nonempty, inside⟩, leaves, rfl⟩
    exact run_append nonempty inside leaves

theorem blanks_eq_some_iff {text rest : Text} :
    blanks text = some rest ↔
      ∃ gap, IsRow isBlank gap ∧ Leaves isBlank rest ∧ gap ++ rest = text := by
  simp only [blanks, Option.map_eq_some_iff, Prod.exists, run_eq_some_iff]
  constructor
  · rintro ⟨gap, after, found, rfl⟩
    exact ⟨gap, found⟩
  · rintro ⟨gap, found⟩
    exact ⟨gap, rest, found, rfl⟩

theorem skip_eq_some_iff {wanted : Char} {text rest : Text} :
    skip wanted text = some rest ↔ text = wanted :: rest := by
  cases text with
  | nil => simp [skip]
  | cons c more =>
    unfold skip
    split
    · next same => simp [same]
    · next differ => simp [differ]

theorem predicate_slash {found rest : Text} (nonempty : found ≠ [])
    (inside : ∀ c ∈ found, c.isAlpha = true) (leaves : Leaves Char.isAlpha rest) :
    predicate ('/' :: (found ++ rest)) = some (some found, rest) := by
  simp only [predicate, letters, run_append nonempty inside leaves, Option.map_some]

theorem predicate_none {text : Text} (h : ∀ c ∈ text.head?, c ≠ '/') :
    predicate text = some (none, text) := by
  unfold predicate
  split
  · exact absurd rfl (h '/' rfl)
  · rfl

theorem name_eq_some_iff {text found rest : Text} :
    name text = some (found, rest) ↔
      IsName found ∧ Leaves isWordChar rest ∧ found ++ rest = text := by
  cases text with
  | nil =>
    simp only [name, reduceCtorEq, List.append_eq_nil_iff, false_iff]
    rintro ⟨⟨c, more, rfl, -⟩, -, impossible, -⟩
    exact List.cons_ne_nil _ _ impossible
  | cons c text =>
    constructor
    · intro h
      by_cases alpha : c.isAlpha = true
      · rw [name, if_pos alpha] at h
        simp only [Option.some.injEq, Prod.mk.injEq] at h
        obtain ⟨rfl, rfl⟩ := h
        refine ⟨⟨c, _, rfl, alpha, fun d hd => List.mem_takeWhile_imp hd⟩, ?_, ?_⟩
        · exact leaves_dropWhile _ _
        · rw [List.cons_append, List.takeWhile_append_dropWhile]
      · rw [name, if_neg alpha] at h
        cases h
    · rintro ⟨⟨d, more, rfl, alpha, word⟩, leaves, whole⟩
      rw [List.cons_append, List.cons.injEq] at whole
      obtain ⟨rfl, rfl⟩ := whole
      rw [name, if_pos alpha, takeWhile_append_of_leaves word leaves,
        dropWhile_append_of_leaves word leaves]

theorem label_eq_some_iff {text found rest : Text} :
    label text = some (found, rest) ↔ IsName found ∧ text = found ++ ':' :: rest := by
  simp only [label, Option.bind_eq_bind, Option.bind_eq_some_iff, Prod.exists, Option.some.injEq,
    Prod.mk.injEq]
  constructor
  · rintro ⟨named, after, found_name, after_colon, colon, rfl, rfl⟩
    obtain ⟨is_name, -, rfl⟩ := name_eq_some_iff.mp found_name
    rw [skip_eq_some_iff.mp colon]
    exact ⟨is_name, rfl⟩
  · rintro ⟨is_name, rfl⟩
    have leaves : Leaves isWordChar (':' :: rest) := leaves_cons.mpr (by decide)
    exact ⟨found, ':' :: rest, name_eq_some_iff.mpr ⟨is_name, leaves, rfl⟩, rest,
      skip_eq_some_iff.mpr rfl, rfl, rfl⟩

end Scan

end DuckMachine
