import DuckMachine.Proofs.Asm.Grammar

/-
  Scanners find the parts of the grammar.

  Each scanner finds exactly what the grammar calls its part, where the part ends. A predicate is
  found in front of blanks, an offset and the value of a data word at the end of a text, and an
  operand that is followed by a comma is a target register.
-/

namespace DuckMachine

open Text Grammar

namespace Scan

theorem comma_eq_some_iff {text rest : Text} :
    comma text = some rest ↔
      ∃ written, IsComma written ∧ Leaves isBlank rest ∧ written ++ rest = text := by
  simp only [comma, Option.map_eq_some_iff, skip_eq_some_iff, trimStart_eq_iff]
  constructor
  · rintro ⟨after, ⟨before, blank, -, rfl⟩, gap, blank_gap, leaves, rfl⟩
    exact ⟨before ++ ',' :: gap, ⟨before, gap, blank, blank_gap, rfl⟩, leaves, by simp⟩
  · rintro ⟨_, ⟨before, gap, blank, blank_gap, rfl⟩, leaves, rfl⟩
    have solid : Leaves isBlank (',' :: (gap ++ rest)) := leaves_cons.mpr (by decide)
    exact ⟨gap ++ rest, ⟨before, blank, solid, by simp⟩, gap, blank_gap, leaves, rfl⟩

theorem register_eq_some_iff {text found rest : Text} :
    register text = some (found, rest) ↔
      IsRegister found ∧ Leaves Char.isDigit rest ∧ found ++ rest = text := by
  simp only [register, Option.bind_eq_bind, Option.bind_eq_some_iff, skip_eq_some_iff,
    Prod.exists, run_eq_some_iff, Option.some.injEq, Prod.mk.injEq]
  constructor
  · rintro ⟨_, rfl, digits, _, ⟨row, leaves, rfl⟩, rfl, rfl⟩
    exact ⟨⟨digits, row, rfl⟩, leaves, rfl⟩
  · rintro ⟨⟨digits, row, rfl⟩, leaves, rfl⟩
    exact ⟨digits ++ rest, rfl, digits, rest, ⟨row, leaves, rfl⟩, rfl, rfl⟩

theorem signedDigits_eq_some_iff {text found rest : Text} :
    signedDigits text = some (found, rest) ↔
      IsNumber found ∧ Leaves Char.isDigit rest ∧ found ++ rest = text := by
  constructor
  · intro h
    unfold signedDigits at h
    split at h
    · obtain ⟨⟨digits, after⟩, scanned, same⟩ := Option.map_eq_some_iff.mp h
      obtain ⟨row, leaves, rfl⟩ := run_eq_some_iff.mp scanned
      simp only [Prod.mk.injEq] at same
      obtain ⟨rfl, rfl⟩ := same
      exact ⟨.negative row, leaves, rfl⟩
    · obtain ⟨row, leaves, whole⟩ := run_eq_some_iff.mp h
      exact ⟨.plain row, leaves, whole⟩
  · rintro ⟨number, leaves, rfl⟩
    cases number with
    | @negative digits row =>
      rw [List.cons_append, signedDigits, run_eq_some_iff.mpr ⟨row, leaves, rfl⟩, Option.map_some]
    | plain row =>
      rw [signedDigits, run_eq_some_iff.mpr ⟨row, leaves, rfl⟩]
      -- A digit is no minus sign.
      intro more minus
      have digit : Leaves (· == '-') (found ++ rest) := row.leaves fun c digit => by
        rw [beq_eq_false_iff_ne]
        rintro rfl
        exact absurd digit (by decide)
      rw [minus, leaves_cons] at digit
      exact absurd digit (by decide)

theorem writes_of_predicate {text rest : Text} {part : Option Text}
    (h : predicate text = some (part, rest)) :
    ∃ slash, Maybe WritesPredicate part slash ∧ slash ++ rest = text := by
  unfold predicate at h
  split at h
  · obtain ⟨⟨found, after⟩, scanned, same⟩ := Option.map_eq_some_iff.mp h
    obtain ⟨row, -, rfl⟩ := run_eq_some_iff.mp scanned
    simp only [Prod.mk.injEq] at same
    obtain ⟨rfl, rfl⟩ := same
    exact ⟨'/' :: found, .present ⟨row, rfl⟩, rfl⟩
  · simp only [Option.some.injEq, Prod.mk.injEq] at h
    obtain ⟨rfl, rfl⟩ := h
    exact ⟨[], .absent, rfl⟩

/-- A predicate is found in front of blanks. -/
theorem predicate_of_writes {slash gap : Text} {part : Option Text}
    (written : Maybe WritesPredicate part slash) (row : IsRow isBlank gap) (rest : Text) :
    predicate (slash ++ (gap ++ rest)) = some (part, gap ++ rest) := by
  cases written with
  | absent =>
    apply predicate_none
    have leaves : Leaves (· == '/') (gap ++ rest) := row.leaves fun c blank => by
      rw [beq_eq_false_iff_ne]
      rintro rfl
      exact absurd blank (by decide)
    intro c first
    simpa using leaves c first
  | present writes =>
    obtain ⟨letters, rfl⟩ := writes
    have leaves : Leaves Char.isAlpha (gap ++ rest) :=
      row.leaves fun c => not_of_isBlank fun c => isWordChar_of_isAlpha
    exact predicate_slash letters.1 letters.2 leaves

theorem writes_of_offset {text rest : Text} {part : Option Text}
    (h : offset text = some (part, rest)) :
    ∃ bracket, Maybe WritesOffset part bracket ∧ bracket ++ rest = text := by
  unfold offset at h
  split at h
  · simp only [Option.bind_eq_bind, Option.bind_eq_some_iff, Prod.exists, skip_eq_some_iff,
      signedDigits_eq_some_iff, trimStart_eq_iff, Option.some.injEq, Prod.mk.injEq] at h
    obtain ⟨number, after, ⟨is_number, -, start⟩, _, ⟨blanks, blank, -, stop⟩, rfl, rfl⟩ := h
    obtain ⟨before, blank_before, -, whole⟩ := trimStart_eq_iff.mp start.symm
    refine ⟨_, .present ⟨before, blanks, blank_before, blank, is_number, rfl⟩, ?_⟩
    rw [← whole, ← stop]
    simp only [List.cons_append, List.append_assoc, List.nil_append]
  · simp only [Option.some.injEq, Prod.mk.injEq] at h
    obtain ⟨rfl, rfl⟩ := h
    exact ⟨[], .absent, rfl⟩

/-- An offset is found at the end of a text. -/
theorem offset_of_writes {bracket : Text} {part : Option Text}
    (written : Maybe WritesOffset part bracket) : offset bracket = some (part, []) := by
  cases written with
  | absent => rfl
  | @present number _ writes =>
    obtain ⟨before, after, blank, blank_after, is_number, rfl⟩ := writes
    have close : trimStart (after ++ [']']) = [']'] :=
      trimStart_eq_iff.mpr ⟨after, blank_after, leaves_cons.mpr (by decide), rfl⟩
    have start : trimStart (before ++ (number ++ (after ++ [']']))) = number ++ (after ++ [']']) :=
      trimStart_eq_iff.mpr ⟨before, blank, is_number.leaves_isBlank _, rfl⟩
    have stop : Leaves Char.isDigit (after ++ [']']) :=
      leaves_append_of_blank (fun c => isWordChar_of_isDigit) blank_after
        (leaves_cons.mpr (by decide))
    have digits : signedDigits (number ++ (after ++ [']'])) = some (number, after ++ [']']) :=
      signedDigits_eq_some_iff.mpr ⟨is_number, stop, rfl⟩
    simp only [offset, start, digits, close, skip_eq_some_iff.mpr rfl, Option.bind_eq_bind,
      Option.bind_some]

/-- The value of a data word is found when it makes up the whole text. -/
theorem dataValue_eq_some_iff {text found : Text} :
    dataValue text = some (found, []) ↔ IsValue found ∧ found = text := by
  constructor
  · intro h
    unfold dataValue at h
    split at h
    · obtain ⟨⟨digits, after⟩, scanned, same⟩ := Option.map_eq_some_iff.mp h
      obtain ⟨row, -, whole⟩ := run_eq_some_iff.mp scanned
      simp only [Prod.mk.injEq] at same
      obtain ⟨rfl, rfl⟩ := same
      rw [List.append_nil] at whole
      exact ⟨.hex row, by rw [whole]⟩
    · obtain ⟨number, -, whole⟩ := signedDigits_eq_some_iff.mp h
      rw [List.append_nil] at whole
      exact ⟨.number number, whole⟩
  · rintro ⟨value, rfl⟩
    cases value with
    | @hex digits row =>
      have scanned : run Numeral.isHexDigit digits = some (digits, []) :=
        run_eq_some_iff.mpr ⟨row, leaves_nil _, List.append_nil _⟩
      rw [dataValue, scanned, Option.map_some]
    | number number =>
      rw [dataValue, signedDigits_eq_some_iff.mpr ⟨number, leaves_nil _, List.append_nil _⟩]
      -- A number has no letter after a zero.
      rintro digits rfl
      cases number with
      | plain row => exact absurd (row.2 'x' (by simp)) (by decide)

theorem targetRegister_eq_some_iff {text found rest : Text} :
    targetRegister text = some (found, rest) ↔
      ∃ written, WritesTarget found written ∧ Leaves isBlank rest ∧ written ++ rest = text := by
  simp only [targetRegister, Option.bind_eq_bind, Option.bind_eq_some_iff, Prod.exists,
    register_eq_some_iff, comma_eq_some_iff, Option.some.injEq, Prod.mk.injEq]
  constructor
  · rintro ⟨_, _, ⟨register, -, rfl⟩, _, ⟨written, comma, leaves, rfl⟩, rfl, rfl⟩
    exact ⟨_, ⟨written, register, comma, rfl⟩, leaves, List.append_assoc _ _ _⟩
  · rintro ⟨_, ⟨written, register, comma, rfl⟩, leaves, rfl⟩
    have stop : Leaves Char.isDigit (written ++ rest) :=
      comma.leaves fun c => isWordChar_of_isDigit
    exact ⟨found, written ++ rest, ⟨register, stop, (List.append_assoc _ _ _).symm⟩, rest,
      ⟨written, comma, leaves, rfl⟩, rfl, rfl⟩

/-- A target register with a comma, or nothing. -/
def optionalTarget (text : Text) : Option Text × Text :=
  match targetRegister text with
  | some (found, rest) => (some found, rest)
  | none => (none, text)

/-- A symbol with or without a target register before it is found when the two make up the whole
    text. -/
theorem operands_iff {text symbol : Text} {target : Option Text} :
    (optionalTarget text).1 = target ∧ name (optionalTarget text).2 = some (symbol, []) ↔
      ∃ register, Maybe WritesTarget target register ∧ IsName symbol ∧
        register ++ symbol = text := by
  constructor
  · rintro ⟨found_target, found_name⟩
    obtain ⟨is_name, -, rest⟩ := name_eq_some_iff.mp found_name
    rw [List.append_nil] at rest
    cases scanned : targetRegister text with
    | some parts =>
      obtain ⟨written, writes, -, whole⟩ := targetRegister_eq_some_iff.mp scanned
      simp only [optionalTarget, scanned] at found_target rest
      rw [← found_target]
      exact ⟨written, .present writes, is_name, by rw [rest, whole]⟩
    | none =>
      simp only [optionalTarget, scanned] at found_target rest
      rw [← found_target]
      exact ⟨[], .absent, is_name, rest⟩
  · rintro ⟨_, written, is_name, rfl⟩
    have found : name symbol = some (symbol, []) :=
      name_eq_some_iff.mpr ⟨is_name, leaves_nil _, List.append_nil _⟩
    unfold optionalTarget
    cases written with
    | present writes =>
      have leaves := leaves_isBlank_name is_name []
      rw [List.append_nil] at leaves
      rw [targetRegister_eq_some_iff.mpr ⟨_, writes, leaves, rfl⟩]
      exact ⟨rfl, found⟩
    | absent =>
      -- Where there is no comma there is no target register.
      have no_comma := (inner_of_word fun c hc => is_name.isWordChar hc).count_comma
      cases scanned : targetRegister symbol with
      | none =>
        rw [List.nil_append, scanned]
        exact ⟨rfl, found⟩
      | some parts =>
        obtain ⟨written, writes, -, whole⟩ := targetRegister_eq_some_iff.mp scanned
        have comma := count_comma_target (.present writes)
        rw [← whole, List.count_append, comma] at no_comma
        exact absurd no_comma (by simp)

end Scan

end DuckMachine
