import DuckMachine.Text.Lines

/-
  Lines written and read.

  A line that holds no line feed and does not end with a carriage return is found again in front of
  the line feed that ends it (`lines_append_newline`). No line of any text holds a line feed.
-/

namespace DuckMachine

namespace Text

/-! ## Lines of a text -/

/-- A character is kept unless the line ends with it. -/
theorem lineOfPiece_cons_of_not {c : Char} {rest : Text} (feed : ¬(c = '\n' ∧ rest = []))
    (return_ : ¬(c = '\r' ∧ rest = ['\n'])) :
    lineOfPiece (c :: rest) = c :: lineOfPiece rest := by
  rw [lineOfPiece]
  · exact fun same empty => feed ⟨same, empty⟩
  · exact fun same last => return_ ⟨same, last⟩

theorem lineOfPiece_cons (c : Char) (rest : Text) :
    lineOfPiece (c :: rest) = [] ∨ lineOfPiece (c :: rest) = c :: lineOfPiece rest := by
  by_cases feed : c = '\n' ∧ rest = []
  · obtain ⟨rfl, rfl⟩ := feed
    exact .inl rfl
  · by_cases return_ : c = '\r' ∧ rest = ['\n']
    · obtain ⟨rfl, rfl⟩ := return_
      exact .inl rfl
    · exact .inr (lineOfPiece_cons_of_not feed return_)

theorem newline_not_mem_lineOfPiece {text piece : Text} (h : piece ∈ text.pieces) :
    '\n' ∉ lineOfPiece piece := by
  induction text generalizing piece with
  | nil => cases h
  | cons c rest ih =>
    rw [pieces] at h
    split at h
    · next newline =>
      rcases List.mem_cons.mp h with rfl | h
      · rw [newline, lineOfPiece]
        exact List.not_mem_nil
      · exact ih h
    · next other =>
      have extend {first : Text} (clean : '\n' ∉ lineOfPiece first) :
          '\n' ∉ lineOfPiece (c :: first) := by
        rcases lineOfPiece_cons c first with empty | kept
        · rw [empty]
          exact List.not_mem_nil
        · rw [kept, List.mem_cons, not_or]
          exact ⟨Ne.symm other, clean⟩
      split at h
      · rw [List.mem_singleton.mp h]
        exact extend List.not_mem_nil
      · next first others cut =>
        rcases List.mem_cons.mp h with rfl | h
        · exact extend (ih (cut ▸ List.mem_cons_self))
        · exact ih (cut ▸ List.mem_cons_of_mem _ h)

/-- No line of a text holds a line feed. -/
theorem newline_not_mem_of_mem_lines {text line : Text} (h : line ∈ text.lines) : '\n' ∉ line := by
  obtain ⟨piece, found, rfl⟩ := List.mem_map.mp h
  exact newline_not_mem_lineOfPiece found

/-! ## A line at a time -/

/-- Whether a text can be written as a line and read again. -/
def IsLine (text : Text) : Prop := '\n' ∉ text ∧ text.getLast? ≠ some '\r'

theorem pieces_append_newline {line : Text} (h : '\n' ∉ line) (rest : Text) :
    (line ++ '\n' :: rest).pieces = (line ++ ['\n']) :: rest.pieces := by
  induction line with
  | nil => rw [List.nil_append, pieces, if_pos rfl, List.nil_append]
  | cons c line ih =>
    rw [List.mem_cons, not_or] at h
    rw [List.cons_append, pieces, if_neg (Ne.symm h.1), ih h.2, List.cons_append]

theorem lineOfPiece_append_newline {line : Text} (h : IsLine line) :
    lineOfPiece (line ++ ['\n']) = line := by
  obtain ⟨newline, return_⟩ := h
  induction line with
  | nil => rfl
  | cons c line ih =>
    rw [List.mem_cons, not_or] at newline
    rw [List.cons_append, lineOfPiece_cons_of_not, ih newline.2]
    · intro last
      rw [List.getLast?_cons, last] at return_
      exact return_ rfl
    · rintro ⟨-, empty⟩
      exact absurd empty (by simp)
    · rintro ⟨rfl, last⟩
      have empty : line = [] := by simpa using last
      rw [empty] at return_
      exact return_ rfl

theorem lines_append_newline {line : Text} (h : IsLine line) (rest : Text) :
    (line ++ '\n' :: rest).lines = line :: rest.lines := by
  rw [lines, pieces_append_newline h.1, List.map_cons, lineOfPiece_append_newline h]
  rfl

end Text

end DuckMachine
