import DuckMachine.Proofs.Asm.Assembly
import DuckMachine.Proofs.Text.Lines

/-
  Object files.

  Assembled lines hold no line feed and end with a character that is no blank, so the text of an
  object file splits into the lines that were written to it (`lines_fileText`,
  `isLine_of_assemble`). Only the file of no lines at all comes back with a line, which is empty
  and loads to no word.
-/

namespace DuckMachine

open Text

namespace Object

/-! ## The text of a file -/

theorem fileText_singleton (line : Text) : fileText [line] = line ++ ['\n'] := by
  rw [fileText, List.intercalate_singleton]

theorem fileText_cons_cons (line next : Text) (rest : List Text) :
    fileText (line :: next :: rest) = line ++ '\n' :: fileText (next :: rest) := by
  simp [fileText, List.intercalate_cons_cons]

/-- Lines are found again in the text of the file that they are written to, if there are any. -/
theorem lines_fileText {lines : List Text} (nonempty : lines ≠ [])
    (clean : ∀ line ∈ lines, IsLine line) : (fileText lines).lines = lines := by
  induction lines with
  | nil => exact absurd rfl nonempty
  | cons line rest ih =>
    have first : IsLine line := clean line List.mem_cons_self
    cases rest with
    | nil =>
      rw [fileText_singleton, lines_append_newline first]
      rfl
    | cons next rest =>
      rw [fileText_cons_cons, lines_append_newline first,
        ih (List.cons_ne_nil _ _) fun other h => clean other (List.mem_cons_of_mem _ h)]

/-- What is loaded from the text of a file is what is loaded from its lines, even if there are
    none. -/
theorem load_lines_fileText {lines : List Text} (clean : ∀ line ∈ lines, IsLine line) :
    load (fileText lines).lines = load lines := by
  by_cases empty : lines = []
  · subst empty
    rfl
  · rw [lines_fileText empty clean]

end Object

/-! ## Assembled lines -/

theorem isLine_of_endsSolid {text : Text} (newline : '\n' ∉ text) (solid : EndsSolid text) :
    IsLine text := by
  refine ⟨newline, ?_⟩
  intro last
  exact absurd (solid '\r' last) (by decide)

theorem isLine_trimEnd {text : Text} (h : '\n' ∉ text) : IsLine text.trimEnd :=
  isLine_of_endsSolid (fun newline => h (mem_of_mem_trimEnd newline)) (endsSolid_trimEnd text)

theorem endsSolid_renderLabelled (label : Option Text) (i : Instr) :
    EndsSolid (renderLabelled label i) := by
  cases label with
  | none => exact i.isBody_render.endsSolid
  | some name =>
    have tail : name ++ ':' :: ' ' :: i.render = (name ++ [':', ' ']) ++ i.render := by simp
    rw [renderLabelled, tail]
    exact endsSolid_append i.render_ne_nil i.isBody_render.endsSolid

theorem isLine_renderLabelled {label : Option Text} (names : ∀ name ∈ label, IsName name)
    (i : Instr) : IsLine (renderLabelled label i) := by
  have newline := i.newline_not_mem_render
  refine isLine_of_endsSolid ?_ (endsSolid_renderLabelled label i)
  cases label with
  | none => exact newline
  | some name =>
    intro found
    rcases List.mem_append.mp found with inside | after
    · exact ne_newline_of_isWordChar ((names name rfl).isWordChar inside) rfl
    · simp only [List.mem_cons, Char.reduceEq, false_or] at after
      exact newline after

/-- What is written for a line can be read again as a line. -/
theorem Rewritten.isLine {table : LabelTable} {text resolved : Text}
    (h : Rewritten table text resolved) (newline : '\n' ∉ text) : IsLine resolved := by
  obtain ⟨line, address, parsed, written⟩ := h
  rcases Line.resolve_cases parsed written with ⟨i, -, -, -, rfl⟩ | ⟨-, rfl⟩
  · exact isLine_renderLabelled (fun _ => Line.isName_of_parse parsed) i
  · exact isLine_trimEnd newline

/-- What holds of whatever is written for each line holds of all that is written. -/
theorem forall_of_rewritten {table : LabelTable} {lines object : List Text} {P : Text → Prop}
    (h : List.Forall₂ (Rewritten table) lines object)
    (each : ∀ text ∈ lines, ∀ resolved, Rewritten table text resolved → P resolved) :
    ∀ line ∈ object, P line := by
  induction h with
  | nil => exact fun _ impossible => absurd impossible List.not_mem_nil
  | cons first rest ih =>
    obtain ⟨here, others⟩ := List.forall_mem_cons.mp each
    exact List.forall_mem_cons.mpr ⟨here _ first, ih others⟩

theorem isLine_of_assemble {source : Text} {limit : Nat} {object : List Text}
    (h : (assemble source { limit }).1 = .ok (some object)) : ∀ line ∈ object, IsLine line := by
  obtain ⟨⟨-, clean⟩, rfl⟩ := clean_of_assemble h
  refine forall_of_rewritten (rewritten_of_resolution clean) fun text found resolved written => ?_
  exact written.isLine (newline_not_mem_of_mem_lines found)

end DuckMachine
