import DuckMachine.Proofs.Text.Classes
import Mathlib.Data.List.DropRight

/-
  Trimming: what is left of a text without the blanks at its ends.

  `trimEnd` is the library's `rdropWhile`. Blanks added at the end change nothing
  (`trimEnd_append_blanks`, `trim_append_blanks`), and a text that begins and ends with other
  characters is its own trimmed form (`trim_of_ends`).
-/

namespace DuckMachine.Text

/-- A text of blanks only. -/
def AllBlank (text : Text) : Prop := ∀ c ∈ text, isBlank c = true

/-- Whether a text is empty or ends with a character that is no blank. -/
def EndsSolid (text : Text) : Prop := ∀ c ∈ text.getLast?, isBlank c = false

theorem endsSolid_singleton {c : Char} (h : isBlank c = false) : EndsSolid [c] := by
  intro d hd
  rw [List.getLast?_singleton, Option.mem_some_iff] at hd
  rw [← hd, h]

theorem endsSolid_of_forall {text : Text} (h : ∀ c ∈ text, isBlank c = false) :
    EndsSolid text :=
  fun c hc => h c (List.mem_of_getLast? hc)

theorem endsSolid_append {start stop : Text} (nonempty : stop ≠ []) (h : EndsSolid stop) :
    EndsSolid (start ++ stop) := by
  intro c hc
  rw [List.getLast?_append_of_ne_nil _ nonempty] at hc
  exact h c hc

theorem endsSolid_cons {c : Char} (h : isBlank c = false) {rest : Text} (solid : EndsSolid rest) :
    EndsSolid (c :: rest) := by
  cases rest with
  | nil => exact endsSolid_singleton h
  | cons d more =>
    rw [← List.singleton_append]
    exact endsSolid_append (List.cons_ne_nil d more) solid

/-- The first character of a text goes with the end only if all others do. -/
theorem rdropWhile_cons (p : Char → Bool) (c : Char) (rest : Text) :
    (c :: rest).rdropWhile p =
      match rest.rdropWhile p with
      | [] => if p c then [] else [c]
      | kept => c :: kept := by
  simp only [List.rdropWhile, List.reverse_cons, List.dropWhile_append]
  cases h : List.dropWhile p rest.reverse with
  | nil => cases hc : p c <;> simp [hc]
  | cons d kept => simp

theorem rdropWhile_append_of_pos {p : Char → Bool} {stop : Text} (h : ∀ c ∈ stop, p c = true)
    (start : Text) : (start ++ stop).rdropWhile p = start.rdropWhile p := by
  simp only [List.rdropWhile, List.reverse_append]
  rw [List.dropWhile_append_of_pos]
  exact fun c hc => h c (List.mem_reverse.mp hc)

theorem trimEnd_eq_rdropWhile (text : Text) : text.trimEnd = text.rdropWhile isBlank := by
  induction text with
  | nil => rfl
  | cons c rest ih =>
    rw [trimEnd, rdropWhile_cons, ih]
    rfl

/-- A text is its trimmed form and blanks after it. -/
theorem trimEnd_append (text : Text) :
    ∃ blanks, AllBlank blanks ∧ text.trimEnd ++ blanks = text := by
  refine ⟨text.rtakeWhile isBlank, fun c hc => List.mem_rtakeWhile_imp hc, ?_⟩
  rw [trimEnd_eq_rdropWhile, List.rdropWhile_append_rtakeWhile]

theorem mem_of_mem_trimEnd {text : Text} {c : Char} (h : c ∈ text.trimEnd) : c ∈ text := by
  obtain ⟨blanks, -, whole⟩ := trimEnd_append text
  rw [← whole]
  exact List.mem_append_left _ h

theorem endsSolid_trimEnd (text : Text) : EndsSolid text.trimEnd := by
  intro c hc
  rw [trimEnd_eq_rdropWhile] at hc
  have nonempty : text.rdropWhile isBlank ≠ [] := by
    intro empty
    simp [empty] at hc
  have last := List.rdropWhile_last_not isBlank text nonempty
  rw [Option.mem_def, List.getLast?_eq_getLast_of_ne_nil nonempty, Option.some.injEq] at hc
  simpa [hc] using last

theorem trimEnd_of_endsSolid {text : Text} (h : EndsSolid text) : text.trimEnd = text := by
  rw [trimEnd_eq_rdropWhile, List.rdropWhile_eq_self_iff]
  intro nonempty
  simpa using h _ (List.getLast?_eq_getLast_of_ne_nil nonempty)

theorem trimEnd_append_blanks (text : Text) {blanks : Text} (h : AllBlank blanks) :
    (text ++ blanks).trimEnd = text.trimEnd := by
  rw [trimEnd_eq_rdropWhile, trimEnd_eq_rdropWhile, rdropWhile_append_of_pos h]

theorem trimStart_of_leaves {text : Text} (h : Leaves isBlank text) : text.trimStart = text :=
  dropWhile_of_leaves h

theorem trimStart_allBlank {text : Text} (h : AllBlank text) : text.trimStart = [] :=
  List.dropWhile_eq_nil_iff.mpr h

theorem trimStart_blanks_append {blanks : Text} (h : AllBlank blanks) (text : Text) :
    (blanks ++ text).trimStart = text.trimStart :=
  List.dropWhile_append_of_pos h

/-- Trimming the start of a text takes the blanks that it begins with. -/
theorem trimStart_eq_iff {text rest : Text} :
    text.trimStart = rest ↔
      ∃ blanks, AllBlank blanks ∧ Leaves isBlank rest ∧ blanks ++ rest = text := by
  constructor
  · rintro rfl
    refine ⟨text.takeWhile isBlank, fun c hc => List.mem_takeWhile_imp hc, ?_, ?_⟩
    · exact leaves_dropWhile _ _
    · exact List.takeWhile_append_dropWhile
  · rintro ⟨blanks, blank, leaves, rfl⟩
    rw [trimStart_blanks_append blank, trimStart_of_leaves leaves]

/-- Trimming the start of a text takes the blanks at its end only if it takes everything. -/
theorem trimStart_append_blanks (text : Text) {blanks : Text} (h : AllBlank blanks) :
    (text ++ blanks).trimStart = if text.trimStart = [] then [] else text.trimStart ++ blanks := by
  unfold trimStart
  rw [List.dropWhile_append]
  simp only [List.isEmpty_iff]
  split
  · exact trimStart_allBlank h
  · rfl

theorem trim_append_blanks (text : Text) {blanks : Text} (h : AllBlank blanks) :
    (text ++ blanks).trim = text.trim := by
  unfold trim
  rw [trimStart_append_blanks text h]
  split
  · next empty => rw [empty]
  · rw [trimEnd_append_blanks _ h]

theorem trim_blanks_append {blanks : Text} (h : AllBlank blanks) (text : Text) :
    (blanks ++ text).trim = text.trim := by
  rw [trim, trimStart_blanks_append h, trim]

/-- A text is its trimmed form between blanks. -/
theorem trim_append (text : Text) :
    ∃ before after, AllBlank before ∧ AllBlank after ∧ before ++ (text.trim ++ after) = text := by
  obtain ⟨before, blank, -, start⟩ := trimStart_eq_iff.mp (rfl : text.trimStart = text.trimStart)
  obtain ⟨after, blank_after, stop⟩ := trimEnd_append text.trimStart
  refine ⟨before, after, blank, blank_after, ?_⟩
  rw [trim, stop, start]

/-- A text with no blank at its ends is its own trimmed form. -/
theorem trim_of_ends {text : Text} (start : Leaves isBlank text) (stop : EndsSolid text) :
    text.trim = text := by
  rw [trim, trimStart_of_leaves start, trimEnd_of_endsSolid stop]

end DuckMachine.Text
