import DuckMachine.Text.Ansi
import Mathlib.Data.List.Infix
import Mathlib.Data.List.Induction

/-
  What is left of a text without its escape sequences.

  Which characters belong to a sequence is said here of their places in the text: an escape
  character does, and so does every character in front of which a sequence has not come to its `m`
  (`EndsInside`). Stripping keeps exactly the other ones (`strip_eq_shown`). It goes through a text
  part by part, and all that the first part tells the second is whether it ends inside of a sequence
  (`strip_append`).
-/

namespace DuckMachine.Ansi

/-- Whether a text ends inside of a sequence: no `m` comes after one of its escape characters. -/
def EndsInside (text : Text) : Prop := ∃ rest, escape :: rest <:+ text ∧ 'm' ∉ rest

theorem not_endsInside_nil : ¬EndsInside [] := by
  rintro ⟨rest, ends, -⟩
  exact List.cons_ne_nil _ _ (List.suffix_nil.mp ends)

theorem endsInside_cons {c : Char} {text : Text} :
    EndsInside (c :: text) ↔ c = escape ∧ 'm' ∉ text ∨ EndsInside text := by
  constructor
  · rintro ⟨rest, ends, unended⟩
    rcases List.suffix_cons_iff.mp ends with whole | later
    · obtain ⟨rfl, rfl⟩ := List.cons.inj whole
      exact .inl ⟨rfl, unended⟩
    · exact .inr ⟨rest, later, unended⟩
  · rintro (⟨rfl, unended⟩ | ⟨rest, ends, unended⟩)
    · exact ⟨text, List.suffix_rfl, unended⟩
    · exact ⟨rest, ends.trans (List.suffix_cons c text), unended⟩

instance decidableEndsInside : (text : Text) → Decidable (EndsInside text)
  | [] => isFalse not_endsInside_nil
  | _ :: text =>
    have := decidableEndsInside text
    decidable_of_iff _ endsInside_cons.symm

theorem endsInside_cons_of_ne {c : Char} (other : c ≠ escape) {text : Text} :
    EndsInside (c :: text) ↔ EndsInside text := by
  rw [endsInside_cons, or_iff_right fun begins => other begins.1]

theorem not_endsInside_of_not_mem {text : Text} (h : escape ∉ text) : ¬EndsInside text := by
  rintro ⟨rest, ends, -⟩
  exact h (ends.mem List.mem_cons_self)

/-! ## Stripping part by part -/

theorem strip_cons_of_ne {c : Char} (other : c ≠ escape) (text : Text) :
    strip (c :: text) = c :: strip text := by
  rw [strip, if_neg other]

theorem strip_escape (text : Text) : strip (escape :: text) = strip.skip text := by
  rw [strip, if_pos rfl]

/-- Stripping goes on behind a first part from inside of a sequence or from outside. The same holds
    if the first part begins inside of a sequence. -/
theorem strip_append_and_skip_append (first rest : Text) :
    strip (first ++ rest) =
        strip first ++ (if EndsInside first then strip.skip rest else strip rest) ∧
      strip.skip (first ++ rest) =
        strip.skip first
          ++ (if EndsInside (escape :: first) then strip.skip rest else strip rest) := by
  induction first with
  | nil =>
    have inside : EndsInside [escape] := endsInside_cons.mpr (.inl ⟨rfl, List.not_mem_nil⟩)
    rw [if_neg not_endsInside_nil, if_pos inside]
    exact ⟨rfl, rfl⟩
  | cons c first ih =>
    obtain ⟨outside, inside⟩ := ih
    constructor
    · by_cases begins : c = escape
      · rw [begins, List.cons_append, strip_escape, strip_escape, inside]
      · rw [List.cons_append, strip_cons_of_ne begins, strip_cons_of_ne begins, outside,
          if_congr (endsInside_cons_of_ne begins) rfl rfl, List.cons_append]
    · by_cases ends : c = 'm'
      · have after : EndsInside (escape :: c :: first) ↔ EndsInside first := by
          rw [endsInside_cons, ends, endsInside_cons_of_ne (by decide)]
          simp
        rw [List.cons_append, strip.skip, if_pos ends, strip.skip, if_pos ends, outside,
          if_congr after rfl rfl]
      · have after : EndsInside (escape :: c :: first) ↔ EndsInside (escape :: first) := by
          simp only [endsInside_cons, List.mem_cons, Ne.symm ends, false_or]
          tauto
        rw [List.cons_append, strip.skip, if_neg ends, strip.skip, if_neg ends, inside,
          if_congr after rfl rfl]

theorem strip_append (first rest : Text) :
    strip (first ++ rest) =
      strip first ++ if EndsInside first then strip.skip rest else strip rest :=
  (strip_append_and_skip_append first rest).1

/-! ## The characters that are left -/

/-- The characters of a text that belong to no sequence: those that are no escape character and in
    front of which no sequence is still open. -/
def shown (text : Text) : Text :=
  (text.zipIdx.filter fun entry =>
    entry.1 ≠ escape ∧ ¬EndsInside (text.take entry.2)).map Prod.fst

theorem shown_concat (text : Text) (c : Char) :
    shown (text ++ [c]) = shown text ++ if c ≠ escape ∧ ¬EndsInside text then [c] else [] := by
  have before : ∀ entry ∈ text.zipIdx, (text ++ [c]).take entry.2 = text.take entry.2 := by
    intro entry found
    have inside := List.snd_lt_of_mem_zipIdx found
    exact List.take_append_of_le_length (by omega)
  unfold shown
  rw [List.zipIdx_append, List.filter_append, List.map_append]
  congr 1
  · refine congrArg (List.map Prod.fst) (List.filter_congr fun entry found => ?_)
    rw [before entry found]
  · by_cases kept : c ≠ escape ∧ ¬EndsInside text
    · simp [kept]
    · simp [kept]

/-- Stripping a text leaves exactly the characters that belong to no sequence. -/
theorem strip_eq_shown (text : Text) : strip text = shown text := by
  induction text using List.reverseRecOn with
  | nil => rfl
  | append_singleton text c ih =>
    rw [strip_append, shown_concat, ih]
    congr 1
    by_cases inside : EndsInside text
    · rw [if_pos inside, if_neg fun kept => kept.2 inside, strip.skip]
      split <;> rfl
    · rw [if_neg inside, strip]
      by_cases begins : c = escape
      · rw [if_pos begins, if_neg fun kept => kept.1 begins]
        rfl
      · rw [if_neg begins, if_pos ⟨begins, inside⟩]
        rfl

theorem escape_not_mem_strip (text : Text) : escape ∉ strip text := by
  rw [strip_eq_shown]
  intro found
  obtain ⟨entry, kept, same⟩ := List.mem_map.mp found
  have other := (List.mem_filter.mp kept).2
  simp [same] at other

theorem strip_of_not_mem {text : Text} (h : escape ∉ text) : strip text = text := by
  induction text with
  | nil => rfl
  | cons c text ih =>
    rw [List.mem_cons, not_or] at h
    rw [strip_cons_of_ne (Ne.symm h.1), ih h.2]

theorem strip_append_of_not_mem {text : Text} (h : escape ∉ text) (rest : Text) :
    strip (text ++ rest) = text ++ strip rest := by
  rw [strip_append, if_neg (not_endsInside_of_not_mem h), strip_of_not_mem h]

/-! ## Sequences -/

theorem skip_append {inner : Text} (h : 'm' ∉ inner) (rest : Text) :
    strip.skip (inner ++ 'm' :: rest) = strip rest := by
  induction inner with
  | nil => rw [List.nil_append, strip.skip, if_pos rfl]
  | cons c inner ih =>
    rw [List.mem_cons, not_or] at h
    rw [List.cons_append, strip.skip, if_neg (Ne.symm h.1), ih h.2]

/-- A sequence with an end is taken out of what is around it. -/
theorem strip_around {before inner : Text} (outside : ¬EndsInside before) (h : 'm' ∉ inner)
    (after : Text) :
    strip (before ++ escape :: (inner ++ 'm' :: after)) = strip before ++ strip after := by
  rw [strip_append, if_neg outside, strip_escape, skip_append h]

/-- Plain text in a style is left as it is. -/
theorem strip_styled_append {code text : Text} (h : 'm' ∉ code) (plain : escape ∉ text)
    (rest : Text) : strip (styled code text ++ rest) = text ++ strip rest := by
  have opening : 'm' ∉ '[' :: code := List.not_mem_cons_of_ne_of_not_mem (by decide) h
  have shape : styled code text ++ rest =
      [] ++ escape :: (('[' :: code) ++ 'm' ::
        (text ++ escape :: (['[', '0'] ++ 'm' :: rest))) := by
    simp [styled, sequence]
  rw [shape, strip_around not_endsInside_nil opening,
    strip_around (not_endsInside_of_not_mem plain) (by decide), strip_of_not_mem plain]
  rfl

end DuckMachine.Ansi
