import DuckMachine.Proofs.Asm.Line

/-
  The end of a line: blanks there mean nothing.

  Blanks written after a line come to stand behind its body or go on with its comment. The grammar
  allows both, as long as no line feed gets into the comment (`Derives.append_blanks`), and it
  allows every line to lose the blanks at its end. A text without line feeds is therefore derived
  in the same ways with and without them, so that it means the same or is wrong in the same way
  (`parse_trimEnd_eq`).
-/

namespace DuckMachine

open Text Grammar

namespace Grammar

/-- A line with blanks after it still consists of the same label and body, unless they bring a
    line feed into its comment. -/
theorem Surrounds.append_blanks {body line blanks : Text} {label : Option Text}
    (h : Surrounds body label line) (blank : AllBlank blanks) (newline : '\n' ∉ blanks) :
    Surrounds body label (line ++ blanks) := by
  obtain ⟨blank_before, written, blank_gap, blank_after, is_comment⟩ := h
  rename_i before colon gap after comment
  cases is_comment with
  | absent =>
    have longer : AllBlank (after ++ blanks) := List.forall_mem_append.mpr ⟨blank_after, blank⟩
    have surrounds : Surrounds body label _ :=
      .line blank_before written blank_gap longer .absent
    simpa only [List.append_assoc, List.append_nil] using surrounds
  | @present c text opens unbroken =>
    have longer : IsComment (c :: (text ++ blanks)) := by
      refine .present opens fun found => ?_
      rcases List.mem_append.mp found with inside | added
      · exact unbroken inside
      · exact newline added
    have surrounds : Surrounds body label _ :=
      .line blank_before written blank_gap blank_after longer
    simpa only [List.append_assoc, List.cons_append] using surrounds

theorem Derives.append_blanks {label : Option Text} {form : Form} {line blanks : Text}
    (h : Derives label form line) (blank : AllBlank blanks) (newline : '\n' ∉ blanks) :
    Derives label form (line ++ blanks) := by
  obtain ⟨body, written, surrounds⟩ := h
  exact ⟨body, written, surrounds.append_blanks blank newline⟩

/-- A text without line feeds is derived as it is without the blanks at its end. -/
theorem derives_trimEnd_iff {label : Option Text} {form : Form} {text : Text}
    (newline : '\n' ∉ text) : Derives label form text.trimEnd ↔ Derives label form text := by
  constructor
  · intro derived
    obtain ⟨blanks, blank, whole⟩ := trimEnd_append text
    rw [← whole] at newline ⊢
    exact derived.append_blanks blank fun found => newline (List.mem_append_right _ found)
  · exact Derives.trimEnd

end Grammar

namespace Line

/-- A text without line feeds means what it means without the blanks at its end, and if it means
    nothing, then for the same reason. -/
theorem parse_trimEnd_eq {text : Text} (newline : '\n' ∉ text) :
    parse text.trimEnd = parse text := by
  have same : Form.ofLine? text.trimEnd = Form.ofLine? text := by
    apply Option.ext
    rintro ⟨label, form⟩
    rw [Form.ofLine?_eq_some_iff, Form.ofLine?_eq_some_iff, derives_trimEnd_iff newline]
  rw [parse, same, parse]

/-- Texts without line feeds that differ in the blanks at their ends mean the same. -/
theorem parse_eq_of_trimEnd_eq {text other : Text} (newline : '\n' ∉ text)
    (newline_other : '\n' ∉ other) (same : text.trimEnd = other.trimEnd) :
    parse text = parse other := by
  rw [← parse_trimEnd_eq newline, same, parse_trimEnd_eq newline_other]

/-- Blanks at the end of a line are irrelevant: a text without line feeds has the same meaning or
    the same error without them, and a text that means something means it without them, line feeds
    or not. -/
theorem end_blanks_irrelevant (text : Text) :
    ('\n' ∉ text → parse text.trimEnd = parse text) ∧
      ∀ line, parse text = .ok line → parse text.trimEnd = .ok line :=
  ⟨parse_trimEnd_eq, fun _ => parse_trimEnd⟩

/-- A comment cannot hold the line feed that trimming takes from it. -/
example : parse "#\n".toList = .error .noMatch ∧ parse "#".toList = .ok ⟨none, .nothing⟩ := by
  decide

/-- A line with an unknown register, a comment and an ideographic space at its end. -/
def spacedComment : Text := "n: ADD r1,r2,r99 ;\u3000".toList

/-- An instruction with a line feed and a tab after it. -/
def brokenEnd : Text := "n: HALT r0,r0,r0[-7]\n\t".toList

theorem end_blanks_irrelevant_spacedComment :
    '\n' ∉ spacedComment ∧
      spacedComment.trimEnd = "n: ADD r1,r2,r99 ;".toList ∧
      parse spacedComment.trimEnd = parse spacedComment ∧
      parse spacedComment = .error (.field (.badRegister "r99".toList)) ∧
      '\n' ∈ brokenEnd ∧
      parse brokenEnd = .ok ⟨some ['n'], .full ⟨.halt, .always, 0, 0, 0, -7⟩⟩ ∧
      parse brokenEnd.trimEnd = .ok ⟨some ['n'], .full ⟨.halt, .always, 0, 0, 0, -7⟩⟩ := by
  have unbroken : '\n' ∉ spacedComment := by decide
  have parsed : parse brokenEnd = .ok ⟨some ['n'], .full ⟨.halt, .always, 0, 0, 0, -7⟩⟩ := by
    decide
  exact ⟨unbroken, by decide, (end_blanks_irrelevant spacedComment).1 unbroken, by decide,
    by decide, parsed, (end_blanks_irrelevant brokenEnd).2 _ parsed⟩

end Line

end DuckMachine
