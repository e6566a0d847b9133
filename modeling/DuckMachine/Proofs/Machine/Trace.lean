import DuckMachine.Machine.Trace
import DuckMachine.Proofs.Asm.Line
import DuckMachine.Proofs.Text.Ansi

/-
  The lines of a trace in plain text.

  What a line says is the same in every style (`plainEvent`): styles only put escape sequences
  around its parts, none of the parts holds an escape character, and the minimal style takes the
  sequences out again. So the line of an instruction in the minimal style is what is written without
  colours (`event_of_minimal`, `event_of_colourless`).
-/

namespace DuckMachine

open Ansi Grammar

namespace TraceStyle

/-! ## The parts of a line -/

theorem escape_not_mem_integer (n : Int) : escape ∉ Numeral.integer n :=
  fun found => absurd ((Instr.isNumber_integer n).inner _ found) (by decide)

theorem escape_not_mem_padLeft {text : Text} (h : escape ∉ text) {fill : Char}
    (other : fill ≠ escape) (width : Nat) : escape ∉ text.padLeft width fill := by
  intro found
  rcases List.mem_append.mp found with filled | inside
  · exact other (List.eq_of_mem_replicate filled).symm
  · exact h inside

theorem escape_not_mem_hex (w : Word) : escape ∉ w.hex := by
  refine escape_not_mem_padLeft (fun found => ?_) (by decide) 8
  obtain ⟨digit, same⟩ := Numeral.exists_digitChar (by decide) found
  exact Nat.digitChar_ne escape (by decide) same.symm

theorem escape_not_mem_render (i : Instr) : escape ∉ i.render :=
  i.not_mem_render (by decide) (by decide)

theorem escape_not_mem_remark (e : Event) : escape ∉ remark e := by
  unfold remark
  split
  · exact List.not_mem_nil
  · decide

/-! ## The line -/

/-- What the line of an instruction says: address, word, text and whether it is skipped. -/
def plainEvent (e : Event) : Text :=
  (Numeral.integer e.pc).padLeft 5 ' '
    ++ ' ' :: (e.word.hex ++ ' ' :: (e.instr.render ++ (remark e ++ ['\n'])))

theorem escape_not_mem_plainEvent (e : Event) : escape ∉ plainEvent e := by
  have address : escape ∉ (Numeral.integer e.pc).padLeft 5 ' ' :=
    escape_not_mem_padLeft (escape_not_mem_integer e.pc) (by decide) 5
  have space : escape ≠ ' ' := by decide
  have newline : escape ≠ '\n' := by decide
  simp [plainEvent, address, escape_not_mem_hex, escape_not_mem_render, escape_not_mem_remark,
    space, newline]

/-- The line of an instruction, put together from styled parts. -/
theorem event_eq (style : TraceStyle) (e : Event) :
    style.event e = style.emit
      (style.paint ['3', '6'] ((Numeral.integer e.pc).padLeft 5 ' ')
        ++ ' ' :: (style.paint ['2'] e.word.hex
          ++ ' ' :: (style.instruction e ++ (remark e ++ ['\n'])))) := by
  simp [event]

/-- Stripping takes the style from a painted part. -/
theorem strip_paint_append (style : TraceStyle) {code text : Text} (h : 'm' ∉ code)
    (plain : escape ∉ text) (rest : Text) :
    strip (style.paint code text ++ rest) = text ++ strip rest := by
  unfold paint
  split
  · exact strip_styled_append h plain rest
  · exact strip_append_of_not_mem plain rest

theorem strip_instruction_append (style : TraceStyle) (e : Event) (rest : Text) :
    strip (style.instruction e ++ rest) = e.instr.render ++ strip rest := by
  unfold instruction
  split
  · exact strip_append_of_not_mem (escape_not_mem_render e.instr) rest
  · exact strip_paint_append style (by decide) (escape_not_mem_render e.instr) rest

/-- The minimal style writes the plain line, with colours or without. -/
theorem event_of_minimal {style : TraceStyle} (h : style.minimal = true) (e : Event) :
    style.event e = plainEvent e := by
  have space (rest : Text) : strip (' ' :: rest) = ' ' :: strip rest :=
    strip_cons_of_ne (by decide) rest
  have last : escape ∉ remark e ++ ['\n'] := by
    simp [escape_not_mem_remark, show escape ≠ '\n' by decide]
  rw [event_eq, emit, if_pos h,
    strip_paint_append style (by decide)
      (escape_not_mem_padLeft (escape_not_mem_integer e.pc) (by decide) 5),
    space, strip_paint_append style (by decide) (escape_not_mem_hex e.word), space,
    strip_instruction_append, strip_of_not_mem last, plainEvent]

/-- Without colours every style writes the plain line. -/
theorem event_of_colourless {style : TraceStyle} (h : style.colours = false) (e : Event) :
    style.event e = plainEvent e := by
  cases minimal : style.minimal with
  | true => exact event_of_minimal minimal e
  | false =>
    have unpainted (code text : Text) : style.paint code text = text := by simp [paint, h]
    rw [event_eq, emit, if_neg (by simp [minimal]), unpainted, unpainted, instruction, unpainted,
      ite_self, plainEvent]

/-- The line of an instruction in the minimal style with colours is the one without colours, be that
    in the minimal style or not, and holds no escape character. That is due to the law of stripping:
    it leaves exactly the characters that belong to no sequence, so that no escape character is left
    and a text without one stays as it is, and it takes a sequence with an end out of what is around
    it. -/
theorem minimal_event_is_plain :
    (∀ (e : Event) (minimal : Bool),
      event { minimal := true, colours := true } e = event { minimal, colours := false } e) ∧
    (∀ e : Event, escape ∉ event { minimal := true, colours := true } e) ∧
    (∀ text, strip text = shown text ∧ escape ∉ strip text ∧
      (escape ∉ text → strip text = text)) ∧
    ∀ before inner after, ¬EndsInside before → 'm' ∉ inner →
      strip (before ++ escape :: (inner ++ 'm' :: after)) = strip before ++ strip after := by
  refine ⟨?_, ?_, ?_, fun _ _ after outside unended => strip_around outside unended after⟩
  · intro e minimal
    rw [event_of_minimal rfl, event_of_colourless rfl]
  · intro e
    rw [event_of_minimal rfl]
    exact escape_not_mem_plainEvent e
  · intro text
    exact ⟨strip_eq_shown text, escape_not_mem_strip text, strip_of_not_mem⟩

/-- A halt that is skipped. -/
def skippedHalt : Event :=
  { pc := 2, word := 0, instr := ⟨.halt, .never, 0, 0, 0, 0⟩, executes := false }

/-- The rest of a styled text, after which a sequence is left open. -/
def leftOpen : Text := "mm".toList ++ sequence ['0'] ++ "!".toList ++ escape :: "[2;".toList

theorem minimal_event_is_plain_skippedHalt :
    event { minimal := true, colours := true } skippedHalt =
        event { minimal := false, colours := false } skippedHalt ∧
      event { minimal := false, colours := false } skippedHalt =
        "    2 00000000 HALT/NEVER r0,r0,r0 (skipped)\n".toList ∧
      event { minimal := false, colours := true } skippedHalt ≠
        event { minimal := false, colours := false } skippedHalt ∧
      escape ∉ "mum".toList ∧ strip "mum".toList = "mum".toList ∧
      ¬EndsInside "mum".toList ∧ 'm' ∉ "[1".toList ∧ EndsInside leftOpen ∧
      strip ("mum".toList ++ escape :: ("[1".toList ++ 'm' :: leftOpen)) =
        strip "mum".toList ++ strip leftOpen ∧
      strip leftOpen = "mm!".toList := by
  obtain ⟨colourless, -, stripped, around⟩ := minimal_event_is_plain
  have plain : escape ∉ "mum".toList := by decide
  have outside : ¬EndsInside "mum".toList := by decide
  have unended : 'm' ∉ "[1".toList := by decide
  exact ⟨colourless skippedHalt false, by decide, by decide, plain, (stripped _).2.2 plain,
    outside, unended, by decide, around _ _ leftOpen outside unended, by decide⟩

end TraceStyle

end DuckMachine
