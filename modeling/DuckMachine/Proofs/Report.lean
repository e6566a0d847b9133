import DuckMachine.Proofs.Asm.Errors
import DuckMachine.Proofs.Asm.LineEnd
import DuckMachine.Proofs.Asm.Loading
import DuckMachine.Proofs.Text.Spans
import DuckMachine.Report

/-
  Reports point at the line that is wrong.

  The number in an error is that of a line of the text, and the mark in the report of the error is
  the stretch of that line (`covers_lineSpan`). A line loses at most carriage returns to its stretch,
  which mean nothing at its end, so that what is marked is wrong for the reason that is reported
  (`parse_dropReturns`).
-/

namespace DuckMachine

open Text Source

/-- Whether a report has one mark, and `slice` is what it stands on in the text. -/
def Report.PointsAt (report : Report) (text slice : Text) : Prop :=
  ∃ mark, report.marks = [mark] ∧ mark.span.Covers text slice

/-! ## Marked lines -/

/-- Carriage returns are blanks. -/
theorem trimEnd_dropReturns (line : Text) : line.dropReturns.trimEnd = line.trimEnd := by
  have blank : AllBlank (line.rtakeWhile (· = '\r')) := by
    intro c found
    have carriage_return : c = '\r' := by simpa using List.mem_rtakeWhile_imp found
    rw [carriage_return]
    decide
  rw [dropReturns, ← trimEnd_append_blanks _ blank, List.rdropWhile_append_rtakeWhile]

/-- A line of a text and what is marked of it mean the same or are wrong in the same way. -/
theorem parse_dropReturns {text line : Text} (h : line ∈ text.lines) :
    Line.parse line.dropReturns = Line.parse line := by
  have unbroken := newline_not_mem_of_mem_lines h
  refine Line.parse_eq_of_trimEnd_eq (fun found => unbroken ?_) unbroken (trimEnd_dropReturns line)
  exact (List.rdropWhile_prefix _ _).subset found

/-- A report that marks the stretch of a line points at the line. If the line cannot be read, then
    what is marked cannot be read for the same reason. -/
theorem pointsAt_of_marks {text : Text} {number : Nat} {unreadable : LineError → Prop}
    (wrong : ∃ line, text.lines[number]? = some line ∧
      ∀ reason, unreadable reason → Line.parse line = .error reason)
    {report : Report} {remark : String} (marks : report.marks = [⟨text.lineSpan number, remark⟩]) :
    ∃ line, text.lines[number]? = some line ∧ report.PointsAt text line.dropReturns ∧
      ∀ reason, unreadable reason → Line.parse line.dropReturns = .error reason := by
  obtain ⟨line, found, unread⟩ := wrong
  refine ⟨line, found, ⟨_, marks, covers_lineSpan found⟩, fun reason same => ?_⟩
  rw [parse_dropReturns (List.mem_of_getElem? found), unread reason same]

/-! ## Errors about lines -/

/-- An error that either pass finds in a line because it cannot be read has the reason for that. -/
theorem exists_line_of_mem_errorsBy {cause? : List Text → Text → Option AsmCause}
    (unread : ∀ before line reason, cause? before line = some (.badLine reason) →
      Line.parse line = .error reason)
    {lines : List Text} {e : AsmError} (h : e ∈ errorsBy cause? lines) :
    ∃ line, lines[e.line]? = some line ∧
      ∀ reason, e.cause = .badLine reason → Line.parse line = .error reason := by
  obtain ⟨line, found, wrong⟩ := mem_errorsBy_iff.mp h
  refine ⟨line, found, fun reason same => unread _ _ _ (wrong.trans ?_)⟩
  rw [same]

theorem parse_of_labelCause? {before : List Text} {line : Text} {reason : LineError}
    (h : labelCause? before line = some (.badLine reason)) : Line.parse line = .error reason := by
  rw [labelCause?] at h
  cases parsed : Line.parse line with
  | error reason' =>
    rw [parsed] at h
    cases h
    rfl
  | ok read =>
    rw [parsed] at h
    obtain ⟨label, -, again⟩ := Option.bind_eq_some_iff.mp h
    obtain ⟨first, -, impossible⟩ := Option.map_eq_some_iff.mp again
    cases impossible

theorem parse_of_referenceCause? {labels : Text → Option Nat} {before : List Text} {line : Text}
    {reason : LineError} (h : referenceCause? labels before line = some (.badLine reason)) :
    Line.parse line = .error reason := by
  cases parsed : Line.parse line with
  | error reason' =>
    rw [referenceCause?, parsed] at h
    cases h
    rfl
  | ok read =>
    rcases referenceCause?_of_parse parsed h with ⟨symbol, impossible⟩ | ⟨symbol, _, impossible⟩
    · cases impossible
    · cases impossible

/-- An error that an assembly adds to a list is about a line of the source. -/
theorem exists_line_of_assemble (text : Text) (d : Diagnostics) :
    ∃ found, (assemble text d).2.errors = d.errors ++ found ∧
      ∀ e ∈ found, ∃ line, text.lines[e.line]? = some line ∧
        ∀ reason, e.cause = .badLine reason → Line.parse line = .error reason := by
  obtain ⟨found, added, first | second⟩ := assemble_errors text d
  · refine ⟨found, added, fun e member => ?_⟩
    exact exists_line_of_mem_errorsBy (fun _ _ _ => parse_of_labelCause?) (first.subset member)
  · refine ⟨found, added, fun e member => ?_⟩
    exact exists_line_of_mem_errorsBy (fun _ _ _ => parse_of_referenceCause?)
      (second.subset member)

theorem exists_line_of_load {lines : List Text} {e : ObjectError}
    (h : Object.load lines = .error e) :
    ∃ line, lines[e.line]? = some line ∧
      ∀ reason, e.cause = .badLine reason → Line.parse line = .error reason := by
  obtain ⟨⟨line, found, refused⟩, -⟩ := Object.load_eq_error_iff.mp h
  refine ⟨line, found, fun reason same => ?_⟩
  rw [same] at refused
  cases refused with
  | unread unread => exact unread

/-! ## The whole statement -/

/-- Reports point at the line that is wrong. The stretch of every line lies within the text and
    covers whole characters. It holds the line without the carriage returns at its end; the
    stretches of different lines are apart and in order, and after the lines there is only the empty
    stretch at the end. Whatever was listed before, each error that an assembly adds is about a line
    of the source, its report points at that line, and if it says why the line cannot be read, then
    what is marked cannot be read for the same reason. Likewise for the error of loading. -/
theorem reports_point_at_lines (text : Text) :
    (∀ index, (text.lineSpan index).stop ≤ text.utf8Encode.size ∧
      ∃ slice, (text.lineSpan index).Covers text slice) ∧
    (∀ index line, text.lines[index]? = some line →
      (text.lineSpan index).Covers text line.dropReturns ∧
      text.utf8Encode.extract (text.lineSpan index).start (text.lineSpan index).stop =
        line.dropReturns.utf8Encode) ∧
    (∀ i j, i < j → j < text.lines.length →
      (text.lineSpan i).stop < (text.lineSpan j).start) ∧
    (∀ index, text.lines.length ≤ index → text.lineSpan index = ⟨text.utf8Encode.size, 0⟩) ∧
    (∀ name d, ∃ found, (assemble text d).2.errors = d.errors ++ found ∧
      ∀ e ∈ found, ∃ line, text.lines[e.line]? = some line ∧
        (e.report name text).PointsAt text line.dropReturns ∧
        ∀ reason, e.cause = .badLine reason → Line.parse line.dropReturns = .error reason) ∧
    ∀ name e, Object.load text.lines = .error e →
      ∃ line, text.lines[e.line]? = some line ∧
        (e.report name text).PointsAt text line.dropReturns ∧
        ∀ reason, e.cause = .badLine reason → Line.parse line.dropReturns = .error reason := by
  refine ⟨?_, ?_, fun i j => stop_lineSpan_lt_start, ?_, ?_, ?_⟩
  · intro index
    obtain ⟨slice, covers⟩ := exists_covers_lineSpan text index
    exact ⟨size_utf8Encode text ▸ covers.stop_le, slice, covers⟩
  · intro index line found
    have covers := covers_lineSpan found
    exact ⟨covers, covers.extract_utf8Encode⟩
  · intro index beyond
    rw [size_utf8Encode, lineSpan_of_length_le beyond]
  · intro name d
    obtain ⟨found, added, each⟩ := exists_line_of_assemble text d
    exact ⟨found, added, fun e member => pointsAt_of_marks (each e member) rfl⟩
  · intro name e failed
    exact pointsAt_of_marks (exists_line_of_load failed) rfl

/-- A text of three lines with a letter of two bytes, a line feed after two carriage returns, and a
    carriage return in place of the last line feed. -/
def returnedLines : Text := "# ü\r\nADD r1,r99,r0\r\r\nJUMP x\r".toList

theorem reports_point_at_lines_returned :
    returnedLines.lines =
        ["# ü".toList, "ADD r1,r99,r0\r".toList, "JUMP x\r".toList] ∧
      returnedLines.lineSpan 1 = ⟨6, 13⟩ ∧
      returnedLines.utf8Encode.extract 6 19 = "ADD r1,r99,r0".toList.utf8Encode ∧
      (returnedLines.lineSpan 1).stop < (returnedLines.lineSpan 2).start ∧
      returnedLines.lineSpan 3 = ⟨returnedLines.utf8Encode.size, 0⟩ ∧
      (∀ name : Text, ∀ e ∈ (assemble returnedLines { limit := 5 }).2.errors,
        (e.report name returnedLines).PointsAt returnedLines "ADD r1,r99,r0".toList) ∧
      Object.load returnedLines.lines = .error ⟨1, .badLine (.field (.badRegister "r99".toList))⟩ ∧
      Line.parse "ADD r1,r99,r0".toList = .error (.field (.badRegister "r99".toList)) := by
  obtain ⟨-, lines, apart, beyond, assembled, loaded⟩ := reports_point_at_lines returnedLines
  have second : returnedLines.lines[1]? = some "ADD r1,r99,r0\r".toList := by decide
  have failed : Object.load returnedLines.lines =
      .error ⟨1, .badLine (.field (.badRegister "r99".toList))⟩ := by decide
  obtain ⟨-, bytes⟩ := lines 1 _ second
  obtain ⟨line, here, -, unread⟩ := loaded [] _ failed
  obtain rfl : "ADD r1,r99,r0\r".toList = line := Option.some.inj (second.symm.trans here)
  refine ⟨by decide, by decide, bytes, apart 1 2 (by decide) (by decide), beyond 3 (by decide), ?_,
    failed, unread _ rfl⟩
  intro name e member
  obtain ⟨found, added, each⟩ := assembled name { limit := 5 }
  rw [added] at member
  obtain ⟨line, here, points, -⟩ := each e member
  have first : (assemble returnedLines { limit := 5 }).2.errors =
      [⟨1, .badLine (.field (.badRegister "r99".toList))⟩] := by decide
  rw [← added, first] at member
  obtain rfl := List.mem_singleton.mp member
  obtain rfl : "ADD r1,r99,r0\r".toList = line := Option.some.inj (second.symm.trans here)
  exact points

end DuckMachine
