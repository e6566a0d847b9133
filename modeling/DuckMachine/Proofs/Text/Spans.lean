import DuckMachine.Proofs.Text.Lines
import DuckMachine.Proofs.Text.Trim
import Mathlib.Data.List.Infix

/-
  Where the lines of a text lie in it.

  Lines are found in two ways: as the pieces of a text without their endings, and as the stretches
  that marks are put on, which lose all carriage returns at their ends. Both begin at the same
  pieces, so that the stretch of a line is the line without the carriage returns at its end, in
  whole characters (`covers_lineSpan`). Every piece but the last one holds a line feed that no
  stretch covers, which keeps the stretches apart (`stop_lineSpan_lt_start`).
-/

namespace DuckMachine

namespace Text

theorem size_utf8Encode (text : Text) : text.utf8Encode.size = text.utf8Length := by
  induction text with
  | nil => rfl
  | cons c text ih =>
    rw [List.utf8Encode_cons, ByteArray.size_append, ih, List.utf8Encode_singleton,
      List.size_toByteArray, String.length_utf8EncodeChar, utf8Length_cons]

theorem utf8Length_pos_of_mem {c : Char} {text : Text} (h : c ∈ text) : 0 < text.utf8Length := by
  cases text with
  | nil => cases h
  | cons d rest =>
    have := d.utf8Size_pos
    rw [utf8Length_cons]
    omega

theorem utf8Length_le_of_prefix {start text : Text} (h : start <+: text) :
    start.utf8Length ≤ text.utf8Length := by
  obtain ⟨rest, rfl⟩ := h
  rw [utf8Length_append]
  exact Nat.le_add_right _ _

end Text

/-! ## Stretches of a text -/

namespace Span

/-- The byte after the last one of a span. -/
def stop (span : Span) : Nat := span.start + span.length

/-- Whether a span of a text covers exactly the characters of `slice`, so that it begins and ends
    between characters. -/
def Covers (span : Span) (text slice : Text) : Prop :=
  ∃ before after, before ++ (slice ++ after) = text ∧
    span = ⟨before.utf8Length, slice.utf8Length⟩

variable {span : Span} {text slice : Text}

theorem Covers.stop_le (h : span.Covers text slice) : span.stop ≤ text.utf8Length := by
  obtain ⟨before, after, rfl, rfl⟩ := h
  simp only [stop, Text.utf8Length_append]
  omega

/-- The bytes within a span are those of the characters that it covers. -/
theorem Covers.extract_utf8Encode (h : span.Covers text slice) :
    text.utf8Encode.extract span.start span.stop = slice.utf8Encode := by
  obtain ⟨before, after, rfl, rfl⟩ := h
  have inside := ByteArray.extract_append_size_add (a := before.utf8Encode)
    (b := slice.utf8Encode ++ after.utf8Encode) (i := 0) (j := slice.utf8Encode.size)
  rw [Nat.add_zero] at inside
  rw [List.utf8Encode_append, List.utf8Encode_append, stop]
  simp only [← Text.size_utf8Encode]
  rw [inside, ByteArray.extract_append_eq_left rfl]

end Span

namespace Text

/-! ## Endings -/

/-- A line without the carriage returns at its end. -/
def dropReturns (line : Text) : Text := line.rdropWhile (· = '\r')

/-- Whether a character belongs to the ending of a line. -/
def isLineEnd (c : Char) : Bool := c = '\n' || c = '\r'

theorem dropLineEnds_eq_rdropWhile (text : Text) :
    text.dropLineEnds = text.rdropWhile isLineEnd := by
  induction text with
  | nil => rfl
  | cons c rest ih =>
    rw [dropLineEnds, rdropWhile_cons, ih]
    rfl

theorem rdropWhile_congr {p q : Char → Bool} {text : Text} (h : ∀ c ∈ text, p c = q c) :
    text.rdropWhile p = text.rdropWhile q := by
  induction text using List.reverseRecOn with
  | nil => rfl
  | append_singleton text c ih =>
    have last : p c = q c := h c (List.mem_append_right _ List.mem_cons_self)
    have before := ih fun d hd => h d (List.mem_append_left _ hd)
    rw [List.rdropWhile_concat, List.rdropWhile_concat, last, before]

/-- A piece is its line and an ending after it. -/
theorem lineOfPiece_append (piece : Text) :
    ∃ ending, (∀ c ∈ ending, isLineEnd c = true) ∧ lineOfPiece piece ++ ending = piece := by
  induction piece with
  | nil => exact ⟨[], by simp, rfl⟩
  | cons c rest ih =>
    by_cases feed : c = '\n' ∧ rest = []
    · obtain ⟨rfl, rfl⟩ := feed
      exact ⟨['\n'], by simp [isLineEnd], rfl⟩
    · by_cases return_ : c = '\r' ∧ rest = ['\n']
      · obtain ⟨rfl, rfl⟩ := return_
        exact ⟨['\r', '\n'], by simp [isLineEnd], rfl⟩
      · obtain ⟨ending, ends, whole⟩ := ih
        refine ⟨ending, ends, ?_⟩
        rw [lineOfPiece_cons_of_not feed return_, List.cons_append, whole]

/-- The two ways to take the ending from a piece come to the same, carriage returns apart. -/
theorem dropLineEnds_of_mem_pieces {text piece : Text} (h : piece ∈ text.pieces) :
    piece.dropLineEnds = (lineOfPiece piece).dropReturns := by
  obtain ⟨ending, ends, whole⟩ := lineOfPiece_append piece
  have unbroken := newline_not_mem_lineOfPiece h
  calc piece.dropLineEnds
    _ = (lineOfPiece piece ++ ending).rdropWhile isLineEnd := by
      rw [whole, dropLineEnds_eq_rdropWhile]
    _ = (lineOfPiece piece).rdropWhile isLineEnd := rdropWhile_append_of_pos ends _
    _ = (lineOfPiece piece).dropReturns := by
      refine rdropWhile_congr fun c hc => ?_
      have other : c ≠ '\n' := fun same => unbroken (same ▸ hc)
      simp [isLineEnd, other]

theorem dropLineEnds_append (text : Text) :
    ∃ ending, text.dropLineEnds ++ ending = text := by
  rw [dropLineEnds_eq_rdropWhile]
  exact ⟨_, List.rdropWhile_append_rtakeWhile⟩

theorem newline_mem_of_getElem? {text piece : Text} {index : Nat}
    (h : text.pieces[index]? = some piece) (more : index + 1 < text.pieces.length) :
    '\n' ∈ piece := by
  induction text generalizing index piece with
  | nil => cases more
  | cons c rest ih =>
    rw [pieces] at h more
    split at h
    · next newline =>
      rw [if_pos newline] at more
      cases index with
      | zero =>
        rw [← Option.some.inj h, newline]
        exact List.mem_cons_self
      | succ index => exact ih h (Nat.lt_of_succ_lt_succ more)
    · next other =>
      rw [if_neg other] at more
      cases cut : pieces rest with
      | nil =>
        rw [cut] at more
        exact absurd more (by simp)
      | cons first others =>
        rw [cut] at h more ih
        cases index with
        | zero =>
          rw [← Option.some.inj h]
          exact List.mem_cons_of_mem c (ih rfl more)
        | succ index => exact ih h more

/-! ## The stretches of the lines -/

theorem spanFrom_of_getElem? {pieces : List Text} {piece : Text} {index : Nat}
    (h : pieces[index]? = some piece) (start : Nat) :
    spanFrom start pieces index =
      ⟨start + utf8Length (pieces.take index).flatten, piece.dropLineEnds.utf8Length⟩ := by
  induction pieces generalizing start index with
  | nil => cases h
  | cons first others ih =>
    cases index with
    | zero =>
      rw [← Option.some.inj h]
      rfl
    | succ index =>
      rw [spanFrom, ih h, List.take_succ_cons, List.flatten_cons, utf8Length_append,
        Nat.add_assoc]

theorem spanFrom_of_length_le {pieces : List Text} {index : Nat} (h : pieces.length ≤ index)
    (start : Nat) : spanFrom start pieces index = ⟨start + utf8Length pieces.flatten, 0⟩ := by
  induction pieces generalizing start index with
  | nil => rw [spanFrom, List.flatten_nil, utf8Length_nil, Nat.add_zero]
  | cons first others ih =>
    cases index with
    | zero => cases h
    | succ index =>
      rw [spanFrom, ih (Nat.le_of_succ_le_succ h), List.flatten_cons, utf8Length_append,
        Nat.add_assoc]

/-- A list of texts without breaks, parted at one of them. -/
theorem flatten_take_append {pieces : List Text} {piece : Text} {index : Nat}
    (h : pieces[index]? = some piece) :
    (pieces.take index).flatten ++ (piece ++ (pieces.drop (index + 1)).flatten) =
      pieces.flatten := by
  obtain ⟨inside, rfl⟩ := List.getElem?_eq_some_iff.mp h
  rw [← List.flatten_cons, ← List.drop_eq_getElem_cons inside, ← List.flatten_append,
    List.take_append_drop]

theorem lineSpan_of_getElem? {text piece : Text} {index : Nat}
    (h : text.pieces[index]? = some piece) :
    text.lineSpan index =
      ⟨utf8Length (text.pieces.take index).flatten, piece.dropLineEnds.utf8Length⟩ := by
  rw [lineSpan, spanFrom_of_getElem? h, Nat.zero_add]

theorem length_lines (text : Text) : text.lines.length = text.pieces.length := List.length_map _

/-- After all lines there is only the empty stretch at the end. -/
theorem lineSpan_of_length_le {text : Text} {index : Nat} (h : text.lines.length ≤ index) :
    text.lineSpan index = ⟨text.utf8Length, 0⟩ := by
  rw [length_lines] at h
  rw [lineSpan, spanFrom_of_length_le h, flatten_pieces, Nat.zero_add]

/-- The stretch of a line is the line without the carriage returns at its end. -/
theorem covers_lineSpan {text line : Text} {index : Nat} (h : text.lines[index]? = some line) :
    (text.lineSpan index).Covers text line.dropReturns := by
  rw [lines, List.getElem?_map, Option.map_eq_some_iff] at h
  obtain ⟨piece, found, rfl⟩ := h
  obtain ⟨ending, whole⟩ := dropLineEnds_append piece
  rw [lineSpan_of_getElem? found, ← dropLineEnds_of_mem_pieces (List.mem_of_getElem? found)]
  refine ⟨(text.pieces.take index).flatten,
    ending ++ (text.pieces.drop (index + 1)).flatten, ?_, rfl⟩
  calc (text.pieces.take index).flatten ++
        (piece.dropLineEnds ++ (ending ++ (text.pieces.drop (index + 1)).flatten))
    _ = (text.pieces.take index).flatten ++
          (piece ++ (text.pieces.drop (index + 1)).flatten) := by
      rw [← List.append_assoc piece.dropLineEnds, whole]
    _ = text.pieces.flatten := flatten_take_append found
    _ = text := flatten_pieces text

/-- Every stretch lies within the text and covers whole characters. -/
theorem exists_covers_lineSpan (text : Text) (index : Nat) :
    ∃ slice, (text.lineSpan index).Covers text slice := by
  cases found : text.lines[index]? with
  | some line => exact ⟨line.dropReturns, covers_lineSpan found⟩
  | none =>
    rw [lineSpan_of_length_le (List.getElem?_eq_none_iff.mp found)]
    exact ⟨[], text, [], by simp, rfl⟩

/-- A piece that is not the last one is longer than the stretch of its line. -/
theorem utf8Length_dropLineEnds_lt {text piece : Text} {index : Nat}
    (h : text.pieces[index]? = some piece) (more : index + 1 < text.pieces.length) :
    piece.dropLineEnds.utf8Length < piece.utf8Length := by
  have feed : '\n' ∈ piece := newline_mem_of_getElem? h more
  have unbroken : '\n' ∉ piece.dropLineEnds := by
    rw [dropLineEnds_of_mem_pieces (List.mem_of_getElem? h)]
    intro found
    exact newline_not_mem_lineOfPiece (List.mem_of_getElem? h)
      ((List.rdropWhile_prefix _ _).subset found)
  obtain ⟨ending, whole⟩ := dropLineEnds_append piece
  rw [← whole, List.mem_append, or_iff_right unbroken] at feed
  have counted := congrArg utf8Length whole
  rw [utf8Length_append] at counted
  have positive := utf8Length_pos_of_mem feed
  omega

/-- The stretch of a line ends before the line feed in front of the next one. -/
theorem stop_lineSpan_lt_start {text : Text} {i j : Nat} (before : i < j)
    (inside : j < text.lines.length) : (text.lineSpan i).stop < (text.lineSpan j).start := by
  rw [length_lines] at inside
  obtain ⟨piece, found⟩ : ∃ piece, text.pieces[i]? = some piece :=
    ⟨_, List.getElem?_eq_getElem (Nat.lt_trans before inside)⟩
  obtain ⟨later, found'⟩ : ∃ later, text.pieces[j]? = some later :=
    ⟨_, List.getElem?_eq_getElem inside⟩
  have shorter := utf8Length_dropLineEnds_lt found (Nat.lt_of_le_of_lt before inside)
  -- All of the piece of line `i` stands before the piece of line `j`.
  have earlier : utf8Length (text.pieces.take (i + 1)).flatten ≤
      utf8Length (text.pieces.take j).flatten :=
    utf8Length_le_of_prefix
      (List.IsPrefix.flatten (List.take_prefix_take_left (l := text.pieces) before))
  rw [List.take_add_one, found, List.flatten_append, utf8Length_append] at earlier
  rw [lineSpan_of_getElem? found, lineSpan_of_getElem? found', Span.stop]
  simp only [Option.toList_some, List.flatten_singleton] at earlier
  dsimp only
  omega

end Text

end DuckMachine
