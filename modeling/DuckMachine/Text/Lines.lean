import DuckMachine.Text.Basic

/-
  Lines of a text and where they lie in it.

  A text is a row of pieces, each ending with a line feed except perhaps the last. A line is a
  piece without its line feed and without one carriage return before that. Positions and lengths
  count the bytes of the UTF-8 encoding.
-/

namespace DuckMachine

/-- A stretch of text, as a byte position and a byte length. -/
structure Span where
  start : Nat
  length : Nat
  deriving DecidableEq, Repr, Inhabited

namespace Text

/-- The number of bytes that `text` takes in UTF-8. -/
def utf8Length : Text → Nat
  | [] => 0
  | c :: text => c.utf8Size + utf8Length text

@[simp] theorem utf8Length_nil : utf8Length [] = 0 := rfl

@[simp] theorem utf8Length_cons (c : Char) (text : Text) :
    utf8Length (c :: text) = c.utf8Size + utf8Length text := rfl

@[simp] theorem utf8Length_append (a b : Text) :
    utf8Length (a ++ b) = utf8Length a + utf8Length b := by
  induction a with
  | nil => simp
  | cons c a ih => simp [ih, Nat.add_assoc]

/-- The pieces of a text: each line together with the line feed that ends it. -/
def pieces : Text → List Text
  | [] => []
  | c :: rest =>
    if c = '\n' then [c] :: pieces rest
    else match pieces rest with
      | [] => [[c]]
      | first :: others => (c :: first) :: others

theorem flatten_pieces (text : Text) : text.pieces.flatten = text := by
  induction text with
  | nil => rfl
  | cons c rest ih =>
    unfold pieces
    split
    · simp [ih]
    · split <;> rename_i h <;> rw [h] at ih <;> simp_all

/-- What a piece says: the piece without its line feed and a carriage return before that. -/
def lineOfPiece : Text → Text
  | [] => []
  | ['\n'] => []
  | ['\r', '\n'] => []
  | c :: rest => c :: lineOfPiece rest

/-- The lines of a text. A text that ends with a line feed has no empty line after it. -/
def lines (text : Text) : List Text := text.pieces.map lineOfPiece

/-- A text without the carriage returns and line feeds at its end. -/
def dropLineEnds : Text → Text
  | [] => []
  | c :: rest =>
    match dropLineEnds rest with
    | [] => if c = '\n' || c = '\r' then [] else [c]
    | kept => c :: kept

/-- The stretch of line `index` among `pieces` that begin at byte `start`, without its ending;
    the empty stretch after all of them if there is no such line. -/
def spanFrom (start : Nat) : List Text → Nat → Span
  | [], _ => ⟨start, 0⟩
  | piece :: _, 0 => ⟨start, piece.dropLineEnds.utf8Length⟩
  | piece :: others, index + 1 => spanFrom (start + piece.utf8Length) others index

/-- The stretch of line `index`, counted from zero, without its line ending. -/
def lineSpan (text : Text) (index : Nat) : Span := spanFrom 0 text.pieces index

end Text

end DuckMachine
