/-
  Text as a list of characters.

  Everything the machine's tools read (source lines, object lines, numerals) and much of what
  they write is handled one character at a time, so text is a list and recursion on it is
  structural. `String` appears only where a finished message leaves the library.
-/

namespace DuckMachine

/-- Text that is read or written a character at a time. -/
abbrev Text := List Char

namespace Text

/-- The same characters as a `String`, for messages and output. -/
def string (text : Text) : String := String.ofList text

/-- `text` moved to the right end of a column of `width` characters, filled up with `fill`. -/
def padLeft (width : Nat) (fill : Char) (text : Text) : Text :=
  List.replicate (width - text.length) fill ++ text

/-- `text` at the left end of a column of `width` characters, filled up with blanks. -/
def padRight (width : Nat) (text : Text) : Text :=
  text ++ List.replicate (width - text.length) ' '

/-- `text` split at its first character that satisfies `p`; that character begins the second
    part. -/
def cutAt (p : Char → Bool) (text : Text) : Text × Text :=
  (text.takeWhile (fun c => !p c), text.dropWhile (fun c => !p c))

theorem cutAt_append (p : Char → Bool) (text : Text) :
    (text.cutAt p).1 ++ (text.cutAt p).2 = text := by
  simp [cutAt, List.takeWhile_append_dropWhile]

end Text

end DuckMachine
