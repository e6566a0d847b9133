import DuckMachine.Text.Basic

/-
  Blanks: the characters with the Unicode property White_Space, and trimming by them.

  The same set separates the parts of a line, is removed from the ends of copied lines and
  settings, and surrounds the numbers typed at the console.
-/

namespace DuckMachine

/-- Whether a character has the property White_Space. -/
def isBlank (c : Char) : Bool :=
  let n := c.toNat
  (9 ≤ n && n ≤ 13) || n == 0x20 || n == 0x85 || n == 0xA0 || n == 0x1680
    || (0x2000 ≤ n && n ≤ 0x200A) || n == 0x2028 || n == 0x2029 || n == 0x202F
    || n == 0x205F || n == 0x3000

namespace Text

/-- `text` without the blanks at its start. -/
def trimStart (text : Text) : Text := text.dropWhile isBlank

/-- `text` without the blanks at its end. -/
def trimEnd : Text → Text
  | [] => []
  | c :: rest =>
    match trimEnd rest with
    | [] => if isBlank c then [] else [c]
    | kept => c :: kept

/-- `text` without the blanks at either end. -/
def trim (text : Text) : Text := (trimStart text).trimEnd

end Text

end DuckMachine
