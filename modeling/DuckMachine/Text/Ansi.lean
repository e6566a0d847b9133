import DuckMachine.Text.Basic

/-
  Terminal styles: escape sequences around a stretch of text, and their removal.

  A sequence runs from the escape character to the next `m`. Removing the sequences from a styled
  text gives the plain text back.
-/

namespace DuckMachine.Ansi

/-- The escape character. -/
def escape : Char := Char.ofNat 0x1B

/-- The sequence that switches the style with this code on. -/
def sequence (code : Text) : Text := escape :: '[' :: code ++ ['m']

/-- `text` in a style, with the sequence that ends every style after it. -/
def styled (code text : Text) : Text := sequence code ++ text ++ sequence ['0']

/-- A text without its escape sequences. A sequence that never ends runs to the end of the text. -/
def strip : Text → Text
  | [] => []
  | c :: rest => if c = escape then skip rest else c :: strip rest
where
  /-- What follows the sequence that the text begins inside of, stripped too. -/
  skip : Text → Text
    | [] => []
    | c :: rest => if c = 'm' then strip rest else skip rest

end DuckMachine.Ansi
