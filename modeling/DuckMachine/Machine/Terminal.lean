import DuckMachine.Machine.Bus
import DuckMachine.Text.Blank
import DuckMachine.Text.Numeral

/-
  The terminal: a console that reads numbers, one on a line, and writes numbers in decimal.

  A prompt is written before every number, also before one that is read. Input comes in bytes; a
  line ends with a line feed or with the input, and must be text in UTF-8.
-/

namespace DuckMachine

/-- The text that bytes encode, if they are UTF-8. -/
def decodeUtf8? (bytes : List UInt8) : Option Text :=
  (String.fromUTF8? bytes.toByteArray).map String.toList

/-- Standard input that is still to be read and what has been written to standard output. -/
structure Terminal where
  input : List UInt8
  output : Array Text := #[]

namespace Terminal

/-- What stands before every number. -/
def prompt : Text := "Quack!: ".toList

/-- The terminal after something was written. -/
def write (t : Terminal) (text : Text) : Terminal := { t with output := t.output.push text }

/-- All that was written. -/
def text (t : Terminal) : Text := t.output.toList.flatten

/-- The first line of an input, with the line feed that ends it, and what comes after it. -/
def cutLine : List UInt8 → List UInt8 × List UInt8
  | [] => ([], [])
  | byte :: rest =>
    if byte = 10 then ([byte], rest)
    else
      let (line, rest) := cutLine rest
      (byte :: line, rest)

/-- The next line of input. A line that is not text is consumed as well. -/
def readLine (t : Terminal) : Except MemoryFault Text × Terminal :=
  match t.input with
  | [] => (.error .inputClosed, t)
  | input =>
    let (line, rest) := cutLine input
    let result := match decodeUtf8? line with
      | some text => .ok text
      | none => .error (.io "stream did not contain valid UTF-8")
    (result, { t with input := rest })

/-- The word that a line of input stands for: a decimal number with sign, blanks around it. -/
def readNumber (line : Text) : Except MemoryFault Word :=
  match (Numeral.signed? line.trim).filter fun n => -0x80000000 ≤ n ∧ n < 0x80000000 with
  | some n => .ok (Word.ofInt n)
  | none => .error (.badInput line.trim)

instance : Console Terminal where
  readWord t :=
    match (t.write prompt).readLine with
    | (.ok line, t) => (readNumber line, t)
    | (.error fault, t) => (.error fault, t)
  writeWord w t := t.write (prompt ++ w.decimal ++ ['\n'])

end Terminal

end DuckMachine
