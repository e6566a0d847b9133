import DuckMachine.Machine.Cpu
import DuckMachine.Text.Ansi

/-
  Traces: a line for every instruction and a table of the registers.

  In the minimal style everything is plain text. Otherwise the table is drawn in a box, always
  with escape sequences, and the lines are styled if colours are on.
-/

namespace DuckMachine

/-- How a trace looks. -/
structure TraceStyle where
  /-- Plain text without styles or box. -/
  minimal : Bool := false
  /-- Whether the lines of a trace that is not minimal are styled. -/
  colours : Bool := false
  deriving DecidableEq, Repr

namespace TraceStyle

/-- `text` with the style of this code, if colours are on. -/
def paint (style : TraceStyle) (code : List Char) (text : Text) : Text :=
  if style.colours then Ansi.styled code text else text

/-- What is written for a text: in the minimal style, the text without its escape sequences. -/
def emit (style : TraceStyle) (text : Text) : Text :=
  if style.minimal then Ansi.strip text else text

/-- The text of an instruction in a trace, dimmed and struck out if it is skipped. -/
def instruction (style : TraceStyle) (event : Event) : Text :=
  if event.executes then event.instr.render
  else style.paint ['2', ';', '9'] event.instr.render

/-- The remark after an instruction that is skipped. -/
def remark (event : Event) : Text :=
  if event.executes then [] else " (skipped)".toList

/-- The line of one instruction: its address, its word and its text. -/
def event (style : TraceStyle) (event : Event) : Text :=
  style.emit <|
    style.paint ['3', '6'] ((Numeral.integer event.pc).padLeft 5 ' ') ++ ' '
      :: style.paint ['2'] event.word.hex ++ ' '
      :: style.instruction event ++ remark event ++ ['\n']

/-- The registers and the condition in plain lines. -/
def plainRegisters (regs : Registers) (condition : Cond) : Text :=
  (regs.toList.mapIdx fun number w =>
      Instr.registerName number ++ ' ' :: w.decimal ++ ['\n']).flatten
    ++ "CC ".toList ++ condition.render ++ ['\n']

/-- The sequence that begins dimmed text. -/
def dim : Text := Ansi.sequence ['2']

/-- The sequence that ends all styles. -/
def reset : Text := Ansi.sequence ['0']

/-- A horizontal edge of the box between two corners. -/
def edge (left right : Char) : Text :=
  dim ++ left :: List.replicate 30 '─' ++ right :: reset ++ ['\n']

/-- The row of one register in the box. -/
def boxRow (number : Nat) (w : Word) : Text :=
  dim ++ '│' :: reset ++ ' ' :: Ansi.sequence ['1'] ++ (Instr.registerName number).padRight 4
    ++ reset ++ " 0x".toList ++ w.hex ++ ' ' :: w.decimal.padLeft 12 ' ' ++ ' '
    :: dim ++ '│' :: reset ++ ['\n']

/-- The registers and the condition in a box. -/
def boxedRegisters (regs : Registers) (condition : Cond) : Text :=
  edge '┌' '┐'
    ++ dim ++ "│       ".toList ++ Ansi.sequence ['3'] ++ "hex          int".toList ++ reset ++ dim
    ++ "        │".toList ++ reset ++ ['\n']
    ++ (regs.toList.mapIdx boxRow).flatten
    ++ dim ++ '│' :: reset ++ ' ' :: Ansi.sequence ['1'] ++ "CC".toList ++ reset
    ++ "   ".toList ++ condition.render.padRight 24 ++ dim ++ '│' :: reset ++ ['\n']
    ++ edge '└' '┘'

/-- The table of the registers and the condition. -/
def registers (style : TraceStyle) (regs : Registers) (condition : Cond) : Text :=
  if style.minimal then plainRegisters regs condition else boxedRegisters regs condition

end TraceStyle

end DuckMachine
