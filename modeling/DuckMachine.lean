import DuckMachine.Asm.Assemble
import DuckMachine.Asm.Diagnostic
import DuckMachine.Asm.Form
import DuckMachine.Asm.LabelTable
import DuckMachine.Asm.Labels
import DuckMachine.Asm.Line
import DuckMachine.Asm.Object
import DuckMachine.Asm.Pass
import DuckMachine.Asm.Resolve
import DuckMachine.Command.Arguments
import DuckMachine.Command.Banner
import DuckMachine.Command.Basic
import DuckMachine.Command.Directory
import DuckMachine.Command.Host
import DuckMachine.Command.Notice
import DuckMachine.Command.Path
import DuckMachine.Command.Perform
import DuckMachine.Command.Session
import DuckMachine.Command.Settings
import DuckMachine.Instr.Basic
import DuckMachine.Instr.Codec
import DuckMachine.Instr.Cond
import DuckMachine.Instr.Fields
import DuckMachine.Instr.Opcode
import DuckMachine.Instr.Operand
import DuckMachine.Machine.Alu
import DuckMachine.Machine.Bus
import DuckMachine.Machine.Cpu
import DuckMachine.Machine.Memory
import DuckMachine.Machine.Registers
import DuckMachine.Machine.Run
import DuckMachine.Machine.Terminal
import DuckMachine.Machine.Trace
import DuckMachine.Main
import DuckMachine.Misuse
import DuckMachine.Report
import DuckMachine.Text.Ansi
import DuckMachine.Text.Basic
import DuckMachine.Text.Blank
import DuckMachine.Text.Lines
import DuckMachine.Text.Numeral
import DuckMachine.Text.WordChar
import DuckMachine.Word.Basic
import DuckMachine.Word.BitField
import DuckMachine.Proofs.Outcome
import DuckMachine.Proofs.Text.Ansi
import DuckMachine.Proofs.Text.Classes
import DuckMachine.Proofs.Text.Lines
import DuckMachine.Proofs.Text.Numeral
import DuckMachine.Proofs.Text.Scan
import DuckMachine.Proofs.Text.Spans
import DuckMachine.Proofs.Text.Trim
import DuckMachine.Proofs.Text.Value
import DuckMachine.Proofs.Word.BitField
import DuckMachine.Proofs.Word.FieldLaws
import DuckMachine.Proofs.Word.SignExtension
import DuckMachine.Proofs.Instr.Codec
import DuckMachine.Proofs.Instr.Spelling
import DuckMachine.Proofs.Instr.Written
import DuckMachine.Proofs.Asm.Assembly
import DuckMachine.Proofs.Asm.Disassembly
import DuckMachine.Proofs.Asm.Errors
import DuckMachine.Proofs.Asm.Grammar
import DuckMachine.Proofs.Asm.Insertion
import DuckMachine.Proofs.Asm.Labels
import DuckMachine.Proofs.Asm.Layout
import DuckMachine.Proofs.Asm.Line
import DuckMachine.Proofs.Asm.LineEnd
import DuckMachine.Proofs.Asm.Loading
import DuckMachine.Proofs.Asm.Meaning
import DuckMachine.Proofs.Asm.ObjectFile
import DuckMachine.Proofs.Asm.Operand
import DuckMachine.Proofs.Asm.Pass
import DuckMachine.Proofs.Asm.Reassembly
import DuckMachine.Proofs.Asm.Recognition
import DuckMachine.Proofs.Asm.Reference
import DuckMachine.Proofs.Asm.Resolution
import DuckMachine.Proofs.Asm.Scanners
import DuckMachine.Proofs.Asm.Standalone
import DuckMachine.Proofs.Machine.Alu
import DuckMachine.Proofs.Machine.Console
import DuckMachine.Proofs.Machine.EndOfMemory
import DuckMachine.Proofs.Machine.Exact
import DuckMachine.Proofs.Machine.Failure
import DuckMachine.Proofs.Machine.Invariant
import DuckMachine.Proofs.Machine.Memory
import DuckMachine.Proofs.Machine.Observer
import DuckMachine.Proofs.Machine.Program
import DuckMachine.Proofs.Machine.Refinement
import DuckMachine.Proofs.Machine.Registers
import DuckMachine.Proofs.Machine.Run
import DuckMachine.Proofs.Machine.Safety
import DuckMachine.Proofs.Machine.Step
import DuckMachine.Proofs.Machine.Success
import DuckMachine.Proofs.Machine.Terminal
import DuckMachine.Proofs.Machine.Trace
import DuckMachine.Proofs.Machine.Transcript
import DuckMachine.Proofs.Command.Agreement
import DuckMachine.Proofs.Command.Beginning
import DuckMachine.Proofs.Command.Ledger
import DuckMachine.Proofs.Command.Observation
import DuckMachine.Proofs.Command.Replay
import DuckMachine.Proofs.Command.RunFile
import DuckMachine.Proofs.Report
