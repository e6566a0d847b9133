import DuckMachine.Asm.Labels
import DuckMachine.Asm.Object
import DuckMachine.Asm.Resolve
import DuckMachine.Proofs.Asm.Line
import DuckMachine.Proofs.Asm.Pass
import Mathlib.Data.List.Induction

/-
  The layout of a source.

  Which lines take a word of memory, where a label lies and what a line puts into its word are said
  here of the source as a whole, without tables or counters. Both passes give out the addresses of
  this layout (`labelling_address`, `resolution_address`), and the table of the first one holds the
  address of the first definition of every label (`labelling_table`).
-/

namespace DuckMachine

/-! ## Addresses -/

namespace Source

/-- The lines that take a word of memory, in order. The word of each has its position here as
    address. -/
def spaceLines (lines : List Text) : List Line :=
  lines.filterMap fun text => (Line.parse text).toOption.filter Line.takesSpace

/-- Whether a label stands before a line. -/
def defines (symbol text : Text) : Bool :=
  (Line.parse text).toOption.any fun line => line.label = some symbol

/-- The number of words before the first line that defines a label. -/
def labelAddress? (lines : List Text) (symbol : Text) : Option Nat :=
  (lines.findIdx? (defines symbol)).map fun k => (spaceLines (lines.take k)).length

theorem spaceLines_append (first rest : List Text) :
    spaceLines (first ++ rest) = spaceLines first ++ spaceLines rest :=
  List.filterMap_append

theorem spaceLines_cons (text : Text) (rest : List Text) :
    spaceLines (text :: rest) = spaceLines [text] ++ spaceLines rest :=
  spaceLines_append [text] rest

theorem spaceLines_concat (lines : List Text) {text : Text} {line : Line}
    (h : Line.parse text = .ok line) :
    spaceLines (lines ++ [text]) =
      spaceLines lines ++ if line.takesSpace then [line] else [] := by
  rw [spaceLines_append, spaceLines.eq_def [text], List.filterMap_cons, h]
  by_cases space : line.takesSpace = true
  · rw [Except.toOption, Option.filter_some_pos space, if_pos space]
    rfl
  · rw [Except.toOption, Option.filter_some_neg (Bool.not_eq_true _ ▸ space), if_neg space]
    rfl

theorem spaceLines_replicate {text : Text} {line : Line} (h : Line.parse text = .ok line)
    (space : line.takesSpace = true) (n : Nat) :
    spaceLines (List.replicate n text) = List.replicate n line := by
  induction n with
  | zero => rfl
  | succ n ih =>
    rw [List.replicate_succ', List.replicate_succ', spaceLines_concat _ h, ih, if_pos space]

theorem length_spaceLines_concat (lines : List Text) {text : Text} {line : Line}
    (h : Line.parse text = .ok line) :
    (spaceLines (lines ++ [text])).length = (spaceLines lines).length + line.size := by
  rw [spaceLines_concat lines h, List.length_append, Line.size]
  split <;> rfl

/-- A line that cannot be read takes no word. -/
theorem spaceLines_concat_error (lines : List Text) {text : Text} {reason : LineError}
    (h : Line.parse text = .error reason) : spaceLines (lines ++ [text]) = spaceLines lines := by
  rw [spaceLines_append, spaceLines.eq_def [text], List.filterMap_cons, h]
  exact List.append_nil _

theorem defines_eq {text : Text} {line : Line} (h : Line.parse text = .ok line) (symbol : Text) :
    defines symbol text = decide (line.label = some symbol) := by
  rw [defines, h]
  rfl

theorem defines_error {text : Text} {reason : LineError} (h : Line.parse text = .error reason)
    (symbol : Text) : defines symbol text = false := by
  rw [defines, h]
  rfl

/-- One more line defines only labels that have not been defined before. -/
theorem labelAddress?_concat (lines : List Text) (text symbol : Text) :
    labelAddress? (lines ++ [text]) symbol =
      (labelAddress? lines symbol).or
        (if defines symbol text then some (spaceLines lines).length else none) := by
  unfold labelAddress?
  rw [List.findIdx?_append]
  cases found : lines.findIdx? (defines symbol) with
  | some k =>
    have inside : k ≤ lines.length := Nat.le_of_lt (List.findIdx?_eq_some_iff_findIdx_eq.mp found).1
    rw [Option.some_or, Option.map_some, Option.map_some, Option.some_or,
      List.take_append_of_le_length inside]
  | none =>
    rw [Option.none_or, Option.map_none, Option.none_or, List.findIdx?_singleton]
    by_cases here : defines symbol text = true
    · rw [if_pos here, if_pos here, Option.map_some, Option.map_some, Nat.zero_add,
        List.take_left]
    · rw [if_neg here, if_neg here]
      rfl

/-- A label lies in front of a word or after the last one. -/
theorem labelAddress?_le {lines : List Text} {symbol : Text} {address : Nat}
    (h : labelAddress? lines symbol = some address) : address ≤ (spaceLines lines).length := by
  obtain ⟨k, -, rfl⟩ := Option.map_eq_some_iff.mp h
  exact ((List.take_sublist k lines).filterMap _).length_le

end Source

/-! ## The addresses that the passes give out -/

open Source

/-- A label gets the current address unless it has one. -/
theorem Labelling.get?_addLabel (s : Labelling) (label : Option Text) (symbol : Text) :
    (s.addLabel label).2.get? symbol =
      (s.table.get? symbol).or (if label = some symbol then some s.address else none) := by
  cases label with
  | none => simp [addLabel]
  | some name =>
    simp only [addLabel, Option.some.injEq]
    cases known : s.table.get? name with
    | some first =>
      rw [LabelTable.define_of_get? known]
      dsimp only
      by_cases same : name = symbol
      · rw [← same, known, Option.some_or]
      · rw [if_neg same, Option.or_none]
    | none =>
      rw [LabelTable.define_of_new known]
      dsimp only
      rw [LabelTable.get?_extend known]
      by_cases same : symbol = name
      · rw [if_pos same, same, known, if_pos rfl, Option.none_or]
      · rw [if_neg same, if_neg (Ne.symm same), Option.or_none]

theorem labelling_step_ok (s : Labelling) {text : Text} {line : Line}
    (h : Line.parse text = .ok line) :
    Labelling.step s text =
      ((s.addLabel line.label).1, ⟨s.address + line.size, (s.addLabel line.label).2⟩) := by
  rw [Labelling.step, h]

theorem labelling_step_error (s : Labelling) {text : Text} {reason : LineError}
    (h : Line.parse text = .error reason) :
    Labelling.step s text = (some (.badLine reason), s) := by
  rw [Labelling.step, h]

theorem labelling_address (lines : List Text) :
    (Labelling.step.final {} lines).address = (spaceLines lines).length := by
  induction lines using List.reverseRecOn with
  | nil => rfl
  | append_singleton lines text ih =>
    rw [PassStep.final_append, PassStep.final_cons, PassStep.final_nil]
    cases parsed : Line.parse text with
    | error reason => rw [labelling_step_error _ parsed, spaceLines_concat_error _ parsed, ih]
    | ok line => rw [labelling_step_ok _ parsed, length_spaceLines_concat _ parsed, ih]

/-- Collecting labels finds the address of the first definition of every label. -/
theorem labelling_table (lines : List Text) (symbol : Text) :
    (Labelling.step.final {} lines).table.get? symbol = labelAddress? lines symbol := by
  induction lines using List.reverseRecOn with
  | nil => rfl
  | append_singleton lines text ih =>
    rw [PassStep.final_append, PassStep.final_cons, PassStep.final_nil, labelAddress?_concat]
    cases parsed : Line.parse text with
    | error reason =>
      rw [labelling_step_error _ parsed, defines_error parsed, ih]
      simp
    | ok line =>
      rw [labelling_step_ok _ parsed, defines_eq parsed, Labelling.get?_addLabel,
        labelling_address, ih]
      simp

theorem resolution_address (table : LabelTable) (lines : List Text) :
    ((Resolution.step table).final {} lines).address = (spaceLines lines).length := by
  induction lines using List.reverseRecOn with
  | nil => rfl
  | append_singleton lines text ih =>
    rw [PassStep.final_append, PassStep.final_cons, PassStep.final_nil, Resolution.step]
    cases parsed : Line.parse text with
    | error reason =>
      rw [spaceLines_concat_error _ parsed, ← ih]
    | ok line =>
      rw [length_spaceLines_concat _ parsed, ← ih]
      dsimp only
      split <;> rfl

/-! ## What a line puts into its word -/

/-- The instruction that an operation on a label stands for: a transfer from or to the address at
    a distance from the program counter, or a jump there. -/
def SymbolicOp.atDistance (op : SymbolicOp) (cond : Cond) (target : Option Nat) (distance : Int) :
    Instr :=
  match op with
  | .load =>
    { op := .load, cond, target := target.getD 0, src1 := 0, src2 := 15, offset := distance }
  | .store =>
    { op := .store, cond, target := target.getD 0, src1 := 0, src2 := 15, offset := distance }
  | .jump => { op := .add, cond, target := 15, src1 := 0, src2 := 15, offset := distance }

theorem SymbolicOp.resolve_eq (op : SymbolicOp) (cond : Cond) (target : Option Nat)
    (distance : Int) : op.resolve cond target distance = op.atDistance cond target distance := by
  cases op <;> rfl

namespace Statement

/-- The instruction that a statement denotes at an address, given where the labels lie. -/
def instr? (labels : Text → Option Nat) (address : Nat) : Statement → Option Instr
  | .full instr => some instr
  | .symbolic op cond target symbol =>
    (labels symbol).map fun (destination : Nat) =>
      op.atDistance cond target ((destination : Int) - address)
  | _ => none

/-- The word that a statement denotes at an address, given where the labels lie. -/
def word? (labels : Text → Option Nat) (address : Nat) : Statement → Option Word
  | .nothing => none
  | .data value => some value
  | .full instr => some instr.encode
  | .symbolic op cond target symbol =>
    ((symbolic op cond target symbol).instr? labels address).map Instr.encode

theorem word?_of_instr? {labels : Text → Option Nat} {address : Nat} {statement : Statement}
    {i : Instr} (h : statement.instr? labels address = some i) :
    statement.word? labels address = some i.encode := by
  cases statement with
  | nothing => cases h
  | data value => cases h
  | full instr => rw [word?, Option.some.inj h]
  | symbolic op cond target symbol => rw [word?, h, Option.map_some]

/-- An operation on a label that is close enough fits an instruction word. -/
theorem encodable_of_fits {op : SymbolicOp} {cond : Cond} {target : Option Nat} {symbol : Text}
    {distance : Int} (fits : (symbolic op cond target symbol).Fits)
    (close : -1024 ≤ distance ∧ distance ≤ 1023) :
    (op.atDistance cond target distance).Encodable := by
  have exists_ : target.getD 0 < registerCount := by
    cases target with
    | none => decide
    | some number => exact fits.1 number rfl
  have zero : 0 < registerCount := by decide
  have counter : 15 < registerCount := by decide
  cases op with
  | load => exact ⟨exists_, zero, counter, close⟩
  | store => exact ⟨exists_, zero, counter, close⟩
  | jump => exact ⟨counter, zero, counter, close⟩

end Statement

end DuckMachine
