import DuckMachine.Text.Basic
import DuckMachine.Word.Basic

/-
  Main memory: 1024 words, addressed from zero.

  An address is an integer, the signed reading of a word, and one outside of the memory is
  refused by name.
-/

namespace DuckMachine

/-- The number of words in memory. -/
abbrev memorySize : Nat := 1024

/-- Why a word could not be loaded or stored. -/
inductive MemoryFault where
  | outOfRange (address : Int)
  | badInput (line : Text)
  | inputClosed
  | io (reason : String)
  deriving DecidableEq, Repr

/-- What is said about a word that could not be loaded or stored. -/
def MemoryFault.message : MemoryFault → String
  | .outOfRange address => s!"address {address} is outside of memory (0 to 1023)"
  | .badInput line => s!"console input `{line.string}` is not an integer"
  | .inputClosed => "console input is closed"
  | .io reason => s!"console I/O failed: {reason}"

/-- The cells of main memory. -/
structure Memory where
  cells : Vector Word memorySize
  deriving DecidableEq

namespace Memory

/-- Memory with zero in every cell. -/
def empty : Memory := ⟨Vector.replicate memorySize 0⟩

/-- Memory that holds a program from address zero on, and zeros after it. -/
def ofProgram (program : List Word) : Except MemoryFault Memory :=
  if fits : program.length ≤ memorySize then
    .ok ⟨⟨(program ++ List.replicate (memorySize - program.length) 0).toArray, by simp; omega⟩⟩
  else .error (.outOfRange (program.length - 1))

/-- The place of an address among the cells. -/
def slot (address : Int) : Except MemoryFault (Fin memorySize) :=
  if h : 0 ≤ address ∧ address < memorySize then .ok ⟨address.toNat, by omega⟩
  else .error (.outOfRange address)

/-- The word at an address. -/
def get (m : Memory) (address : Int) : Except MemoryFault Word :=
  match slot address with
  | .ok i => .ok m.cells[i]
  | .error fault => .error fault

/-- Memory after a store. -/
def put (m : Memory) (address : Int) (w : Word) : Except MemoryFault Memory :=
  match slot address with
  | .ok i => .ok ⟨m.cells.set i w⟩
  | .error fault => .error fault

theorem slot_of_inside {address : Int} (h : 0 ≤ address ∧ address < memorySize) :
    slot address = .ok ⟨address.toNat, by omega⟩ := dif_pos h

theorem slot_of_outside {address : Int} (h : ¬(0 ≤ address ∧ address < memorySize)) :
    slot address = .error (.outOfRange address) := dif_neg h

/-- Addresses share no cell. -/
theorem slot_injective {a b : Int} {i : Fin memorySize} (ha : slot a = .ok i)
    (hb : slot b = .ok i) : a = b := by
  unfold slot at ha hb
  split at ha
  · split at hb
    · have equal := Fin.val_eq_of_eq (Except.ok.inj (ha.trans hb.symm))
      simp only at equal
      omega
    · cases hb
  · cases ha

/-- A stored word is found again at its address, and all other addresses keep theirs. -/
theorem get_put {m changed : Memory} {address : Int} {w : Word}
    (h : m.put address w = .ok changed) (other : Int) :
    changed.get other = if other = address then .ok w else m.get other := by
  cases hi : slot address with
  | error fault => simp [put, hi] at h
  | ok i =>
    simp only [put, hi, Except.ok.injEq] at h
    subst h
    cases hj : slot other with
    | error fault =>
      have differ : other ≠ address := by
        intro same
        rw [same, hi] at hj
        cases hj
      simp [get, hj, differ]
    | ok j =>
      by_cases same : other = address
      · subst same
        rw [hi] at hj
        cases hj
        simp [get, hi]
      · have differ : i ≠ j := by
          intro equal
          exact same (slot_injective hj (equal ▸ hi))
        simp [get, hj, same, Vector.getElem_set_ne, Fin.val_ne_of_ne differ]

end Memory

end DuckMachine
