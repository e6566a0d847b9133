import DuckMachine.Machine.Memory

/-
  Buses: what a processor can load words from and store words to.

  Plain memory is a bus without side effects. On a mapped bus a load from address 510 reads a word
  from a console and a store to address 511 writes one; every other access goes to memory, also a
  store to 510 and a load from 511.
-/

namespace DuckMachine

/-- Anything that words can be loaded from and stored to. A load may change the bus, too. -/
class Bus (β : Type) where
  load : Int → β → Except MemoryFault Word × β
  store : Int → Word → β → Except MemoryFault Unit × β

/-- Where a mapped bus reads and writes words outside of memory. -/
class Console (κ : Type) where
  readWord : κ → Except MemoryFault Word × κ
  writeWord : Word → κ → κ

instance : Bus Memory where
  load address m := (m.get address, m)
  store address w m :=
    match m.put address w with
    | .ok m' => (.ok (), m')
    | .error fault => (.error fault, m)

/-- Memory with a console at two of its addresses. -/
structure Mapped (κ : Type) where
  memory : Memory
  console : κ

namespace Mapped

/-- A load from this address reads from the console. -/
def inputAddress : Int := 510

/-- A store to this address writes to the console. -/
def outputAddress : Int := 511

variable {κ : Type} [Console κ]

/-- The word at an address, from the console or from memory. -/
def load (address : Int) (m : Mapped κ) : Except MemoryFault Word × Mapped κ :=
  if address = inputAddress then
    let (result, console) := Console.readWord m.console
    (result, { m with console })
  else (m.memory.get address, m)

/-- A store to the console or to memory. -/
def store (address : Int) (w : Word) (m : Mapped κ) : Except MemoryFault Unit × Mapped κ :=
  if address = outputAddress then
    (.ok (), { m with console := Console.writeWord w m.console })
  else
    match m.memory.put address w with
    | .ok memory => (.ok (), { m with memory })
    | .error fault => (.error fault, m)

instance : Bus (Mapped κ) where
  load := load
  store := store

end Mapped

/-- A console fed from a queue that keeps everything written to it. -/
structure Queue where
  input : List Word
  output : Array Word := #[]
  deriving DecidableEq

instance : Console Queue where
  readWord q :=
    match q.input with
    | [] => (.error .inputClosed, q)
    | w :: rest => (.ok w, { q with input := rest })
  writeWord w q := { q with output := q.output.push w }

end DuckMachine
