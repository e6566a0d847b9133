import DuckMachine.Machine.Bus

/-
  Memory and the buses over it.

  A load or store succeeds at the addresses 0 to 1023 and is refused everywhere else, and a loaded
  program stands in the first cells. No bus in use has words elsewhere (`LawfulBus`).
-/

namespace DuckMachine

namespace Memory

/-- Whether an address names a cell. -/
def Inside (address : Int) : Prop := 0 ≤ address ∧ address < memorySize

instance (address : Int) : Decidable (Inside address) := inferInstanceAs (Decidable (_ ∧ _))

theorem get_outside {address : Int} (h : ¬Inside address) (m : Memory) :
    m.get address = .error (.outOfRange address) := by
  rw [get, slot_of_outside h]

theorem put_outside {address : Int} (h : ¬Inside address) (m : Memory) (w : Word) :
    m.put address w = .error (.outOfRange address) := by
  rw [put, slot_of_outside h]

theorem exists_get {address : Int} (h : Inside address) (m : Memory) :
    ∃ w, m.get address = .ok w := by
  rw [get, slot_of_inside h]
  exact ⟨_, rfl⟩

theorem exists_put {address : Int} (h : Inside address) (m : Memory) (w : Word) :
    ∃ changed, m.put address w = .ok changed := by
  rw [put, slot_of_inside h]
  exact ⟨_, rfl⟩

theorem inside_of_get {m : Memory} {address : Int} {w : Word} (h : m.get address = .ok w) :
    Inside address := by
  by_cases inside : Inside address
  · exact inside
  · rw [get_outside inside] at h
    cases h

/-- Memory that holds a program gives back its words. -/
theorem get_ofProgram {program : List Word} {m : Memory} (h : ofProgram program = .ok m) {a : Nat}
    {w : Word} (found : program[a]? = some w) : m.get a = .ok w := by
  obtain ⟨inside, rfl⟩ := List.getElem?_eq_some_iff.mp found
  unfold ofProgram at h
  split at h
  · next fits =>
    obtain rfl := Except.ok.inj h
    have cell : Inside (a : Int) := by
      refine ⟨Int.natCast_nonneg a, ?_⟩
      have : a < memorySize := Nat.lt_of_lt_of_le inside fits
      exact_mod_cast this
    rw [get, slot_of_inside cell]
    simp [inside]
  · cases h

theorem ofProgram_of_length_le {program : List Word} (h : program.length ≤ memorySize) :
    ∃ m, ofProgram program = .ok m := by
  rw [ofProgram, dif_pos h]
  exact ⟨_, rfl⟩

/-- Whether all cells from an address on are zero. -/
def ZeroFrom (m : Memory) (start : Nat) : Prop :=
  ∀ a : Nat, start ≤ a → a < memorySize → m.get a = .ok 0

/-- After a program there are zeros. -/
theorem zeroFrom_ofProgram {program : List Word} {m : Memory} (h : ofProgram program = .ok m) :
    m.ZeroFrom program.length := by
  intro a beyond inside
  have cell : Inside (a : Int) := ⟨by omega, by omega⟩
  unfold ofProgram at h
  split at h
  · next fits =>
    obtain rfl := Except.ok.inj h
    rw [get, slot_of_inside cell]
    simp [List.getElem_append_right, beyond]
  · cases h

/-! ## As a bus -/

theorem eq_of_load {m after : Memory} {address : Int} {result : Except MemoryFault Word}
    (h : Bus.load address m = (result, after)) : after = m :=
  (congrArg Prod.snd h).symm

theorem eq_of_store_error {m after : Memory} {address : Int} {w : Word} {fault : MemoryFault}
    (h : Bus.store address w m = (.error fault, after)) : after = m := by
  simp only [Bus.store] at h
  cases stored : m.put address w with
  | ok changed =>
    rw [stored] at h
    cases congrArg Prod.fst h
  | error fault =>
    rw [stored] at h
    exact (congrArg Prod.snd h).symm

theorem put_of_store {m after : Memory} {address : Int} {w : Word}
    (h : Bus.store address w m = (.ok (), after)) : m.put address w = .ok after := by
  simp only [Bus.store] at h
  cases stored : m.put address w with
  | ok changed =>
    rw [stored] at h
    rw [← show changed = after from congrArg Prod.snd h]
  | error fault =>
    rw [stored] at h
    cases congrArg Prod.fst h

end Memory

/-- A bus from which nothing can be loaded outside of memory. -/
class LawfulBus (β : Type) [Bus β] : Prop where
  inside_of_load : ∀ {address : Int} {b : β} {w : Word},
    (Bus.load address b).1 = .ok w → Memory.Inside address

instance : LawfulBus Memory where
  inside_of_load h := Memory.inside_of_get h

instance {κ : Type} [Console κ] : LawfulBus (Mapped κ) where
  inside_of_load {address m w} h := by
    change (Mapped.load address m).1 = .ok w at h
    unfold Mapped.load at h
    split at h
    · next input =>
      subst input
      exact ⟨by decide, by decide⟩
    · exact Memory.inside_of_get h

end DuckMachine
