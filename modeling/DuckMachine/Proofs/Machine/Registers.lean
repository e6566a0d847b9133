import DuckMachine.Machine.Registers

/-
  The register file under writes.

  A machine starts with `r0` wired to zero and the other registers not, and no write ever changes
  which registers are wired. On such a file a write to any register but `r0` is read back. For the
  program counter it is enough that `r15` is not wired.
-/

namespace DuckMachine

namespace Register

theorem put_put (r : Register) (a b : Word) : (r.put a).put b = r.put b := by
  cases r <;> rfl

theorem put_get (r : Register) : r.put r.get = r := by
  cases r <;> rfl

theorem put_eq_zero_iff {r : Register} {w : Word} : r.put w = .zero ↔ r = .zero := by
  cases r <;> simp [put]

end Register

namespace Registers

/-- Whether `r0` and no other register is wired to zero. -/
def Wired (rs : Registers) : Prop :=
  ∀ (number : Nat) (inside : number < registerCount), rs.cells[number] = .zero ↔ number = 0

theorem wired_initial : initial.Wired := by
  intro number inside
  simp only [initial, Vector.getElem_set, Vector.getElem_replicate]
  by_cases zero : 0 = number
  · simp [zero]
  · simp [zero, Ne.symm zero]

theorem Wired.put {rs : Registers} (h : rs.Wired) (number : Nat) (w : Word) :
    (rs.put number w).Wired := by
  unfold Registers.put
  split
  · next exists_ =>
    intro other inside
    rw [Vector.getElem_set]
    split
    · next same =>
      subst same
      rw [Register.put_eq_zero_iff]
      exact h number inside
    · exact h other inside
  · exact h

theorem Wired.get_zero {rs : Registers} (h : rs.Wired) : rs.get 0 = 0 := by
  have zero : rs.cells[0] = .zero := (h 0 (by decide)).mpr rfl
  simp [get, zero, Register.get]

theorem register_of_lt (rs : Registers) {number : Nat} (inside : number < registerCount) :
    rs.register number = .ok rs.cells[number] := by
  simp [register, inside]

theorem Wired.register_zero {rs : Registers} (h : rs.Wired) : rs.register 0 = .ok .zero := by
  rw [rs.register_of_lt (by decide), (h 0 (by decide)).mpr rfl]

theorem Wired.register_general {rs : Registers} (h : rs.Wired) {number : Nat}
    (inside : number < registerCount) (held : number ≠ 0) :
    ∃ w, rs.register number = .ok (.general w) := by
  rw [rs.register_of_lt inside]
  cases cell : rs.cells[number] with
  | zero => exact absurd ((h number inside).mp cell) held
  | general w => exact ⟨w, rfl⟩

theorem get_put_of_ne (rs : Registers) {number other : Nat} (w : Word) (h : other ≠ number) :
    (rs.put number w).get other = rs.get other := by
  by_cases inside : number < registerCount
  · rw [get_put (rs.register_of_lt inside), if_neg h]
  · rw [put, dif_neg inside]

theorem Wired.get_put_self {rs : Registers} (h : rs.Wired) {number : Nat} (w : Word)
    (exists_ : number < registerCount) (held : number ≠ 0) : (rs.put number w).get number = w := by
  obtain ⟨content, found⟩ := h.register_general exists_ held
  rw [get_put found, if_pos rfl]
  rfl

theorem put_put (rs : Registers) (number : Nat) (a b : Word) :
    (rs.put number a).put number b = rs.put number b := by
  by_cases inside : number < registerCount
  · simp only [put, dif_pos inside, Vector.getElem_set_self, Vector.set_set, Register.put_put]
  · simp only [put, dif_neg inside]

/-! ## The program counter -/

theorem setPc_setPc (rs : Registers) (a b : Word) : (rs.setPc a).setPc b = rs.setPc b :=
  rs.put_put pcNumber a b

/-- Setting the program counter to what it holds changes nothing. -/
theorem setPc_pc (rs : Registers) : rs.setPc rs.pc = rs := by
  have inside : pcNumber < registerCount := by decide
  have same : (rs.cells[pcNumber].put rs.pc) = rs.cells[pcNumber] := by
    have held : rs.pc = rs.cells[pcNumber].get := by
      unfold pc get
      rw [Vector.getElem?_eq_getElem inside]
    rw [held, Register.put_get]
  unfold setPc put
  rw [dif_pos inside, same, Vector.set_getElem_self]

/-- Whether the program counter is not wired to zero. No write changes this (`Counting.put`),
    whatever the other registers are. -/
def Counting (rs : Registers) : Prop := rs.register pcNumber ≠ .ok .zero

theorem Counting.pc_setPc {rs : Registers} (h : rs.Counting) (w : Word) :
    (rs.setPc w).pc = w := by
  have found := rs.register_of_lt (by decide : pcNumber < registerCount)
  unfold Counting at h
  rw [found] at h
  show (rs.put pcNumber w).get pcNumber = w
  rw [get_put found, if_pos rfl]
  cases cell : rs.cells[pcNumber] with
  | zero => exact absurd (congrArg Except.ok cell) h
  | general content => rfl

theorem Counting.put {rs : Registers} (h : rs.Counting) (number : Nat) (w : Word) :
    (rs.put number w).Counting := by
  have inside : pcNumber < registerCount := by decide
  unfold Counting at h ⊢
  rw [register_of_lt _ inside, ne_eq, Except.ok.injEq] at h ⊢
  unfold Registers.put
  split
  · rw [Vector.getElem_set]
    split
    · next same =>
      subst same
      rwa [Register.put_eq_zero_iff]
    · exact h
  · exact h

theorem Wired.counting {rs : Registers} (h : rs.Wired) : rs.Counting := by
  obtain ⟨w, held⟩ := h.register_general (by decide : pcNumber < registerCount) (by decide)
  unfold Counting
  rw [held]
  simp

theorem Wired.pc_setPc {rs : Registers} (h : rs.Wired) (w : Word) : (rs.setPc w).pc = w :=
  h.counting.pc_setPc w

theorem Wired.setPc {rs : Registers} (h : rs.Wired) (w : Word) : (rs.setPc w).Wired :=
  h.put pcNumber w

end Registers

end DuckMachine
