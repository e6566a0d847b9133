/-
  When a computation that can fail succeeds: equations for chained and mapped results.

  A computation that looks at its input part by part is described by the requirements on the parts,
  each with its error (`Checks`): it succeeds if all of them are met, and otherwise fails with the
  error of the first one that is not. Such descriptions are put together as the computations are.
-/

namespace DuckMachine

variable {ε ε' α β : Type}

theorem ok_bind (a : α) (f : α → Except ε β) : (Except.ok a >>= f) = f a := rfl

theorem bind_eq_ok_iff {x : Except ε α} {f : α → Except ε β} {b : β} :
    (x >>= f) = .ok b ↔ ∃ a, x = .ok a ∧ f a = .ok b := by
  cases x with
  | error e => simp [bind, Except.bind]
  | ok a => simp [bind, Except.bind]

theorem map_eq_ok_iff {x : Except ε α} {f : α → β} {b : β} :
    x.map f = .ok b ↔ ∃ a, x = .ok a ∧ f a = b := by
  cases x with
  | error e => simp [Except.map]
  | ok a => simp [Except.map]

theorem mapError_eq_ok_iff {x : Except ε α} {f : ε → ε'} {a : α} :
    x.mapError f = .ok a ↔ x = .ok a := by
  cases x with
  | error e =>
    constructor
    · rintro ⟨⟩
    · rintro ⟨⟩
  | ok b =>
    change (.ok b : Except ε' α) = .ok a ↔ (.ok b : Except ε α) = .ok a
    rw [Except.ok.injEq, Except.ok.injEq]

theorem mapError_eq_error_iff {x : Except ε α} {f : ε → ε'} {e : ε'} :
    x.mapError f = .error e ↔ ∃ e', x = .error e' ∧ f e' = e := by
  cases x with
  | error e' =>
    change (.error (f e') : Except ε' α) = .error e ↔ _
    simp
  | ok a =>
    change (.ok a : Except ε' α) = .error e ↔ _
    simp

/-! ## Requirements -/

/-- Propositions with the errors if they do not hold. -/
abbrev Requirements (ε : Type) := List (Prop × ε)

namespace Requirements

/-- All requirements are met. -/
def Met (requirements : Requirements ε) : Prop := ∀ r ∈ requirements, r.1

/-- The first requirement that is not met has this error. -/
def FirstUnmet : Requirements ε → ε → Prop
  | [], _ => False
  | (holds, error) :: rest, e => ¬holds ∧ error = e ∨ holds ∧ FirstUnmet rest e

/-- The requirements with their errors seen in a greater type. -/
def mapError (f : ε → ε') (requirements : Requirements ε) : Requirements ε' :=
  requirements.map fun r => (r.1, f r.2)

@[simp] theorem met_nil : Met ([] : Requirements ε) := by simp [Met]

@[simp] theorem met_cons {r : Prop × ε} {rest : Requirements ε} :
    Met (r :: rest) ↔ r.1 ∧ Met rest :=
  List.forall_mem_cons

@[simp] theorem met_append {first second : Requirements ε} :
    Met (first ++ second) ↔ Met first ∧ Met second :=
  List.forall_mem_append

@[simp] theorem met_mapError {f : ε → ε'} {requirements : Requirements ε} :
    Met (requirements.mapError f) ↔ Met requirements :=
  List.forall_mem_map

theorem firstUnmet_append {first second : Requirements ε} {e : ε} :
    FirstUnmet (first ++ second) e ↔ FirstUnmet first e ∨ Met first ∧ FirstUnmet second e := by
  induction first with
  | nil => simp [FirstUnmet]
  | cons r rest ih =>
    rw [List.cons_append, FirstUnmet, ih, FirstUnmet, met_cons, and_or_left, or_assoc, and_assoc]

theorem firstUnmet_mapError {f : ε → ε'} {requirements : Requirements ε} {e : ε'} :
    FirstUnmet (requirements.mapError f) e ↔ ∃ e', FirstUnmet requirements e' ∧ f e' = e := by
  induction requirements with
  | nil => simp [FirstUnmet, mapError]
  | cons r rest ih =>
    have unfolded : FirstUnmet (mapError f (r :: rest)) e ↔
        ¬r.1 ∧ f r.2 = e ∨ r.1 ∧ FirstUnmet (mapError f rest) e := Iff.rfl
    rw [unfolded, ih]
    constructor
    · rintro (⟨unmet, same⟩ | ⟨met, e', first, same⟩)
      · exact ⟨r.2, .inl ⟨unmet, rfl⟩, same⟩
      · exact ⟨e', .inr ⟨met, first⟩, same⟩
    · rintro ⟨e', ⟨unmet, rfl⟩ | ⟨met, first⟩, same⟩
      · exact .inl ⟨unmet, same⟩
      · exact .inr ⟨met, e', first, same⟩

theorem FirstUnmet.mem {requirements : Requirements ε} {e : ε} (h : FirstUnmet requirements e) :
    ∃ r ∈ requirements, ¬r.1 ∧ r.2 = e := by
  induction requirements with
  | nil => cases h
  | cons r rest ih =>
    rcases h with ⟨unmet, same⟩ | ⟨-, later⟩
    · exact ⟨r, List.mem_cons_self, unmet, same⟩
    · obtain ⟨r', found, unmet⟩ := ih later
      exact ⟨r', List.mem_cons_of_mem _ found, unmet⟩

theorem FirstUnmet.not_met {requirements : Requirements ε} {e : ε}
    (h : FirstUnmet requirements e) : ¬Met requirements := by
  obtain ⟨r, found, unmet, -⟩ := h.mem
  exact fun met => unmet (met r found)

end Requirements

open Requirements

/-- Whether a computation succeeds if all requirements are met, with the result that is described by
    `P`, and otherwise fails with the error of the first one that is not met. -/
structure Checks (x : Except ε α) (requirements : Requirements ε) (P : α → Prop) : Prop where
  ok_iff : ∀ a, x = .ok a ↔ Met requirements ∧ P a
  error_iff : ∀ e, x = .error e ↔ FirstUnmet requirements e

namespace Checks

variable {x : Except ε α} {requirements rest : Requirements ε} {P : α → Prop}

theorem ok (a : α) : Checks (.ok a : Except ε α) [] fun b => b = a where
  ok_iff b := by rw [Except.ok.injEq, eq_comm]; simp
  error_iff e := by simp [FirstUnmet]

/-- A requirement on which the computation branches. -/
theorem guard {y : Except ε α} {holds : Prop} {e : ε} (h : Checks y requirements P)
    (met : holds → x = y) (unmet : ¬holds → x = .error e) :
    Checks x ((holds, e) :: requirements) P := by
  by_cases known : holds
  · rw [met known]
    constructor
    · intro a
      simp [h.ok_iff, known]
    · intro e'
      simp [h.error_iff, known, FirstUnmet]
  · rw [unmet known]
    constructor
    · intro a
      simp [known]
    · intro e'
      simp [known, FirstUnmet]

/-- One requirement, after which the result is known. -/
theorem require {holds : Prop} {e : ε} {a : α} (met : holds → x = .ok a)
    (unmet : ¬holds → x = .error e) : Checks x [(holds, e)] fun b => b = a :=
  (Checks.ok a).guard met unmet

/-- One requirement, which says that something is found. -/
theorem ofOption (read : Option α) {holds : Prop} {e : ε} (found : ∀ a, read = some a → x = .ok a)
    (missing : read = none → x = .error e) (some_iff : ∀ a, read = some a ↔ P a)
    (holds_iff : holds ↔ ∃ a, P a) : Checks x [(holds, e)] P := by
  cases known : read with
  | none =>
    have nothing : ∀ a, ¬P a := by
      intro a holds
      rw [← some_iff, known] at holds
      cases holds
    constructor
    · intro a
      simp [missing known, nothing]
    · intro e'
      simp [missing known, holds_iff, nothing, FirstUnmet]
  | some a =>
    have result := (some_iff a).mp known
    have met : holds := holds_iff.mpr ⟨a, result⟩
    constructor
    · intro b
      rw [found a known, ← some_iff, known, Except.ok.injEq, Option.some.injEq]
      simp [met]
    · intro e'
      simp [found a known, met, FirstUnmet]

/-- The result can be described in another way. -/
theorem congr {Q : α → Prop} (h : Checks x requirements P)
    (same : Met requirements → ∀ a, P a ↔ Q a) : Checks x requirements Q where
  ok_iff a := by
    rw [h.ok_iff]
    exact and_congr_right fun met => same met a
  error_iff := h.error_iff

theorem bind {f : α → Except ε β} {Q : α → β → Prop} (h : Checks x requirements P)
    (next : ∀ a, P a → Checks (f a) rest (Q a)) :
    Checks (x >>= f) (requirements ++ rest) fun b => ∃ a, P a ∧ Q a b := by
  cases known : x with
  | error e =>
    have first := (h.error_iff e).mp known
    constructor
    · intro b
      simp [Bind.bind, Except.bind, first.not_met]
    · intro e'
      have same := h.error_iff e'
      rw [known, Except.error.injEq] at same
      simp only [Bind.bind, Except.bind, firstUnmet_append, first.not_met, false_and, or_false,
        Except.error.injEq, same]
  | ok a =>
    obtain ⟨met, holds⟩ := (h.ok_iff a).mp known
    have only : ∀ a', P a' ↔ a' = a := by
      intro a'
      have same := h.ok_iff a'
      rw [known, Except.ok.injEq] at same
      rw [eq_comm, same, and_iff_right met]
    constructor
    · intro b
      simp only [Bind.bind, Except.bind, (next a holds).ok_iff, met_append, met, true_and, only,
        exists_eq_left]
    · intro e
      have none_before : ¬FirstUnmet requirements e := fun first => first.not_met met
      simp only [Bind.bind, Except.bind, (next a holds).error_iff, firstUnmet_append, met,
        none_before, true_and, false_or]

theorem map (h : Checks x requirements P) (f : α → β) :
    Checks (x.map f) requirements fun b => ∃ a, P a ∧ f a = b where
  ok_iff b := by
    simp only [map_eq_ok_iff, h.ok_iff, and_assoc, exists_and_left]
  error_iff e := by
    rw [← h.error_iff]
    cases x <;> simp [Except.map]

theorem mapError (h : Checks x requirements P) (f : ε → ε') :
    Checks (x.mapError f) (requirements.mapError f) P where
  ok_iff a := by rw [mapError_eq_ok_iff, h.ok_iff, met_mapError]
  error_iff e := by
    simp only [firstUnmet_mapError, ← h.error_iff, mapError_eq_error_iff]

end Checks

end DuckMachine
