import DuckMachine.Text.Basic

/-
  Label tables: the addresses of labels, in the order in which the labels were defined.

  A label keeps the address of its first definition.
-/

namespace DuckMachine

/-- Labels and their addresses, each label once. Addresses have no bound here; one exceeds 32 bits
    only in a source of 2^32 words or more, and such sources are out of scope. -/
structure LabelTable where
  entries : List (Text × Nat) := []
  once : (entries.map Prod.fst).Nodup := by exact List.nodup_nil
  deriving DecidableEq, Repr

namespace LabelTable

/-- The address of a label. -/
def get? (table : LabelTable) (label : Text) : Option Nat := table.entries.lookup label

theorem not_mem_of_get? {table : LabelTable} {label : Text} (new : table.get? label = none) :
    label ∉ table.entries.map Prod.fst := by
  intro known
  obtain ⟨entry, found, same⟩ := List.mem_map.mp known
  have differ := List.lookup_eq_none_iff.mp new entry found
  simp [same] at differ

/-- The table with one more label that it did not have. -/
def extend (table : LabelTable) (label : Text) (address : Nat) (new : table.get? label = none) :
    LabelTable where
  entries := table.entries ++ [(label, address)]
  once := by
    rw [List.map_append, List.nodup_append]
    refine ⟨table.once, List.pairwise_singleton _ label, ?_⟩
    intro known found last here same
    rw [same, List.mem_singleton.mp here] at found
    exact not_mem_of_get? new found

/-- The table with one more label, or the address that the label already has. -/
def define (table : LabelTable) (label : Text) (address : Nat) : Except Nat LabelTable :=
  match new : table.get? label with
  | some first => .error first
  | none => .ok (table.extend label address new)

theorem define_of_get? {table : LabelTable} {label : Text} {first : Nat}
    (h : table.get? label = some first) (address : Nat) :
    table.define label address = .error first := by
  unfold define
  split
  · next known =>
    rw [h] at known
    rw [Option.some.inj known]
  · next new =>
    rw [h] at new
    cases new

theorem define_of_new {table : LabelTable} {label : Text} (new : table.get? label = none)
    (address : Nat) : table.define label address = .ok (table.extend label address new) := by
  unfold define
  split
  · next known =>
    rw [new] at known
    cases known
  · rfl

/-- A new label gets its address, and all other labels keep theirs. -/
theorem get?_extend {table : LabelTable} {label : Text} (new : table.get? label = none)
    (address : Nat) (other : Text) :
    (table.extend label address new).get? other =
      if other = label then some address else table.get? other := by
  unfold get? extend at *
  by_cases same : other = label
  · subst same
    simp only [List.lookup_append, new, Option.none_or, List.lookup_cons, beq_self_eq_true,
      if_true]
  · have differ : (other == label) = false := by simp [same]
    simp only [List.lookup_append, List.lookup_cons, differ, List.lookup_nil, same, if_false]
    simp

/-- The table with a label defined, unless it already was. -/
def insert (table : LabelTable) (label : Text) (address : Nat) : LabelTable :=
  match table.define label address with
  | .ok extended => extended
  | .error _ => table

/-- The table of a list of definitions. -/
def ofList (definitions : List (Text × Nat)) : LabelTable :=
  definitions.foldl (fun table (label, address) => table.insert label address) {}

end LabelTable

end DuckMachine
