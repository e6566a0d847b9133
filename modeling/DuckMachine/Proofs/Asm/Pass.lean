import DuckMachine.Asm.Pass

/-
  Walks without a limit.

  What a pass finds does not depend on how many errors are allowed: the limit only decides how much
  of the list of all its errors is kept (`walkFrom_eq`). Below, a pass is therefore described by
  the state that it ends in and by the list of its errors, and a pass is without errors if every
  single step of it is (`errorsFrom_concat_eq_nil_iff`). A walk that begins with errors already
  listed reports its own after them (`walkFrom_eq_reportAll`).
-/

namespace DuckMachine

namespace Diagnostics

/-- The list with one error after another, until the limit is exceeded. -/
def reportAll (d : Diagnostics) : List AsmError → Except LimitExceeded Unit × Diagnostics
  | [] => (.ok (), d)
  | e :: rest =>
    match d.report e with
    | (.error exceeded, d) => (.error exceeded, d)
    | (.ok (), d) => reportAll d rest

/-- What is added to a list are errors in their order, as far as the limit allows. -/
theorem reportAll_errors (d : Diagnostics) (errors : List AsmError) :
    ∃ found, found <+: errors ∧ (d.reportAll errors).2.errors = d.errors ++ found := by
  induction errors generalizing d with
  | nil => exact ⟨[], List.nil_prefix, (List.append_nil _).symm⟩
  | cons e rest ih =>
    rw [reportAll]
    rcases listed : d.report e with ⟨result, d'⟩
    obtain rfl : d' = { d with errors := d.errors ++ [e] } := (congrArg Prod.snd listed).symm
    cases result with
    | error exceeded => exact ⟨[e], ⟨rest, rfl⟩, rfl⟩
    | ok _ =>
      obtain ⟨found, first, added⟩ := ih { d with errors := d.errors ++ [e] }
      refine ⟨e :: found, List.cons_prefix_cons.mpr ⟨rfl, first⟩, ?_⟩
      dsimp only
      rw [added, List.append_assoc]
      rfl

/-- Whether two lists have room for the same number of further errors. -/
structure Peer (d d' : Diagnostics) : Prop where
  limit : d'.limit = d.limit
  count : d'.errors.length = d.errors.length

theorem Peer.report {d d' : Diagnostics} (h : Peer d d') (e e' : AsmError) :
    (d'.report e').1 = (d.report e).1 ∧ Peer (d.report e).2 (d'.report e').2 := by
  have longer : (d'.errors ++ [e']).length = (d.errors ++ [e]).length := by
    rw [List.length_append, List.length_append, h.count]
    rfl
  refine ⟨?_, h.limit, longer⟩
  unfold Diagnostics.report
  dsimp only
  rw [longer, h.limit]

/-- Only the number of the errors decides how many of them are listed, and the first one always
    is. -/
theorem Peer.reportAll {d d' : Diagnostics} (h : Peer d d') (f : AsmError → AsmError)
    (errors : List AsmError) :
    ∃ result found, (found = [] → errors = []) ∧
      d.reportAll errors = (result, { d with errors := d.errors ++ found }) ∧
      d'.reportAll (errors.map f) = (result, { d' with errors := d'.errors ++ found.map f }) := by
  induction errors generalizing d d' with
  | nil => exact ⟨.ok (), [], id, by simp [Diagnostics.reportAll], by simp [Diagnostics.reportAll]⟩
  | cons e rest ih =>
    obtain ⟨same, peers⟩ := h.report e (f e)
    rw [List.map_cons, Diagnostics.reportAll, Diagnostics.reportAll]
    rcases listed : d.report e with ⟨result, d₁⟩
    rcases listed' : d'.report (f e) with ⟨result', d₁'⟩
    rw [listed, listed'] at same peers
    obtain rfl : result' = result := same
    obtain rfl : d₁ = { d with errors := d.errors ++ [e] } := (congrArg Prod.snd listed).symm
    obtain rfl : d₁' = { d' with errors := d'.errors ++ [f e] } := (congrArg Prod.snd listed').symm
    cases result' with
    | error exceeded => exact ⟨.error exceeded, [e], fun none => absurd none (by simp), rfl, rfl⟩
    | ok _ =>
      obtain ⟨result, found, -, first, second⟩ := ih peers
      refine ⟨result, e :: found, fun none => absurd none (by simp), ?_, ?_⟩
      · dsimp only
        rw [first, List.append_assoc]
        rfl
      · dsimp only
        rw [second, List.append_assoc]
        rfl

end Diagnostics

namespace PassStep

variable {σ : Type}

/-- The state after all lines, whatever was wrong with them. -/
def final (step : PassStep σ) (state : σ) (lines : List Text) : σ :=
  lines.foldl (fun s line => (step s line).2) state

/-- All errors in lines that begin with line number `number`. -/
def errorsFrom (step : PassStep σ) (number : Nat) (state : σ) : List Text → List AsmError
  | [] => []
  | line :: rest =>
    ((step state line).1.map fun cause => ⟨number, cause⟩).toList
      ++ errorsFrom step (number + 1) (step state line).2 rest

@[simp] theorem final_nil (step : PassStep σ) (state : σ) : step.final state [] = state := rfl

@[simp] theorem final_cons (step : PassStep σ) (state : σ) (line : Text) (rest : List Text) :
    step.final state (line :: rest) = step.final (step state line).2 rest := rfl

theorem final_append (step : PassStep σ) (state : σ) (first rest : List Text) :
    step.final state (first ++ rest) = step.final (step.final state first) rest :=
  List.foldl_append

theorem errorsFrom_append (step : PassStep σ) (number : Nat) (state : σ) (first rest : List Text) :
    step.errorsFrom number state (first ++ rest) =
      step.errorsFrom number state first
        ++ step.errorsFrom (number + first.length) (step.final state first) rest := by
  induction first generalizing number state with
  | nil => rfl
  | cons line first ih =>
    rw [List.cons_append, errorsFrom, errorsFrom, ih, final_cons, List.length_cons,
      List.append_assoc]
    congr 3
    omega

/-! ## The limit -/

/-- What comes of a walk with these errors under a limit: they are kept up to the limit and one
    more, and the walk fails if there is one more. -/
def underLimit (limit : Nat) (errors : List AsmError) (state : σ) :
    Except LimitExceeded σ × Diagnostics :=
  if errors.length ≤ limit then (.ok state, ⟨limit, errors⟩)
  else (.error ⟨limit + 1, limit⟩, ⟨limit, errors.take (limit + 1)⟩)

theorem walkFrom_eq (step : PassStep σ) (number : Nat) (state : σ) {d : Diagnostics}
    (lines : List Text) (room : d.errors.length ≤ d.limit) :
    step.walkFrom number state d lines =
      underLimit d.limit (d.errors ++ step.errorsFrom number state lines)
        (step.final state lines) := by
  induction lines generalizing number state d with
  | nil =>
    rw [walkFrom, errorsFrom, List.append_nil, underLimit, if_pos room]
    rfl
  | cons line rest ih =>
    rw [walkFrom, errorsFrom, final_cons]
    rcases found : step state line with ⟨_ | cause, next⟩
    · exact ih _ _ room
    · simp only [Option.map_some, Option.toList_some, Diagnostics.report]
      rw [← List.append_assoc]
      by_cases more : d.limit < (d.errors ++ [(⟨number, cause⟩ : AsmError)]).length
      · -- This error is the one that exceeds the limit.
        have full : (d.errors ++ [(⟨number, cause⟩ : AsmError)]).length = d.limit + 1 := by
          rw [List.length_append, List.length_singleton] at more ⊢
          omega
        have beyond : ¬((d.errors ++ [(⟨number, cause⟩ : AsmError)])
            ++ step.errorsFrom (number + 1) next rest).length ≤ d.limit := by
          rw [List.length_append]
          omega
        rw [if_pos more, underLimit, if_neg beyond, List.take_left' full, full]
      · rw [if_neg more]
        exact ih _ _ (Nat.le_of_not_lt more)

/-- A walk that comes to its end has kept all its errors, whatever was listed before. -/
theorem walkFrom_of_ok {step : PassStep σ} {number : Nat} {state last : σ} {d d' : Diagnostics}
    {lines : List Text} (h : step.walkFrom number state d lines = (.ok last, d')) :
    last = step.final state lines ∧
      d' = { d with errors := d.errors ++ step.errorsFrom number state lines } := by
  induction lines generalizing number state d with
  | nil =>
    rw [walkFrom] at h
    obtain ⟨reached, rfl⟩ := Prod.mk.inj h
    refine ⟨(Except.ok.inj reached).symm, ?_⟩
    rw [errorsFrom, List.append_nil]
  | cons line rest ih =>
    rw [walkFrom] at h
    rw [errorsFrom, final_cons]
    rcases found : step state line with ⟨_ | cause, next⟩
    · rw [found] at h
      exact ih h
    · rw [found] at h
      simp only [Diagnostics.report] at h
      by_cases more : d.limit < (d.errors ++ [(⟨number, cause⟩ : AsmError)]).length
      · rw [if_pos more] at h
        cases congrArg Prod.fst h
      · rw [if_neg more] at h
        obtain ⟨reached, listed⟩ := ih h
        refine ⟨reached, ?_⟩
        rw [listed, List.append_assoc]
        rfl

/-- A walk reports its errors one after the other and comes to its end if it may go on after each
    of them. -/
theorem walkFrom_eq_reportAll (step : PassStep σ) (number : Nat) (state : σ) (d : Diagnostics)
    (lines : List Text) :
    step.walkFrom number state d lines =
      ((d.reportAll (step.errorsFrom number state lines)).1.map fun _ => step.final state lines,
        (d.reportAll (step.errorsFrom number state lines)).2) := by
  induction lines generalizing number state d with
  | nil => rfl
  | cons line rest ih =>
    rw [walkFrom, errorsFrom, final_cons]
    rcases step state line with ⟨_ | cause, next⟩
    · exact ih _ _ _
    · dsimp only [Option.map_some, Option.toList_some, List.singleton_append]
      rw [Diagnostics.reportAll]
      rcases d.report ⟨number, cause⟩ with ⟨_ | _, listed⟩
      · rfl
      · exact ih _ _ _

/-- A walk adds the first of its errors to those that are listed already. -/
theorem walk_errors (step : PassStep σ) (state : σ) (d : Diagnostics) (lines : List Text) :
    ∃ found, found <+: step.errorsFrom 0 state lines ∧
      (step.walk state d lines).2.errors = d.errors ++ found := by
  rw [walk, walkFrom_eq_reportAll]
  exact d.reportAll_errors _

/-! ## Passes without errors -/

/-- A pass has no errors if and only if no step of it has, each from the state it is taken in. -/
theorem errorsFrom_concat_eq_nil_iff {step : PassStep σ} {number : Nat} {state : σ}
    {lines : List Text} {line : Text} :
    step.errorsFrom number state (lines ++ [line]) = [] ↔
      step.errorsFrom number state lines = [] ∧ (step (step.final state lines) line).1 = none := by
  rw [errorsFrom_append, List.append_eq_nil_iff, errorsFrom, errorsFrom, List.append_nil,
    Option.toList_eq_nil_iff, Option.map_eq_none_iff]

end PassStep

end DuckMachine
