import DuckMachine.Asm.Assemble
import DuckMachine.Proofs.Asm.Layout

/-
  The errors of a source.

  A line is wrong in at most one way for each pass, and in which way is said here of the line and
  those before it, without tables or counters (`labelCause?`, `referenceCause?`). The errors of a
  source are those of the first pass or, if it finds none, those of the second; the limit only cuts
  their list (`assemble_eq`).
-/

namespace DuckMachine

open Source

namespace Source

/-! ## What is wrong with a line -/

/-- What the first pass finds wrong with a line after the lines `before`: it cannot be read, or its
    label has been defined already. -/
def labelCause? (before : List Text) (text : Text) : Option AsmCause :=
  match Line.parse text with
  | .error reason => some (.badLine reason)
  | .ok line =>
    line.label.bind fun label => (labelAddress? before label).map fun first =>
      .duplicateLabel label first

/-- What the second pass finds wrong with a line after the lines `before`, given where the labels
    lie: it cannot be read, or its symbol is no label or too far away. -/
def referenceCause? (labels : Text → Option Nat) (before : List Text) (text : Text) :
    Option AsmCause :=
  match Line.parse text with
  | .error reason => some (.badLine reason)
  | .ok ⟨_, .symbolic _ _ _ symbol⟩ =>
    match labels symbol with
    | none => some (.undefinedSymbol symbol)
    | some address =>
      let distance : Int := address - (spaceLines before).length
      if -1024 ≤ distance ∧ distance ≤ 1023 then none else some (.outOfReach symbol distance)
  | .ok _ => none

/-- The errors of lines, given what is wrong with a line after those before it. -/
def errorsBy (cause? : List Text → Text → Option AsmCause) (lines : List Text) : List AsmError :=
  lines.zipIdx.filterMap fun (text, number) =>
    (cause? (lines.take number) text).map fun cause => ⟨number, cause⟩

/-- The errors that the first pass finds. -/
def labelErrors (lines : List Text) : List AsmError := errorsBy labelCause? lines

/-- The errors that the second pass finds. -/
def referenceErrors (lines : List Text) : List AsmError :=
  errorsBy (referenceCause? (labelAddress? lines)) lines

/-- The errors of a source: those of the first pass or, if there are none, those of the second. -/
def errors (lines : List Text) : List AsmError :=
  if labelErrors lines = [] then referenceErrors lines else labelErrors lines

/-! ## Lists of errors -/

theorem errorsBy_concat (cause? : List Text → Text → Option AsmCause) (lines : List Text)
    (text : Text) :
    errorsBy cause? (lines ++ [text]) =
      errorsBy cause? lines
        ++ ((cause? lines text).map fun cause => (⟨lines.length, cause⟩ : AsmError)).toList := by
  have before : ∀ entry ∈ lines.zipIdx,
      (cause? ((lines ++ [text]).take entry.2) entry.1).map (fun cause =>
        (⟨entry.2, cause⟩ : AsmError)) =
      (cause? (lines.take entry.2) entry.1).map fun cause => ⟨entry.2, cause⟩ := by
    intro entry found
    have inside : entry.2 < lines.length := by
      have := List.snd_lt_add_of_mem_zipIdx found
      omega
    rw [List.take_append_of_le_length (Nat.le_of_lt inside)]
  unfold errorsBy
  rw [List.zipIdx_append, List.filterMap_append, List.filterMap_congr before]
  simp only [List.zipIdx_singleton, List.filterMap_cons, List.filterMap_nil, Nat.zero_add,
    List.take_left]
  cases cause? lines text <;> rfl

theorem mem_errorsBy_iff {cause? : List Text → Text → Option AsmCause} {lines : List Text}
    {e : AsmError} :
    e ∈ errorsBy cause? lines ↔
      ∃ text, lines[e.line]? = some text ∧ cause? (lines.take e.line) text = some e.cause := by
  constructor
  · intro h
    obtain ⟨⟨text, number⟩, found, wrong⟩ := List.mem_filterMap.mp h
    obtain ⟨cause, here, rfl⟩ := Option.map_eq_some_iff.mp wrong
    exact ⟨text, List.mem_zipIdx_iff_getElem?.mp found, here⟩
  · rintro ⟨text, found, wrong⟩
    refine List.mem_filterMap.mpr ⟨(text, e.line), List.mem_zipIdx_iff_getElem?.mpr found, ?_⟩
    dsimp only
    rw [wrong]
    rfl

/-- There are no errors if nothing is wrong with any line, whatever is before it. -/
theorem errorsBy_eq_nil {cause? : List Text → Text → Option AsmCause} {lines : List Text}
    (h : ∀ before, ∀ text ∈ lines, cause? before text = none) : errorsBy cause? lines = [] := by
  refine List.eq_nil_iff_forall_not_mem.mpr ?_
  intro e found
  obtain ⟨text, there, wrong⟩ := mem_errorsBy_iff.mp found
  rw [h _ text (List.mem_of_getElem? there)] at wrong
  cases wrong

theorem line_lt_of_mem_errorsBy {cause? : List Text → Text → Option AsmCause} {lines : List Text}
    {e : AsmError} (h : e ∈ errorsBy cause? lines) : e.line < lines.length := by
  obtain ⟨text, found, -⟩ := mem_errorsBy_iff.mp h
  exact (List.getElem?_eq_some_iff.mp found).1

/-- Errors are in the order of the lines, and no line has two. -/
theorem pairwise_errorsBy (cause? : List Text → Text → Option AsmCause) (lines : List Text) :
    (errorsBy cause? lines).Pairwise fun a b => a.line < b.line := by
  induction lines using List.reverseRecOn with
  | nil => exact List.Pairwise.nil
  | append_singleton lines text ih =>
    rw [errorsBy_concat, List.pairwise_append]
    refine ⟨ih, ?_, ?_⟩
    · cases cause? lines text with
      | none => exact List.Pairwise.nil
      | some cause => exact List.pairwise_singleton _ _
    · intro a before b last
      obtain ⟨cause, -, rfl⟩ := Option.map_eq_some_iff.mp (Option.mem_toList.mp last)
      exact line_lt_of_mem_errorsBy before

/-- A pass finds these errors, if each of its steps finds what is wrong with its line. -/
theorem errorsFrom_eq_errorsBy {σ : Type} {step : PassStep σ} {state : σ}
    {cause? : List Text → Text → Option AsmCause}
    (each : ∀ before text, (step (step.final state before) text).1 = cause? before text)
    (lines : List Text) : step.errorsFrom 0 state lines = errorsBy cause? lines := by
  induction lines using List.reverseRecOn with
  | nil => rfl
  | append_singleton lines text ih =>
    rw [PassStep.errorsFrom_append, errorsBy_concat, ih, PassStep.errorsFrom, PassStep.errorsFrom,
      List.append_nil, each, Nat.zero_add]

/-! ## The passes over a source -/

/-- The table of the labels in a source. -/
def labelTable (lines : List Text) : LabelTable := (Labelling.step.final {} lines).table

/-- Whether neither pass over the lines of a source finds an error. -/
def Clean (lines : List Text) : Prop :=
  Labelling.step.errorsFrom 0 {} lines = [] ∧
    (Resolution.step (labelTable lines)).errorsFrom 0 {} lines = []

/-- The lines that the second pass over a source writes. -/
def objectLines (lines : List Text) : List Text :=
  ((Resolution.step (labelTable lines)).final {} lines).output.reverse

theorem labelling_cause (before : List Text) (text : Text) :
    (Labelling.step (Labelling.step.final {} before) text).1 = labelCause? before text := by
  rw [labelCause?]
  cases parsed : Line.parse text with
  | error reason => rw [labelling_step_error _ parsed]
  | ok line =>
    rw [labelling_step_ok _ parsed]
    dsimp only
    cases line.label with
    | none => rfl
    | some label =>
      rw [Option.bind_some, ← labelling_table before label, Labelling.addLabel]
      cases known : (Labelling.step.final {} before).table.get? label with
      | none =>
        rw [LabelTable.define_of_new known]
        rfl
      | some first =>
        rw [LabelTable.define_of_get? known]
        rfl

theorem resolution_cause (table : LabelTable) (before : List Text) (text : Text) :
    (Resolution.step table ((Resolution.step table).final {} before) text).1 =
      referenceCause? table.get? before text := by
  rw [referenceCause?, Resolution.step]
  cases parsed : Line.parse text with
  | error reason => rfl
  | ok line =>
    obtain ⟨label, statement⟩ := line
    cases statement with
    | symbolic op cond target symbol =>
      simp only [Line.resolve]
      cases table.get? symbol with
      | none => rfl
      | some address =>
        dsimp only
        rw [resolution_address, checkOffset]
        by_cases reach : -1024 ≤ (address : Int) - (spaceLines before).length ∧
            (address : Int) - (spaceLines before).length ≤ 1023
        · simp only [if_pos reach]
        · simp only [if_neg reach]
    | _ => rfl

theorem labelling_errors (lines : List Text) :
    Labelling.step.errorsFrom 0 {} lines = labelErrors lines :=
  errorsFrom_eq_errorsBy labelling_cause lines

theorem resolution_errors (lines : List Text) :
    (Resolution.step (labelTable lines)).errorsFrom 0 {} lines = referenceErrors lines := by
  have labels : (labelTable lines).get? = labelAddress? lines := funext (labelling_table lines)
  rw [errorsFrom_eq_errorsBy (resolution_cause _), labels, referenceErrors]

theorem clean_iff {lines : List Text} : Clean lines ↔ errors lines = [] := by
  rw [Clean, labelling_errors, resolution_errors, errors]
  by_cases labels : labelErrors lines = []
  · simp only [labels, true_and, if_true]
  · simp only [labels, false_and, if_false]

/-! ## Under a limit -/

theorem underLimit_eq {σ : Type} (limit : Nat) (errors : List AsmError) (state : σ) :
    PassStep.underLimit limit errors state =
      (if limit < errors.length then .error ⟨limit + 1, limit⟩ else .ok state,
        ⟨limit, errors.take (limit + 1)⟩) := by
  unfold PassStep.underLimit
  by_cases fits : errors.length ≤ limit
  · rw [if_pos fits, if_neg (Nat.not_lt.mpr fits), List.take_of_length_le (by omega)]
  · rw [if_neg fits, if_pos (Nat.not_le.mp fits)]

/-- The first pass lists its errors up to the limit and one more. -/
theorem collectLabels_eq (lines : List Text) (limit : Nat) :
    collectLabels lines { limit } =
      (if limit < (labelErrors lines).length then .error ⟨limit + 1, limit⟩
        else .ok (labelTable lines),
        ⟨limit, (labelErrors lines).take (limit + 1)⟩) := by
  rw [collectLabels, PassStep.walk, PassStep.walkFrom_eq _ _ _ _ (Nat.zero_le _), List.nil_append,
    labelling_errors, underLimit_eq]
  dsimp only
  split
  · rfl
  · rfl

/-- The second pass lists its errors in the same way, by any table. -/
theorem resolveLabels_eq_final (lines : List Text) (table : LabelTable) (limit : Nat) :
    resolveLabels lines table { limit } =
      (if limit < ((Resolution.step table).errorsFrom 0 {} lines).length then
          .error ⟨limit + 1, limit⟩
        else .ok ((Resolution.step table).final {} lines).output.reverse,
        ⟨limit, ((Resolution.step table).errorsFrom 0 {} lines).take (limit + 1)⟩) := by
  rw [resolveLabels, PassStep.walk, PassStep.walkFrom_eq _ _ _ _ (Nat.zero_le _), List.nil_append,
    underLimit_eq]
  dsimp only
  split
  · rfl
  · rfl

theorem resolveLabels_eq (lines : List Text) (limit : Nat) :
    resolveLabels lines (labelTable lines) { limit } =
      (if limit < (referenceErrors lines).length then .error ⟨limit + 1, limit⟩
        else .ok (objectLines lines),
        ⟨limit, (referenceErrors lines).take (limit + 1)⟩) := by
  rw [resolveLabels_eq_final, resolution_errors, objectLines]

/-- An assembly comes to its object lines if there are no errors, and to the errors otherwise, up
    to the limit and one more. -/
theorem assemble_eq (source : Text) (limit : Nat) :
    assemble source { limit } =
      (if limit < (errors source.lines).length then .error ⟨limit + 1, limit⟩
        else if errors source.lines = [] then .ok (some (objectLines source.lines))
        else .ok none,
        ⟨limit, (errors source.lines).take (limit + 1)⟩) := by
  have listed (found : List AsmError) : found.take (limit + 1) = [] ↔ found = [] := by
    simp only [List.take_eq_nil_iff, Nat.add_eq_zero_iff, Nat.one_ne_zero, and_false, false_or]
  rw [assemble, collectLabels_eq]
  by_cases clean : labelErrors source.lines = []
  · have fits : ¬limit < (labelErrors source.lines).length := by
      rw [clean]
      exact Nat.not_lt_zero limit
    rw [errors, if_pos clean, if_neg fits, clean, List.take_nil]
    dsimp only
    rw [if_neg (not_not_intro rfl), resolveLabels_eq]
    by_cases exceeded : limit < (referenceErrors source.lines).length
    · simp only [if_pos exceeded]
    · simp only [if_neg exceeded, listed]
      split
      · rfl
      · rfl
  · rw [errors, if_neg clean]
    by_cases exceeded : limit < (labelErrors source.lines).length
    · simp only [if_pos exceeded]
    · simp only [if_neg exceeded, ne_eq, listed, clean, not_false_eq_true, if_true, if_false]

/-- Whatever is listed before, an assembly adds errors of the source: of the first pass, or of the
    second if the first found none. -/
theorem assemble_errors (source : Text) (d : Diagnostics) :
    ∃ found, (assemble source d).2.errors = d.errors ++ found ∧
      (found <+: labelErrors source.lines ∨ found <+: referenceErrors source.lines) := by
  obtain ⟨found, first, added⟩ := Labelling.step.walk_errors {} d source.lines
  rw [labelling_errors] at first
  rw [assemble, collectLabels]
  rcases walked : Labelling.step.walk {} d source.lines with ⟨_ | last, d'⟩
  · rw [walked] at added
    exact ⟨found, added, .inl first⟩
  · rw [walked] at added
    obtain ⟨rfl, -⟩ := PassStep.walkFrom_of_ok walked
    dsimp only [Except.map]
    split
    · exact ⟨found, added, .inl first⟩
    · next clean =>
      have nothing : d'.errors = d.errors := by
        rw [added] at clean ⊢
        obtain ⟨old, none⟩ := List.append_eq_nil_iff.mp (not_not.mp clean)
        rw [none, List.append_nil]
      obtain ⟨found', second, added'⟩ :=
        (Resolution.step (labelTable source.lines)).walk_errors {} d' source.lines
      rw [resolution_errors] at second
      rw [nothing] at added'
      refine ⟨found', ?_, .inr second⟩
      rw [← added', resolveLabels, ← labelTable]
      rcases (Resolution.step (labelTable source.lines)).walk {} d' source.lines with ⟨_ | _, _⟩
      · rfl
      · rfl

/-- What is wrong with a reference in a line that can be read. -/
theorem referenceCause?_of_parse {labels : Text → Option Nat} {before : List Text} {text : Text}
    {line : Line} {cause : AsmCause} (parsed : Line.parse text = .ok line)
    (h : referenceCause? labels before text = some cause) :
    (∃ symbol, cause = .undefinedSymbol symbol) ∨
      ∃ symbol distance, cause = .outOfReach symbol distance := by
  obtain ⟨label, statement⟩ := line
  rw [referenceCause?, parsed] at h
  cases statement with
  | symbolic op cond target symbol =>
    cases known : labels symbol with
    | none =>
      simp only [known, Option.some.injEq] at h
      exact .inl ⟨symbol, h.symm⟩
    | some address =>
      simp only [known] at h
      split at h
      · cases h
      · exact .inr ⟨symbol, _, (Option.some.inj h).symm⟩
  | _ => cases h

/-- If the first pass finds nothing wrong, every line can be read. -/
theorem parse_of_labelErrors_eq_nil {lines : List Text} (clean : labelErrors lines = [])
    {number : Nat} {text : Text} (found : lines[number]? = some text) :
    ∃ line, Line.parse text = .ok line := by
  cases parsed : Line.parse text with
  | ok line => exact ⟨line, rfl⟩
  | error reason =>
    have unread : (⟨number, .badLine reason⟩ : AsmError) ∈ labelErrors lines := by
      refine mem_errorsBy_iff.mpr ⟨text, found, ?_⟩
      rw [labelCause?, parsed]
    rw [clean] at unread
    cases unread

/-- In a source in which the first pass finds nothing wrong, only references can be. -/
theorem cause_of_mem_referenceErrors {lines : List Text} (clean : labelErrors lines = [])
    {e : AsmError} (h : e ∈ referenceErrors lines) :
    (∃ symbol, e.cause = .undefinedSymbol symbol) ∨
      ∃ symbol distance, e.cause = .outOfReach symbol distance := by
  obtain ⟨text, found, wrong⟩ := mem_errorsBy_iff.mp h
  obtain ⟨line, parsed⟩ := parse_of_labelErrors_eq_nil clean found
  exact referenceCause?_of_parse parsed wrong

theorem pairwise_errors (lines : List Text) :
    (errors lines).Pairwise fun a b => a.line < b.line := by
  rw [errors]
  split
  · exact pairwise_errorsBy _ lines
  · exact pairwise_errorsBy _ lines

theorem line_lt_of_mem_errors {lines : List Text} {e : AsmError} (h : e ∈ errors lines) :
    e.line < lines.length := by
  rw [errors] at h
  split at h
  · exact line_lt_of_mem_errorsBy h
  · exact line_lt_of_mem_errorsBy h

/-- The second pass goes by a first one that listed no error. -/
theorem resolveLabels_of_collectLabels {lines : List Text} {limit : Nat} {table : LabelTable}
    {d : Diagnostics} (first : collectLabels lines { limit } = (.ok table, d))
    (clean : d.errors = []) :
    (resolveLabels lines table d).2.errors = (referenceErrors lines).take (limit + 1) := by
  rw [collectLabels_eq] at first
  obtain ⟨result, rfl⟩ := Prod.mk.inj first
  have labels : labelErrors lines = [] := (List.take_eq_nil_iff.mp clean).resolve_left (by omega)
  rw [labels, List.length_nil, if_neg (Nat.not_lt_zero limit)] at result
  rw [← Except.ok.inj result, labels, List.take_nil, resolveLabels_eq]

/-- What an assembly under a limit comes to depends on the number of errors. -/
theorem assemble_result (source : Text) (limit : Nat) :
    (∀ exceeded, (assemble source { limit }).1 = .error exceeded ↔
      limit < (errors source.lines).length ∧ exceeded = ⟨limit + 1, limit⟩) ∧
    ((assemble source { limit }).1 = .ok none ↔
      0 < (errors source.lines).length ∧ (errors source.lines).length ≤ limit) ∧
    ∀ object, (assemble source { limit }).1 = .ok (some object) ↔
      errors source.lines = [] ∧ object = objectLines source.lines := by
  rw [assemble_eq]
  by_cases exceeded : limit < (errors source.lines).length
  · have found : errors source.lines ≠ [] := List.length_pos_iff.mp (by omega)
    simp [exceeded, found, eq_comm]
  · by_cases clean : errors source.lines = []
    · simp [clean, eq_comm]
    · have wrong : 0 < (errors source.lines).length := List.length_pos_iff.mpr clean
      simp [exceeded, clean, wrong, Nat.le_of_not_lt exceeded]

end Source

/-- The errors of a source are a list that no limit enters into: what the first pass finds or, if
    that is nothing, what the second finds, which is only about references. Its lines increase.
    Under every limit an assembly leaves as many errors of the list as the limit allows and one
    more, gives up if there is one more, has no object lines if there are errors at all, and
    otherwise comes to object lines that do not depend on the limit either. -/
theorem assemble_underLimit (source : Text) :
    ((errors source.lines).Pairwise fun a b => a.line < b.line) ∧
    (∀ e ∈ errors source.lines, e.line < source.lines.length) ∧
    (labelErrors source.lines = [] → ∀ e ∈ errors source.lines,
      (∃ symbol, e.cause = .undefinedSymbol symbol) ∨
        ∃ symbol distance, e.cause = .outOfReach symbol distance) ∧
    ∀ limit,
      (collectLabels source.lines { limit }).2.errors =
        (labelErrors source.lines).take (limit + 1) ∧
      (∀ table d, collectLabels source.lines { limit } = (.ok table, d) → d.errors = [] →
        (resolveLabels source.lines table d).2.errors =
          (referenceErrors source.lines).take (limit + 1)) ∧
      (assemble source { limit }).2 = ⟨limit, (errors source.lines).take (limit + 1)⟩ ∧
      (∀ exceeded, (assemble source { limit }).1 = .error exceeded ↔
        limit < (errors source.lines).length ∧ exceeded = ⟨limit + 1, limit⟩) ∧
      ((assemble source { limit }).1 = .ok none ↔
        0 < (errors source.lines).length ∧ (errors source.lines).length ≤ limit) ∧
      ∀ object, (assemble source { limit }).1 = .ok (some object) ↔
        errors source.lines = [] ∧ object = objectLines source.lines := by
  refine ⟨pairwise_errors _, fun e => line_lt_of_mem_errors, ?_, ?_⟩
  · intro clean e found
    rw [errors, if_pos clean] at found
    exact cause_of_mem_referenceErrors clean found
  · intro limit
    refine ⟨by rw [collectLabels_eq], ?_, by rw [assemble_eq], assemble_result source limit⟩
    intro table d first clean
    exact resolveLabels_of_collectLabels first clean

/-- Two jumps to labels that are not there. -/
def lostJumps : Text := "JUMP a\nn: DATA 7\nJUMP b".toList

theorem assemble_underLimit_lostJumps :
    errors lostJumps.lines =
      [⟨0, .undefinedSymbol ['a']⟩, ⟨2, .undefinedSymbol ['b']⟩] ∧
    labelErrors lostJumps.lines = [] ∧
    (∀ e ∈ errors lostJumps.lines, (∃ symbol, e.cause = .undefinedSymbol symbol) ∨
      ∃ symbol distance, e.cause = .outOfReach symbol distance) ∧
    (resolveLabels lostJumps.lines (.ofList [(['n'], 1)]) { limit := 0 }).2.errors =
      (referenceErrors lostJumps.lines).take 1 ∧
    (assemble lostJumps { limit := 0 }).2.errors = [⟨0, .undefinedSymbol ['a']⟩] ∧
    (assemble lostJumps { limit := 1 }).1 = .error ⟨2, 1⟩ ∧
    (assemble lostJumps { limit := 2 }).1 = .ok none := by
  have listed : errors lostJumps.lines =
      [⟨0, .undefinedSymbol ['a']⟩, ⟨2, .undefinedSymbol ['b']⟩] := by decide
  have labels : labelErrors lostJumps.lines = [] := by decide
  have passed : collectLabels lostJumps.lines { limit := 0 } =
      (.ok (.ofList [(['n'], 1)]), { limit := 0 }) := by decide
  obtain ⟨-, -, references, each⟩ := assemble_underLimit lostJumps
  obtain ⟨-, second, first, -⟩ := each 0
  obtain ⟨-, -, -, exceeded, -⟩ := each 1
  obtain ⟨-, -, -, -, allowed, -⟩ := each 2
  have causes := references labels
  have resolved := second _ _ passed rfl
  rw [listed] at first exceeded allowed
  exact ⟨listed, labels, causes, resolved, by rw [first]; rfl, (exceeded _).mpr ⟨by decide, rfl⟩,
    allowed.mpr (by decide)⟩

end DuckMachine
