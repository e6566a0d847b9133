import DuckMachine.Proofs.Asm.Loading
import DuckMachine.Proofs.Asm.Resolution

/-
  Lines that take no space.

  A comment without a label has no word, defines no label and refers to none. Both passes and the
  loader go on after it as they would without it, only that the lines from there on have a number
  more (`AsmError.renumber`, `ObjectError.renumber`). What follows from this for the whole source is
  said in `insert_comment`.
-/

namespace DuckMachine

/-- The number of a line after another line has been inserted at a position. -/
def renumbered (position line : Nat) : Nat := if line < position then line else line + 1

/-- The same error after another line has been inserted at a position. -/
def AsmError.renumber (position : Nat) (e : AsmError) : AsmError :=
  { e with line := renumbered position e.line }

/-- The same error after another line has been inserted at a position. -/
def ObjectError.renumber (position : Nat) (e : ObjectError) : ObjectError :=
  { e with line := renumbered position e.line }

namespace Source

theorem insertIdx_length {α : Type} (before after : List α) (a : α) :
    (before ++ after).insertIdx before.length a = before ++ a :: after := by
  induction before with
  | nil => exact List.insertIdx_zero
  | cons first before ih =>
    rw [List.cons_append, List.length_cons, List.insertIdx_succ_cons, ih]
    rfl

/-- The lines before and after a position. -/
theorem exists_append {lines : List Text} {number : Nat} (inside : number ≤ lines.length) :
    ∃ before after, lines = before ++ after ∧ number = before.length :=
  ⟨lines.take number, lines.drop number, (List.take_append_drop number lines).symm,
    (List.length_take_of_le inside).symm⟩

end Source

/-! ## The errors of a pass -/

namespace PassStep

variable {σ : Type}

theorem errorsFrom_of_before (step : PassStep σ) {position number : Nat} (state : σ)
    {lines : List Text} (h : number + lines.length ≤ position) :
    (step.errorsFrom number state lines).map (AsmError.renumber position) =
      step.errorsFrom number state lines := by
  induction lines generalizing number state with
  | nil => rfl
  | cons line rest ih =>
    rw [List.length_cons] at h
    have here : renumbered position number = number := if_pos (by omega)
    rw [errorsFrom, List.map_append, ih _ (by omega)]
    cases (step state line).1 with
    | none => rfl
    | some cause => simp [AsmError.renumber, here]

theorem errorsFrom_of_after (step : PassStep σ) {position number : Nat} (state : σ)
    (lines : List Text) (h : position ≤ number) :
    (step.errorsFrom number state lines).map (AsmError.renumber position) =
      step.errorsFrom (number + 1) state lines := by
  induction lines generalizing number state with
  | nil => rfl
  | cons line rest ih =>
    have here : renumbered position number = number + 1 := if_neg (by omega)
    rw [errorsFrom, errorsFrom, List.map_append, ih _ (by omega)]
    cases (step state line).1 with
    | none => rfl
    | some cause => simp [AsmError.renumber, here]

/-- A line in which nothing is wrong, and after which the same is wrong as without it, only gives
    the lines after it another number. -/
theorem errorsFrom_insert {step : PassStep σ} {state next : σ} {before after : List Text}
    {text : Text} (idle : step (step.final state before) text = (none, next))
    (alike : step.errorsFrom before.length next after =
      step.errorsFrom before.length (step.final state before) after) :
    step.errorsFrom 0 state (before ++ text :: after) =
      (step.errorsFrom 0 state (before ++ after)).map (AsmError.renumber before.length) := by
  have first : 0 + before.length ≤ before.length := by omega
  rw [errorsFrom_append, errorsFrom_append, errorsFrom, idle, List.map_append,
    errorsFrom_of_before step state first, Nat.zero_add, ← alike,
    errorsFrom_of_after step next after (Nat.le_refl _)]
  rfl

/-- A walk over such a line comes to the limit just when it does without the line. -/
theorem walk_insert {step : PassStep σ} {state next : σ} {before after : List Text} {text : Text}
    (idle : step (step.final state before) text = (none, next))
    (alike : step.errorsFrom before.length next after =
      step.errorsFrom before.length (step.final state before) after)
    {d d' : Diagnostics} (peers : d.Peer d') :
    ∃ (result : Except LimitExceeded Unit) (found : List AsmError),
      (found = [] → step.errorsFrom 0 state (before ++ after) = []) ∧
      step.walk state d (before ++ after) =
        (result.map fun _ => step.final state (before ++ after),
          { d with errors := d.errors ++ found }) ∧
      step.walk state d' (before ++ text :: after) =
        (result.map fun _ => step.final state (before ++ text :: after),
          { d' with errors := d'.errors ++ found.map (AsmError.renumber before.length) }) := by
  obtain ⟨result, found, clean, first, second⟩ :=
    peers.reportAll (AsmError.renumber before.length) (step.errorsFrom 0 state (before ++ after))
  refine ⟨result, found, clean, ?_, ?_⟩
  · rw [walk, walkFrom_eq_reportAll, first]
  · rw [walk, walkFrom_eq_reportAll, errorsFrom_insert idle alike, second]

end PassStep

namespace Source

/-! ## Comments -/

/-- The second pass finds the same errors in lines that begin at the same address, whatever it has
    written before. -/
theorem resolution_errorsFrom_of_address (table : LabelTable) (number : Nat) {s s' : Resolution}
    (same : s.address = s'.address) (lines : List Text) :
    (Resolution.step table).errorsFrom number s lines =
      (Resolution.step table).errorsFrom number s' lines := by
  rw [resolution_errorsFrom, resolution_errorsFrom, same]

section

variable {comment : Text} (parsed : Line.parse comment = .ok ⟨none, .nothing⟩)

include parsed

theorem lineWords_comment : Object.lineWords comment = .ok [] := by
  rw [Object.lineWords, parsed]

theorem labelling_step_comment (s : Labelling) : Labelling.step s comment = (none, s) :=
  labelling_step_ok s parsed

theorem resolution_step_comment (table : LabelTable) (s : Resolution) :
    Resolution.step table s comment = (none, { s with output := comment.trimEnd :: s.output }) := by
  unfold Resolution.step
  rw [parsed]
  rfl

/-! ## The passes -/

variable {d d' : Diagnostics} (peers : d.Peer d')

include peers

/-- The first pass builds the same table and finds the same errors. -/
theorem collectLabels_insert (before after : List Text) :
    ∃ result found,
      collectLabels (before ++ after) d = (result, { d with errors := d.errors ++ found }) ∧
      collectLabels (before ++ comment :: after) d' =
        (result,
          { d' with errors := d'.errors ++ found.map (AsmError.renumber before.length) }) := by
  have idle := labelling_step_comment parsed (Labelling.step.final {} before)
  have final : Labelling.step.final {} (before ++ comment :: after) =
      Labelling.step.final {} (before ++ after) := by
    rw [PassStep.final_append, PassStep.final_append, PassStep.final_cons, idle]
  obtain ⟨result, found, -, first, second⟩ :=
    PassStep.walk_insert idle (rfl : _ = Labelling.step.errorsFrom _ _ after) peers
  unfold collectLabels
  rw [first, second, final]
  exact ⟨_, found, rfl, rfl⟩

/-- The second pass, by any table, finds the same errors and copies the comment to the output of
    the lines before it. -/
theorem resolveLabels_insert (table : LabelTable) (before after : List Text) :
    ∃ result found,
      resolveLabels (before ++ after) table d = (result, { d with errors := d.errors ++ found }) ∧
      resolveLabels (before ++ comment :: after) table d' =
        (result.map fun output =>
            output.insertIdx (written (fates table before)).length comment.trimEnd,
          { d' with errors := d'.errors ++ found.map (AsmError.renumber before.length) }) ∧
      (found = [] → (written (fates table before)).length = before.length) := by
  have idle := resolution_step_comment parsed table ((Resolution.step table).final {} before)
  have earlier : ((Resolution.step table).final {} before).output.reverse =
      written (fates table before) := by
    rw [resolution_output, List.append_nil, List.reverse_reverse]
    rfl
  have output : ((Resolution.step table).final {} (before ++ comment :: after)).output.reverse =
      ((Resolution.step table).final {} (before ++ after)).output.reverse.insertIdx
        (written (fates table before)).length comment.trimEnd := by
    rw [PassStep.final_append, PassStep.final_append, PassStep.final_cons, idle]
    dsimp only
    rw [resolution_output _ _ after, resolution_output _ _ after, List.reverse_append,
      List.reverse_append, List.reverse_reverse, List.reverse_cons, List.append_assoc,
      List.singleton_append, earlier, insertIdx_length]
  obtain ⟨result, found, clean, first, second⟩ :=
    PassStep.walk_insert idle (resolution_errorsFrom_of_address table _ (by rfl) after) peers
  unfold resolveLabels
  rw [first, second]
  refine ⟨_, found, rfl, ?_, ?_⟩
  · cases result with
    | error exceeded => rfl
    | ok _ =>
      dsimp only [Except.map]
      rw [output]
  · intro none
    have whole := clean none
    rw [PassStep.errorsFrom_append, List.append_eq_nil_iff] at whole
    rw [← earlier, List.length_reverse]
    exact (denoted_of_resolution table whole.1).1

/-- The assembly finds the same errors, and its output is the same but for the comment. -/
theorem assemble_insert {before after : List Text} {source source' : Text}
    (lines : source.lines = before ++ after) (lines' : source'.lines = before ++ comment :: after) :
    ∃ result found,
      assemble source d = (result, { d with errors := d.errors ++ found }) ∧
      assemble source' d' =
        (result.map (Option.map fun object => object.insertIdx before.length comment.trimEnd),
          { d' with errors := d'.errors ++ found.map (AsmError.renumber before.length) }) := by
  obtain ⟨result, found, first, first'⟩ := collectLabels_insert parsed peers before after
  unfold assemble
  rw [lines, lines']
  dsimp only
  rw [first, first']
  cases result with
  | error exceeded => exact ⟨_, found, rfl, rfl⟩
  | ok table =>
    have listed : (d'.errors ++ found.map (AsmError.renumber before.length)).length =
        (d.errors ++ found).length := by
      rw [List.length_append, List.length_append, List.length_map, peers.count]
    dsimp only
    by_cases clean : d.errors ++ found = []
    · -- Nothing has been found, so the second pass follows, with the lists as they were.
      obtain ⟨old, rfl⟩ := List.append_eq_nil_iff.mp clean
      have old' : d'.errors = [] := by
        rw [← List.length_eq_zero_iff, peers.count, old]
        rfl
      obtain ⟨result, more, second, second', whole⟩ :=
        resolveLabels_insert parsed peers table before after
      rw [List.map_nil, List.append_nil, List.append_nil, if_neg (not_not_intro old),
        if_neg (not_not_intro old'), second, second']
      cases result with
      | error exceeded => exact ⟨_, more, rfl, rfl⟩
      | ok object =>
        refine ⟨_, more, rfl, ?_⟩
        by_cases none : more = []
        · rw [none, whole none]
          simp [old, old', Except.map]
        · simp [none, Except.map]
    · have unclean' : d'.errors ++ found.map (AsmError.renumber before.length) ≠ [] := by
        rw [← List.length_pos_iff, listed]
        exact List.length_pos_iff.mpr clean
      rw [if_pos clean, if_pos unclean']
      exact ⟨_, found, rfl, rfl⟩

omit peers

/-! ## The words -/

/-- A comment has no words, and only the lines after it get another number. -/
theorem load_insert (before after : List Text) :
    Object.load (before ++ comment :: after) =
      (Object.load (before ++ after)).mapError (ObjectError.renumber before.length) := by
  have alone : Object.load (comment :: after) =
      (Object.load after).mapError (ObjectError.later 1) := by
    rw [Object.load, Object.loadFrom_cons, lineWords_comment parsed, Object.loadFrom_add 0 1]
    show (Object.load after).mapError _ >>= _ = _
    cases Object.load after <;> rfl
  rw [Object.load_append, Object.load_append, alone]
  cases loaded : Object.load before with
  | error e =>
    have here : renumbered before.length e.line = e.line := if_pos (Object.line_lt_of_load loaded)
    show Except.error e = Except.error (ObjectError.renumber before.length e)
    rw [ObjectError.renumber, here]
  | ok words =>
    rw [ok_bind, ok_bind]
    cases Object.load after with
    | error e =>
      have here : renumbered before.length (e.line + before.length) = e.line + 1 + before.length := by
        unfold renumbered
        rw [if_neg (by omega)]
        omega
      show Except.error _ = Except.error (ObjectError.renumber before.length _)
      simp [ObjectError.later, ObjectError.renumber, here]
    | ok more => rfl

/-- Lines in which a comment is inserted have the words that they have without it, also if the
    comment loses the blanks at its end. -/
theorem load_insertIdx_trimEnd {lines : List Text} {words : List Word}
    (loaded : Object.load lines = .ok words) {number : Nat} (inside : number ≤ lines.length) :
    Object.load (lines.insertIdx number comment.trimEnd) = .ok words := by
  obtain ⟨before, after, rfl, rfl⟩ := exists_append inside
  rw [insertIdx_length, load_insert (Line.parse_trimEnd parsed), loaded]
  rfl

end

/-- Object lines come of an assembly that leaves the list of errors empty. -/
theorem errors_eq_nil_of_assemble {source : Text} {d d' : Diagnostics} {object : List Text}
    (h : assemble source d = (.ok (some object), d')) : d'.errors = [] := by
  unfold assemble at h
  dsimp only at h
  rcases passed : collectLabels source.lines d with ⟨_ | table, listed⟩
  · rw [passed] at h
    cases congrArg Prod.fst h
  · rw [passed] at h
    dsimp only at h
    by_cases first : listed.errors = []
    · rw [if_neg (not_not_intro first)] at h
      rcases resolved : resolveLabels source.lines table listed with ⟨_ | output, last⟩
      · rw [resolved] at h
        cases congrArg Prod.fst h
      · rw [resolved] at h
        obtain ⟨result, rfl⟩ := Prod.mk.inj h
        by_contra wrong
        rw [if_neg wrong] at result
        cases result
    · rw [if_pos first] at h
      cases congrArg Prod.fst h

/-! ## The whole statement -/

/-- A comment without a label can be inserted at any position of a source. Under any limit, and
    after any errors listed before, each pass exceeds the limit as it does without the comment, or
    comes to the same table or to the same output with the comment after what the lines before it
    have put out. It finds the same errors, except that the lines from the position on have the next
    number. The assembly does likewise, and its output loads to the same words. So do the lines
    themselves, if they load. -/
theorem insert_comment {lines : List Text} {number : Nat} (inside : number ≤ lines.length)
    {comment : Text} (parsed : Line.parse comment = .ok ⟨none, .nothing⟩)
    {d d' : Diagnostics} (peers : d.Peer d') :
    (∃ result found,
      collectLabels lines d = (result, { d with errors := d.errors ++ found }) ∧
      collectLabels (lines.insertIdx number comment) d' =
        (result, { d' with errors := d'.errors ++ found.map (AsmError.renumber number) })) ∧
    (∀ table, ∃ result found,
      resolveLabels lines table d = (result, { d with errors := d.errors ++ found }) ∧
      resolveLabels (lines.insertIdx number comment) table d' =
        (result.map fun output =>
            output.insertIdx (written ((fates table lines).take number)).length comment.trimEnd,
          { d' with errors := d'.errors ++ found.map (AsmError.renumber number) }) ∧
      (found = [] → (written ((fates table lines).take number)).length = number)) ∧
    (∀ source source' : Text, source.lines = lines →
      source'.lines = lines.insertIdx number comment →
      ∃ result found,
        assemble source d = (result, { d with errors := d.errors ++ found }) ∧
        assemble source' d' =
          (result.map (Option.map fun object => object.insertIdx number comment.trimEnd),
            { d' with errors := d'.errors ++ found.map (AsmError.renumber number) }) ∧
        ∀ object, result = .ok (some object) → ∃ words, Object.load object = .ok words ∧
          Object.load (object.insertIdx number comment.trimEnd) = .ok words) ∧
    Object.load (lines.insertIdx number comment) =
      (Object.load lines).mapError (ObjectError.renumber number) := by
  obtain ⟨before, after, rfl, rfl⟩ := exists_append inside
  rw [insertIdx_length]
  refine ⟨collectLabels_insert parsed peers before after, ?_, ?_, load_insert parsed before after⟩
  · intro table
    have earlier : (fates table (before ++ after)).take before.length = fates table before := by
      unfold fates
      rw [fatesFrom_append, List.take_left' (length_fatesFrom table 0 before)]
    rw [earlier]
    exact resolveLabels_insert parsed peers table before after
  · intro source source' split split'
    obtain ⟨result, found, first, second⟩ := assemble_insert parsed peers split split'
    refine ⟨result, found, first, second, ?_⟩
    intro object same
    rw [same] at first
    have nothing := errors_eq_nil_of_assemble first
    obtain ⟨limit, errors⟩ := d
    obtain ⟨rfl, -⟩ := List.append_eq_nil_iff.mp nothing
    obtain ⟨length, words, loaded, -⟩ := denoted_of_assemble (congrArg Prod.fst first)
    rw [← split, ← length] at inside
    exact ⟨words, loaded, load_insertIdx_trimEnd parsed loaded inside⟩

/-- A comment with blanks before and after it. -/
def looseComment : Text := "  ; next \t".toList

theorem insert_comment_looseComment :
    assemble "n: DATA 7\n  ; next \t\nJUMP n".toList { limit := 0 } =
        (.ok (some ["n: DATA 7".toList, "  ; next".toList, "ADD r15,r0,r15[-1]".toList]),
          { limit := 0 }) ∧
      (∃ words,
        Object.load ["n: DATA 7".toList, "  ; next".toList, "ADD r15,r0,r15[-1]".toList] =
          .ok words) ∧
      assemble "JUMP a\n  ; next \t\nn: DATA 7\nJUMP b".toList { limit := 1 } =
        (.error ⟨2, 1⟩, ⟨1, [⟨0, .undefinedSymbol ['a']⟩, ⟨3, .undefinedSymbol ['b']⟩]⟩) := by
  have comment : Line.parse looseComment = .ok ⟨none, .nothing⟩ := by decide
  have peers (limit : Nat) : Diagnostics.Peer ⟨limit, []⟩ ⟨limit, []⟩ := ⟨rfl, rfl⟩
  have assembled : assemble jumpBack { limit := 0 } =
      (.ok (some ["n: DATA 7".toList, "ADD r15,r0,r15[-1]".toList]), { limit := 0 }) := by decide
  have abandoned : assemble lostJumps { limit := 1 } =
      (.error ⟨2, 1⟩, ⟨1, [⟨0, .undefinedSymbol ['a']⟩, ⟨2, .undefinedSymbol ['b']⟩]⟩) := by decide
  obtain ⟨-, -, clean, -⟩ :=
    insert_comment (by decide : 1 ≤ jumpBack.lines.length) comment (peers 0)
  obtain ⟨-, -, wrong, -⟩ :=
    insert_comment (by decide : 1 ≤ lostJumps.lines.length) comment (peers 1)
  obtain ⟨result, found, first, second, loads⟩ :=
    clean jumpBack "n: DATA 7\n  ; next \t\nJUMP n".toList rfl (by decide)
  obtain ⟨result', found', first', second', -⟩ :=
    wrong lostJumps "JUMP a\n  ; next \t\nn: DATA 7\nJUMP b".toList rfl (by decide)
  obtain ⟨rfl, listed⟩ := Prod.mk.inj (assembled.symm.trans first)
  obtain ⟨rfl, listed'⟩ := Prod.mk.inj (abandoned.symm.trans first')
  obtain rfl : [] = found := (Diagnostics.mk.inj listed).2
  obtain rfl : [(⟨0, .undefinedSymbol ['a']⟩ : AsmError), ⟨2, .undefinedSymbol ['b']⟩] = found' :=
    (Diagnostics.mk.inj listed').2
  obtain ⟨words, -, loaded⟩ := loads _ rfl
  exact ⟨second, ⟨words, loaded⟩, second'⟩

end Source

end DuckMachine
