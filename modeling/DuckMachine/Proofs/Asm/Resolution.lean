import DuckMachine.Proofs.Asm.Reassembly

/-
  Resolving labels by any table.

  What becomes of a line depends on the line, on the table and on the address of the line, which is
  the number of the words before it, and on nothing else (`lineFate`, `getElem?_fatesFrom`). So the
  second pass can be described line by line: the fates of the lines are a list, the output is what
  has come out well in it, and the errors are the rest (`resolveLabels_by_fates`). A line that fails
  takes its word all the same. Whether it fails is therefore without consequences for the others,
  and so is all else about a line but whether it takes a word (`fatesFrom_set`).
-/

namespace DuckMachine.Source

/-! ## What becomes of a line -/

/-- What becomes of a line at an address: its output line, or what is wrong with it. -/
def lineFate (table : LabelTable) (address : Nat) (text : Text) : Except AsmCause Text :=
  match Line.parse text with
  | .error reason => .error (.badLine reason)
  | .ok line => line.resolve table address text

/-- What the fate of a line is to be. A line that cannot be read is an error, and so is a reference
    to a label that is unknown or out of reach. A line that refers to no label is copied without the
    blanks at its end. For any other reference a text is written that reads as the instruction for
    this distance, under the label of the line. -/
inductive Fate (labels : Text → Option Nat) (address : Nat) (text : Text) :
    Except AsmCause Text → Prop where
  | unread {reason : LineError} (unread : Line.parse text = .error reason) :
      Fate labels address text (.error (.badLine reason))
  | copied {line : Line} (parsed : Line.parse text = .ok line)
      (plain : ¬line.statement.IsReference) : Fate labels address text (.ok text.trimEnd)
  | undefined {label : Option Text} {op : SymbolicOp} {cond : Cond} {target : Option Nat}
      {symbol : Text}
      (parsed : Line.parse text = .ok ⟨label, .symbolic op cond target symbol⟩)
      (unknown : labels symbol = none) :
      Fate labels address text (.error (.undefinedSymbol symbol))
  | outOfReach {label : Option Text} {op : SymbolicOp} {cond : Cond} {target : Option Nat}
      {symbol : Text} {destination : Nat} {distance : Int}
      (parsed : Line.parse text = .ok ⟨label, .symbolic op cond target symbol⟩)
      (known : labels symbol = some destination) (apart : distance = destination - address)
      (far : ¬(-1024 ≤ distance ∧ distance ≤ 1023)) :
      Fate labels address text (.error (.outOfReach symbol distance))
  | rewritten {label : Option Text} {op : SymbolicOp} {cond : Cond} {target : Option Nat}
      {symbol : Text} {destination : Nat} {distance : Int} {resolved : Text}
      (parsed : Line.parse text = .ok ⟨label, .symbolic op cond target symbol⟩)
      (known : labels symbol = some destination) (apart : distance = destination - address)
      (near : -1024 ≤ distance ∧ distance ≤ 1023)
      (read : Line.parse resolved = .ok ⟨label, .full (op.atDistance cond target distance)⟩) :
      Fate labels address text (.ok resolved)

theorem fate_lineFate (table : LabelTable) (address : Nat) (text : Text) :
    Fate table.get? address text (lineFate table address text) := by
  rw [lineFate]
  cases parsed : Line.parse text with
  | error reason => exact .unread parsed
  | ok line =>
    have fits := Line.fits_of_parse parsed
    have names : ∀ name ∈ line.label, IsName name := fun _ => Line.isName_of_parse parsed
    obtain ⟨label, statement⟩ := line
    cases statement with
    | symbolic op cond target symbol =>
      dsimp only [Line.resolve]
      cases known : table.get? symbol with
      | none => exact .undefined parsed known
      | some destination =>
        dsimp only
        rw [checkOffset]
        by_cases near : -1024 ≤ (destination : Int) - address ∧ (destination : Int) - address ≤ 1023
        · rw [if_pos near]
          dsimp only
          rw [SymbolicOp.resolve_eq]
          exact .rewritten parsed known rfl near
            (Line.parse_renderLabelled names (Statement.encodable_of_fits fits near))
        · rw [if_neg near]
          exact .outOfReach parsed known rfl near
    | _ => exact .copied parsed id

theorem lineFate_of_parse {table : LabelTable} {address : Nat} {text : Text} {line : Line}
    (parsed : Line.parse text = .ok line) :
    lineFate table address text = line.resolve table address text := by
  rw [lineFate, parsed]

/-- A line is wrong in the way that its fate says. -/
theorem Fate.lineFate_eq {table : LabelTable} {address : Nat} {text : Text} {cause : AsmCause}
    (h : Fate table.get? address text (.error cause)) :
    lineFate table address text = .error cause := by
  cases h with
  | unread unread => rw [lineFate, unread]
  | undefined parsed unknown =>
    rw [lineFate_of_parse parsed]
    simp only [Line.resolve, unknown]
  | outOfReach parsed known apart far =>
    subst apart
    rw [lineFate_of_parse parsed]
    simp only [Line.resolve, known, checkOffset, if_neg far]

theorem lineFate_eq_error_iff {table : LabelTable} {address : Nat} {text : Text}
    {cause : AsmCause} :
    lineFate table address text = .error cause ↔ Fate table.get? address text (.error cause) := by
  constructor
  · intro wrong
    rw [← wrong]
    exact fate_lineFate table address text
  · exact Fate.lineFate_eq

/-! ## What becomes of lines -/

/-- The number of words that a line takes: none if it cannot be read. -/
def wordCount (text : Text) : Nat := (spaceLines [text]).length

theorem wordCount_of_parse {text : Text} {line : Line} (parsed : Line.parse text = .ok line) :
    wordCount text = line.size :=
  (length_spaceLines_concat [] parsed).trans (Nat.zero_add _)

theorem wordCount_of_error {text : Text} {reason : LineError}
    (unread : Line.parse text = .error reason) : wordCount text = 0 :=
  congrArg List.length (spaceLines_concat_error [] unread)

theorem length_spaceLines_cons (text : Text) (rest : List Text) :
    (spaceLines (text :: rest)).length = wordCount text + (spaceLines rest).length := by
  rw [spaceLines_cons, List.length_append, wordCount]

/-- The fates of lines from an address on. -/
def fatesFrom (table : LabelTable) (address : Nat) : List Text → List (Except AsmCause Text)
  | [] => []
  | text :: rest =>
    lineFate table address text :: fatesFrom table (address + wordCount text) rest

/-- The fates of the lines of a source. -/
def fates (table : LabelTable) (lines : List Text) : List (Except AsmCause Text) :=
  fatesFrom table 0 lines

/-- The output lines. -/
def written (fates : List (Except AsmCause Text)) : List Text := fates.filterMap Except.toOption

/-- What is wrong with a line. -/
def wrong? : Except AsmCause Text → Option AsmCause
  | .error cause => some cause
  | .ok _ => none

/-- The errors in lines that begin with line number `number`. -/
def faultsFrom (number : Nat) (fates : List (Except AsmCause Text)) : List AsmError :=
  (fates.zipIdx number).filterMap fun (fate, number) =>
    (wrong? fate).map fun cause => ⟨number, cause⟩

/-- The errors in the lines of a source. -/
def faults (fates : List (Except AsmCause Text)) : List AsmError := faultsFrom 0 fates

theorem written_cons (fate : Except AsmCause Text) (rest : List (Except AsmCause Text)) :
    written (fate :: rest) = fate.toOption.toList ++ written rest := by
  cases fate <;> rfl

theorem faultsFrom_cons (number : Nat) (fate : Except AsmCause Text)
    (rest : List (Except AsmCause Text)) :
    faultsFrom number (fate :: rest) =
      ((wrong? fate).map fun cause => (⟨number, cause⟩ : AsmError)).toList
        ++ faultsFrom (number + 1) rest := by
  cases fate <;> rfl

/-- The address of a line is the number of the words before it. -/
theorem getElem?_fatesFrom (table : LabelTable) (address : Nat) (lines : List Text) (number : Nat) :
    (fatesFrom table address lines)[number]? =
      lines[number]?.map (lineFate table (address + (spaceLines (lines.take number)).length)) := by
  induction lines generalizing address number with
  | nil => rfl
  | cons text rest ih =>
    cases number with
    | zero => rfl
    | succ number =>
      rw [fatesFrom, List.getElem?_cons_succ, ih, List.getElem?_cons_succ, List.take_succ_cons,
        length_spaceLines_cons, Nat.add_assoc]

theorem length_fatesFrom (table : LabelTable) (address : Nat) (lines : List Text) :
    (fatesFrom table address lines).length = lines.length := by
  induction lines generalizing address with
  | nil => rfl
  | cons text rest ih => rw [fatesFrom, List.length_cons, ih, List.length_cons]

theorem fatesFrom_append (table : LabelTable) (address : Nat) (first rest : List Text) :
    fatesFrom table address (first ++ rest) =
      fatesFrom table address first
        ++ fatesFrom table (address + (spaceLines first).length) rest := by
  induction first generalizing address with
  | nil => rfl
  | cons text first ih =>
    rw [List.cons_append, fatesFrom, ih, fatesFrom, List.cons_append, length_spaceLines_cons,
      Nat.add_assoc]

/-- A line that is replaced by another with as many words changes no fate but its own. -/
theorem fatesFrom_set (table : LabelTable) (address : Nat) {lines : List Text} {number : Nat}
    {text : Text} (found : lines[number]? = some text) {other : Text}
    (same : wordCount other = wordCount text) :
    fatesFrom table address (lines.set number other) =
      (fatesFrom table address lines).set number
        (lineFate table (address + (spaceLines (lines.take number)).length) other) := by
  induction lines generalizing address number with
  | nil => rfl
  | cons first rest ih =>
    cases number with
    | zero =>
      obtain rfl : first = text := Option.some.inj found
      rw [List.set_cons_zero, fatesFrom, fatesFrom, List.set_cons_zero, same]
      rfl
    | succ number =>
      rw [List.set_cons_succ, fatesFrom, fatesFrom, List.set_cons_succ, ih _ found,
        List.take_succ_cons, length_spaceLines_cons, Nat.add_assoc]

/-! ## The pass -/

theorem resolution_step (table : LabelTable) (s : Resolution) (text : Text) :
    Resolution.step table s text =
      (wrong? (lineFate table s.address text), {
        address := s.address + wordCount text
        output := (lineFate table s.address text).toOption.toList ++ s.output }) := by
  cases parsed : Line.parse text with
  | error reason =>
    rw [Resolution.step, lineFate, parsed, wordCount_of_error parsed]
    rfl
  | ok line =>
    rw [Resolution.step, lineFate_of_parse parsed, parsed, wordCount_of_parse parsed]
    dsimp only
    cases line.resolve table s.address text <;> rfl

theorem resolution_errorsFrom (table : LabelTable) (number : Nat) (s : Resolution)
    (lines : List Text) :
    (Resolution.step table).errorsFrom number s lines =
      faultsFrom number (fatesFrom table s.address lines) := by
  induction lines generalizing number s with
  | nil => rfl
  | cons text rest ih => rw [PassStep.errorsFrom, ih, resolution_step, fatesFrom, faultsFrom_cons]

theorem resolution_output (table : LabelTable) (s : Resolution) (lines : List Text) :
    ((Resolution.step table).final s lines).output =
      (written (fatesFrom table s.address lines)).reverse ++ s.output := by
  induction lines generalizing s with
  | nil => rfl
  | cons text rest ih =>
    rw [PassStep.final_cons, ih, resolution_step, fatesFrom, written_cons, List.reverse_append,
      List.append_assoc]
    cases lineFate table s.address text <;> rfl

theorem resolveLabels_eq_fates (lines : List Text) (table : LabelTable) (limit : Nat) :
    resolveLabels lines table { limit } =
      (if limit < (faults (fates table lines)).length then .error ⟨limit + 1, limit⟩
        else .ok (written (fates table lines)),
        ⟨limit, (faults (fates table lines)).take (limit + 1)⟩) := by
  rw [resolveLabels_eq_final, resolution_errorsFrom, resolution_output, List.append_nil,
    List.reverse_reverse]
  rfl

/-! ## The whole statement -/

/-- Resolving labels by any table comes to a line of output for every line without an error, as
    long as the limit allows for the errors. What becomes of a line depends on the table and on the
    number of the words before it, so that a line can be replaced by any other with as many words,
    without errors or with some, and nothing changes for the others. -/
theorem resolveLabels_by_fates (lines : List Text) (table : LabelTable) :
    (fates table lines).length = lines.length ∧
      (∀ number text, lines[number]? = some text →
        ∃ fate, (fates table lines)[number]? = some fate ∧
          Fate table.get? (spaceLines (lines.take number)).length text fate ∧
          ∀ cause, fate = .error cause ↔
            Fate table.get? (spaceLines (lines.take number)).length text (.error cause)) ∧
      (∀ number text other, lines[number]? = some text → wordCount other = wordCount text →
        fates table (lines.set number other) =
          (fates table lines).set number
            (lineFate table (spaceLines (lines.take number)).length other)) ∧
      ∀ limit,
        ((faults (fates table lines)).length ≤ limit →
          resolveLabels lines table { limit } =
            (.ok (written (fates table lines)), ⟨limit, faults (fates table lines)⟩)) ∧
        (limit < (faults (fates table lines)).length →
          resolveLabels lines table { limit } =
            (.error ⟨limit + 1, limit⟩,
              ⟨limit, (faults (fates table lines)).take (limit + 1)⟩)) := by
  refine ⟨length_fatesFrom table 0 lines, ?_, ?_, ?_⟩
  · intro number text found
    refine ⟨lineFate table (spaceLines (lines.take number)).length text, ?_,
      fate_lineFate table _ text, fun _ => lineFate_eq_error_iff⟩
    rw [fates, getElem?_fatesFrom, found, Nat.zero_add, Option.map_some]
  · intro number text other found same
    rw [fates, fatesFrom_set table 0 found same, Nat.zero_add]
    rfl
  · intro limit
    rw [resolveLabels_eq_fates]
    constructor
    · intro fits
      rw [if_neg (Nat.not_lt.mpr fits), List.take_of_length_le (Nat.le_succ_of_le fits)]
    · intro exceeded
      rw [if_pos exceeded]

/-- A table that no source has: it has a label far away from all words. -/
def strangeTable : LabelTable where
  entries := [("near".toList, 0), ("far".toList, 4294967295)]
  once := by decide

/-- A line for each fate, but for that of a line that is copied. -/
def variedLines : List Text :=
  ["JUMP far".toList, "x: LOAD r1,near".toList, "ADD r1".toList, "JUMP nowhere".toList]

theorem resolveLabels_by_fates_variedLines :
    resolveLabels variedLines strangeTable { limit := 3 } =
        (.ok ["x: LOAD r1,r0,r15[-1]".toList],
          ⟨3, [⟨0, .outOfReach "far".toList 4294967295⟩, ⟨2, .badLine .noMatch⟩,
            ⟨3, .undefinedSymbol "nowhere".toList⟩]⟩) ∧
      (resolveLabels variedLines strangeTable { limit := 2 }).1 = .error ⟨3, 2⟩ ∧
      Fate strangeTable.get? 1 "x: LOAD r1,near".toList (.ok "x: LOAD r1,r0,r15[-1]".toList) ∧
      fates strangeTable (variedLines.set 2 " # blank".toList) =
        (fates strangeTable variedLines).set 2 (.ok " # blank".toList) := by
  have found : fates strangeTable variedLines =
      [.error (.outOfReach "far".toList 4294967295), .ok "x: LOAD r1,r0,r15[-1]".toList,
        .error (.badLine .noMatch), .error (.undefinedSymbol "nowhere".toList)] := by decide
  obtain ⟨-, each, others, limited⟩ := resolveLabels_by_fates variedLines strangeTable
  obtain ⟨fate, second, becomes, -⟩ := each 1 _ rfl
  have replaced := others 2 _ " # blank".toList rfl (by decide)
  have enough := (limited 3).1 (by rw [found]; decide)
  have exceeded := (limited 2).2 (by rw [found]; decide)
  rw [found] at second enough
  obtain rfl : .ok "x: LOAD r1,r0,r15[-1]".toList = fate := Option.some.inj second
  exact ⟨enough, by rw [exceeded], becomes, replaced⟩

end DuckMachine.Source
