import DuckMachine.Proofs.Asm.Reassembly

/-
  The table of labels.

  One more line adds at most one entry at the end of the table: its label, if no line before it has
  defined the same one, at the address of the next word (`entries_concat`). From this it follows
  by induction on the lines which labels are in the table, in which order and at which addresses
  (`Tabulates`). Lines that cannot be read and labels that are defined again leave the table as it
  is and are listed as errors (`LabelFault`).
-/

namespace DuckMachine

namespace LabelTable

/-- The entry of a label is what is found for it. -/
theorem get?_eq_some_iff {table : LabelTable} {label : Text} {address : Nat} :
    table.get? label = some address ↔ (label, address) ∈ table.entries := by
  rw [get?, List.lookup_eq_some_iff]
  constructor
  · rintro ⟨before, after, split, -⟩
    rw [split]
    exact List.mem_append_right _ List.mem_cons_self
  · intro member
    obtain ⟨before, after, split⟩ := List.append_of_mem member
    refine ⟨before, after, split, ?_⟩
    have once := table.once
    rw [split, List.map_append, List.nodup_append] at once
    intro entry earlier
    have differ := once.2.2 _ (List.mem_map_of_mem earlier) label List.mem_cons_self
    exact bne_iff_ne.mpr differ.symm

end LabelTable

namespace Source

/-! ## Labels -/

theorem label?_of_error {text : Text} {reason : LineError} (h : Line.parse text = .error reason) :
    label? text = none := by
  rw [label?, h]
  rfl

/-- The label of a line that no line before it defines. -/
def newLabel? (before : List Text) (text : Text) : Option Text :=
  (label? text).filter fun label => (labelAddress? before label).isNone

theorem eraseDups_labels_concat (lines : List Text) (text : Text) :
    (labels (lines ++ [text])).eraseDups =
      (labels lines).eraseDups ++ (newLabel? lines text).toList := by
  rw [labels_concat, List.eraseDups_append, newLabel?]
  cases label? text with
  | none => rfl
  | some label =>
    have absent : (labelAddress? lines label).isNone = true ↔ label ∉ labels lines := by
      rw [Option.isNone_iff_eq_none, labelAddress?_eq_none_iff]
    by_cases known : label ∈ labels lines
    · simp [absent, known, List.removeAll, Option.filter]
    · simp [absent, known, List.removeAll, Option.filter, List.eraseDups_cons]

theorem not_mem_of_mem_newLabel? {lines : List Text} {text label : Text}
    (h : label ∈ newLabel? lines text) : label ∉ labels lines :=
  labelAddress?_eq_none_iff.mp (Option.isNone_iff_eq_none.mp (Option.mem_filter_iff.mp h).2)

/-- More lines do not change the address of a label. -/
theorem labelAddress?_append {lines : List Text} {symbol : Text} (known : symbol ∈ labels lines)
    (rest : List Text) : labelAddress? (lines ++ rest) symbol = labelAddress? lines symbol := by
  induction rest using List.reverseRecOn with
  | nil => rw [List.append_nil]
  | append_singleton rest text ih =>
    rw [← List.append_assoc, labelAddress?_concat, ih]
    cases found : labelAddress? lines symbol with
    | none => exact absurd known (labelAddress?_eq_none_iff.mp found)
    | some address => rfl

/-! ## Entries -/

/-- A label that is not in the table gets the current address. -/
theorem entries_addLabel (s : Labelling) (label : Option Text) :
    (s.addLabel label).2.entries =
      s.table.entries ++
        (label.filter fun name => (s.table.get? name).isNone).toList.map fun name =>
          (name, s.address) := by
  cases label with
  | none => exact (List.append_nil _).symm
  | some name =>
    rw [Labelling.addLabel]
    cases known : s.table.get? name with
    | none => simp [LabelTable.define_of_new known, LabelTable.extend, known, Option.filter]
    | some first => simp [LabelTable.define_of_get? known, known, Option.filter]

/-- One more line adds its label to the table, if it is new, at the address of the next word. -/
theorem entries_concat (lines : List Text) (text : Text) :
    (labelTable (lines ++ [text])).entries =
      (labelTable lines).entries ++
        (newLabel? lines text).toList.map fun label => (label, (spaceLines lines).length) := by
  have stepped : labelTable (lines ++ [text]) =
      (Labelling.step (Labelling.step.final {} lines) text).2.table := by
    rw [labelTable, PassStep.final_append, PassStep.final_cons, PassStep.final_nil]
  rw [stepped, newLabel?]
  cases parsed : Line.parse text with
  | error reason =>
    rw [labelling_step_error _ parsed, label?_of_error parsed]
    exact (List.append_nil _).symm
  | ok line =>
    rw [labelling_step_ok _ parsed, label?_of_parse parsed]
    dsimp only
    rw [entries_addLabel, labelling_address]
    simp only [labelling_table]
    rfl

theorem map_fst_entries (lines : List Text) :
    (labelTable lines).entries.map Prod.fst = (labels lines).eraseDups := by
  induction lines using List.reverseRecOn with
  | nil => rfl
  | append_singleton lines text ih =>
    rw [entries_concat, List.map_append, ih, eraseDups_labels_concat, List.map_map]
    exact congrArg _ (List.map_id _)

/-- Whether this line, which means `line`, is the first that defines a label. -/
structure Introduces (lines : List Text) (label : Text) (number : Nat) (line : Line) : Prop where
  read : ∃ text, lines[number]? = some text ∧ Line.parse text = .ok line
  labelled : line.label = some label
  unseen : label ∉ labels (lines.take number)

theorem Introduces.lt {lines : List Text} {label : Text} {number : Nat} {line : Line}
    (h : Introduces lines label number line) : number < lines.length := by
  obtain ⟨text, found, -⟩ := h.read
  exact (List.getElem?_eq_some_iff.mp found).1

theorem Introduces.concat {lines : List Text} {label : Text} {number : Nat} {line : Line}
    (h : Introduces lines label number line) (text : Text) :
    Introduces (lines ++ [text]) label number line := by
  have inside := h.lt
  obtain ⟨⟨read, found, parsed⟩, labelled, unseen⟩ := h
  refine ⟨⟨read, ?_, parsed⟩, labelled, ?_⟩
  · rw [List.getElem?_append_left inside, found]
  · rwa [List.take_append_of_le_length (Nat.le_of_lt inside)]

theorem introduces_concat {lines : List Text} {text label : Text}
    (new : label ∈ newLabel? lines text) :
    ∃ line, Introduces (lines ++ [text]) label lines.length line := by
  have labelled : label? text = some label := (Option.mem_filter_iff.mp new).1
  cases parsed : Line.parse text with
  | error reason =>
    rw [label?_of_error parsed] at labelled
    cases labelled
  | ok line =>
    rw [label?_of_parse parsed] at labelled
    refine ⟨line, ⟨text, List.getElem?_concat_length, parsed⟩, labelled, ?_⟩
    rw [List.take_left]
    exact not_mem_of_mem_newLabel? new

/-- An entry has the number of words before the first definition of its label. -/
theorem introduces_of_mem_entries {lines : List Text} {label : Text} {address : Nat}
    (h : (label, address) ∈ (labelTable lines).entries) :
    ∃ number line, Introduces lines label number line ∧
      address = (spaceLines (lines.take number)).length := by
  induction lines using List.reverseRecOn with
  | nil => cases h
  | append_singleton lines text ih =>
    rw [entries_concat, List.mem_append] at h
    rcases h with old | new
    · obtain ⟨number, line, introduces, rfl⟩ := ih old
      refine ⟨number, line, introduces.concat text, ?_⟩
      rw [List.take_append_of_le_length (Nat.le_of_lt introduces.lt)]
    · obtain ⟨name, named, same⟩ := List.mem_map.mp new
      obtain ⟨rfl, rfl⟩ := Prod.mk.inj same
      obtain ⟨line, introduces⟩ := introduces_concat (Option.mem_toList.mp named)
      refine ⟨lines.length, line, introduces, ?_⟩
      rw [List.take_left]

/-- The addresses in the table do not decrease, as no label lies after the next word. -/
theorem pairwise_entries (lines : List Text) :
    (labelTable lines).entries.Pairwise fun a b => a.2 ≤ b.2 := by
  induction lines using List.reverseRecOn with
  | nil => exact List.Pairwise.nil
  | append_singleton lines text ih =>
    rw [entries_concat, List.pairwise_append]
    refine ⟨ih, ?_, ?_⟩
    · cases newLabel? lines text with
      | none => exact List.Pairwise.nil
      | some label => exact List.pairwise_singleton _ _
    · rintro ⟨label, address⟩ earlier last new
      obtain ⟨name, -, rfl⟩ := List.mem_map.mp new
      obtain ⟨number, line, -, rfl⟩ := introduces_of_mem_entries earlier
      exact ((List.take_sublist number lines).filterMap _).length_le

/-- The word of a line has the number of the words before it for address. A line without a word
    has that of the next word after it. -/
theorem getElem?_spaceLines {lines : List Text} {number : Nat} {text : Text} {line : Line}
    (found : lines[number]? = some text) (parsed : Line.parse text = .ok line) :
    (spaceLines lines)[(spaceLines (lines.take number)).length]? =
      if line.takesSpace then some line else (spaceLines (lines.drop (number + 1))).head? := by
  obtain ⟨inside, rfl⟩ := List.getElem?_eq_some_iff.mp found
  have split : spaceLines lines =
      spaceLines (lines.take number) ++ (if line.takesSpace then [line] else []) ++
        spaceLines (lines.drop (number + 1)) := by
    rw [← spaceLines_concat _ parsed, ← List.take_succ_eq_append_getElem inside,
      ← spaceLines_append, List.take_append_drop]
  rw [split, List.append_assoc, List.getElem?_append_right (Nat.le_refl _), Nat.sub_self]
  by_cases space : line.takesSpace = true
  · rw [if_pos space, if_pos space]
    rfl
  · rw [if_neg space, if_neg space, List.nil_append]
    exact List.head?_eq_getElem?.symm

/-! ## The table -/

/-- Whether a table is that of the labels in these lines. -/
structure Tabulates (lines : List Text) (table : LabelTable) : Prop where
  /-- It has the labels of the lines that can be read, in the order in which they come first. -/
  labels : table.entries.map Prod.fst = (labels lines).eraseDups
  once : (table.entries.map Prod.fst).Nodup
  get : ∀ label address, table.get? label = some address ↔ (label, address) ∈ table.entries
  /-- A label has the number of the words before its first definition for address. The word there
      is that of the line with the label, if it takes space, or the next one after it. -/
  address : ∀ label address, (label, address) ∈ table.entries →
    ∃ number line, Introduces lines label number line ∧
      address = (spaceLines (lines.take number)).length ∧
      (spaceLines lines)[address]? =
        if line.takesSpace then some line else (spaceLines (lines.drop (number + 1))).head?
  ascending : table.entries.Pairwise fun a b => a.2 ≤ b.2

theorem tabulates_labelTable (lines : List Text) : Tabulates lines (labelTable lines) := by
  refine ⟨map_fst_entries lines, (labelTable lines).once, fun _ _ => LabelTable.get?_eq_some_iff,
    ?_, pairwise_entries lines⟩
  intro label address member
  obtain ⟨number, line, introduces, rfl⟩ := introduces_of_mem_entries member
  obtain ⟨text, found, parsed⟩ := introduces.read
  exact ⟨number, line, introduces, rfl, getElem?_spaceLines found parsed⟩

/-! ## The errors -/

/-- What is wrong with lines before their labels are known: one cannot be read, or it defines a
    label that a line before it defines, which has the address of that one. -/
inductive LabelFault (lines : List Text) (table : LabelTable) : AsmError → Prop where
  | unread {number : Nat} {text : Text} {reason : LineError} (found : lines[number]? = some text)
      (unread : Line.parse text = .error reason) :
      LabelFault lines table ⟨number, .badLine reason⟩
  | redefined {number address : Nat} {text label : Text} {line : Line}
      (found : lines[number]? = some text) (parsed : Line.parse text = .ok line)
      (labelled : line.label = some label) (known : label ∈ labels (lines.take number))
      (first : table.get? label = some address) :
      LabelFault lines table ⟨number, .duplicateLabel label address⟩

/-- A label that has been defined before a line keeps the address that it has there. -/
theorem labelAddress?_take {lines : List Text} {label : Text} {number : Nat}
    (known : label ∈ labels (lines.take number)) :
    labelAddress? (lines.take number) label = (labelTable lines).get? label := by
  rw [labelTable, labelling_table, ← labelAddress?_append known (lines.drop number),
    List.take_append_drop]

theorem mem_labelErrors_iff {lines : List Text} {e : AsmError} :
    e ∈ labelErrors lines ↔ LabelFault lines (labelTable lines) e := by
  rw [labelErrors, mem_errorsBy_iff]
  constructor
  · rintro ⟨text, found, wrong⟩
    obtain ⟨number, cause⟩ := e
    rw [labelCause?] at wrong
    cases parsed : Line.parse text with
    | error reason =>
      rw [parsed] at wrong
      obtain rfl := Option.some.inj wrong
      exact .unread found parsed
    | ok line =>
      rw [parsed] at wrong
      obtain ⟨label, labelled, again⟩ := Option.bind_eq_some_iff.mp wrong
      obtain ⟨address, first, rfl⟩ := Option.map_eq_some_iff.mp again
      have known : label ∈ labels (lines.take number) := by
        by_contra unseen
        rw [labelAddress?_eq_none_iff.mpr unseen] at first
        cases first
      rw [labelAddress?_take known] at first
      exact .redefined found parsed labelled known first
  · intro fault
    cases fault with
    | @unread number text reason found unread =>
      refine ⟨text, found, ?_⟩
      rw [labelCause?, unread]
    | @redefined number address text label line found parsed labelled known first =>
      refine ⟨text, found, ?_⟩
      rw [labelCause?, parsed]
      dsimp only
      rw [labelled, Option.bind_some, labelAddress?_take known, first]
      rfl

/-! ## The whole statement -/

/-- Collecting labels under a limit comes to the table of the labels if the limit allows for all
    errors. These are in the order of the lines, whatever was listed before them: one for each line
    that cannot be read, and one for each line that defines a label again, with the address that the
    label has. -/
theorem collectLabels_tabulates (lines : List Text) :
    (labelErrors lines).Pairwise (fun a b => a.line < b.line) ∧
      (∀ limit, (∃ table d, collectLabels lines { limit } = (.ok table, d)) ↔
        (labelErrors lines).length ≤ limit) ∧
      ∀ d table d', collectLabels lines d = (.ok table, d') →
        Tabulates lines table ∧ d' = { d with errors := d.errors ++ labelErrors lines } ∧
          ∀ e, e ∈ labelErrors lines ↔ LabelFault lines table e := by
  refine ⟨pairwise_errorsBy _ lines, ?_, ?_⟩
  · intro limit
    rw [collectLabels_eq]
    by_cases exceeded : limit < (labelErrors lines).length
    · simp [exceeded]
    · simp [exceeded, Nat.le_of_not_lt exceeded]
  · intro d table d' passed
    rcases walked : Labelling.step.walk {} d lines with ⟨_ | last, listed⟩
    · rw [collectLabels, walked] at passed
      cases congrArg Prod.fst passed
    · rw [collectLabels, walked] at passed
      obtain ⟨rfl, rfl⟩ := PassStep.walkFrom_of_ok walked
      obtain ⟨reached, rfl⟩ := Prod.mk.inj passed
      obtain rfl : labelTable lines = table := Except.ok.inj reached
      exact ⟨tabulates_labelTable lines, by rw [labelling_errors], fun _ => mem_labelErrors_iff⟩

/-- A label on a line without a word, a line that cannot be read and a label that is defined
    again. -/
def mixedLabels : List Text :=
  ["a: DATA 1".toList, "b: # next".toList, "ADD r1".toList, "a: DATA 2".toList]

/-- The table of these labels. -/
def mixedTable : LabelTable where
  entries := [(['a'], 0), (['b'], 1)]
  once := by decide

theorem collectLabels_tabulates_mixedLabels :
    collectLabels mixedLabels { limit := 2 } =
        (.ok mixedTable, ⟨2, [⟨2, .badLine .noMatch⟩, ⟨3, .duplicateLabel ['a'] 0⟩]⟩) ∧
      Tabulates mixedLabels mixedTable ∧
      ∀ e, e ∈ labelErrors mixedLabels ↔ LabelFault mixedLabels mixedTable e := by
  have passed : collectLabels mixedLabels { limit := 2 } =
      (.ok mixedTable, ⟨2, [⟨2, .badLine .noMatch⟩, ⟨3, .duplicateLabel ['a'] 0⟩]⟩) := by decide
  obtain ⟨-, -, each⟩ := collectLabels_tabulates mixedLabels
  obtain ⟨tabulates, -, listed⟩ := each _ _ _ passed
  exact ⟨passed, tabulates, listed⟩

end Source

end DuckMachine
