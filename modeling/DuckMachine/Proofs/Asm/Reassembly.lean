import DuckMachine.Proofs.Asm.ObjectFile

/-
  Object code assembles to itself.

  Lines that load refer to no labels, so nothing can be wrong with them as a source except a label
  that is defined twice, and the second pass only takes the blanks at their ends
  (`clean_of_load`, `objectLines_of_load`). What the second pass writes has the labels of the source
  and no blanks at the ends of its lines (`Rewritten`), so that assembling it again changes nothing.
-/

namespace DuckMachine

open Source Text

namespace Source

/-! ## Labels that are defined once -/

/-- The label of a line, if the line can be read and has one. -/
def label? (text : Text) : Option Text := (Line.parse text).toOption.bind Line.label

/-- The labels of the lines that can be read, in order. -/
def labels (lines : List Text) : List Text := lines.filterMap label?

theorem label?_of_parse {text : Text} {line : Line} (h : Line.parse text = .ok line) :
    label? text = line.label := by
  rw [label?, h]
  rfl

theorem labels_concat (lines : List Text) (text : Text) :
    labels (lines ++ [text]) = labels lines ++ (label? text).toList := by
  rw [labels, List.filterMap_append]
  cases found : label? text with
  | none => simp [found, labels]
  | some label => simp [found, labels]

theorem defines_iff {symbol text : Text} :
    defines symbol text = true ↔ label? text = some symbol := by
  rw [defines, label?]
  cases (Line.parse text).toOption with
  | none => simp
  | some line => simp

/-- A label has no address if and only if no line defines it. -/
theorem labelAddress?_eq_none_iff {lines : List Text} {symbol : Text} :
    labelAddress? lines symbol = none ↔ symbol ∉ labels lines := by
  simp only [labelAddress?, Option.map_eq_none_iff, List.findIdx?_eq_none_iff, labels,
    List.mem_filterMap, ← defines_iff, not_exists, not_and, Bool.not_eq_true]

theorem labelCause?_eq_none_iff {before : List Text} {text : Text} :
    labelCause? before text = none ↔
      (∃ line, Line.parse text = .ok line) ∧ ∀ label ∈ label? text, label ∉ labels before := by
  rw [labelCause?]
  cases parsed : Line.parse text with
  | error reason => simp
  | ok line =>
    simp only [label?_of_parse parsed, Option.bind_eq_none_iff, Option.map_eq_none_iff,
      labelAddress?_eq_none_iff, Option.mem_def, Except.ok.injEq, exists_eq', true_and]

theorem nodup_append_toList_iff {names : List Text} {name : Option Text} :
    (names ++ name.toList).Nodup ↔ names.Nodup ∧ ∀ new ∈ name, new ∉ names := by
  cases name with
  | none => simp
  | some new => simp [List.nodup_append, List.forall_mem_ne']

/-- The first pass finds nothing wrong if and only if all lines can be read and no label is defined
    twice. -/
theorem labelErrors_eq_nil_iff {lines : List Text} :
    labelErrors lines = [] ↔
      (∀ text ∈ lines, ∃ line, Line.parse text = .ok line) ∧ (labels lines).Nodup := by
  induction lines using List.reverseRecOn with
  | nil => simp [labelErrors, errorsBy, labels]
  | append_singleton lines text ih =>
    rw [labelErrors, errorsBy_concat, List.append_eq_nil_iff, Option.toList_eq_nil_iff,
      Option.map_eq_none_iff, ← labelErrors, ih, labels_concat, List.forall_mem_append,
      List.forall_mem_singleton, labelCause?_eq_none_iff, nodup_append_toList_iff,
      and_and_and_comm]

end Source

/-! ## What the second pass writes -/

/-- A line that loads does not refer to a label. -/
theorem not_isReference_of_lineWords {text : Text} {line : Line} {words : List Word}
    (parsed : Line.parse text = .ok line) (loaded : Object.lineWords text = .ok words) :
    ¬line.statement.IsReference := by
  rw [Object.lineWords, parsed] at loaded
  cases known : line.statement with
  | symbolic op cond target symbol =>
    simp only [known] at loaded
    cases loaded
  | _ => exact id

namespace Rewritten

variable {table : LabelTable} {text resolved : Text}

/-- What is written for a line has the label of the line. -/
theorem label?_eq (h : Rewritten table text resolved) : label? resolved = label? text := by
  obtain ⟨line, address, parsed, written⟩ := h
  rcases Line.resolve_cases parsed written with ⟨i, -, fits, -, rfl⟩ | ⟨-, rfl⟩
  · have names : ∀ name ∈ line.label, IsName name := fun _ => Line.isName_of_parse parsed
    rw [label?_of_parse (Line.parse_renderLabelled names fits), label?_of_parse parsed]
  · rw [label?_of_parse (Line.parse_trimEnd parsed), label?_of_parse parsed]

/-- What is written for a line does not end with a blank. -/
theorem endsSolid (h : Rewritten table text resolved) : EndsSolid resolved := by
  obtain ⟨line, address, parsed, written⟩ := h
  rcases Line.resolve_cases parsed written with ⟨i, -, -, -, rfl⟩ | ⟨-, rfl⟩
  · exact endsSolid_renderLabelled line.label i
  · exact endsSolid_trimEnd text

/-- A line that loads is copied. -/
theorem eq_trimEnd (h : Rewritten table text resolved) {words : List Word}
    (loaded : Object.lineWords text = .ok words) : resolved = text.trimEnd := by
  obtain ⟨line, address, parsed, written⟩ := h
  rcases Line.resolve_cases parsed written with ⟨-, -, -, reference, -⟩ | ⟨-, copied⟩
  · exact absurd reference (not_isReference_of_lineWords parsed loaded)
  · exact copied

end Rewritten

/-- Object lines have the labels of the source. -/
theorem labels_of_rewritten {table : LabelTable} {lines object : List Text}
    (h : List.Forall₂ (Rewritten table) lines object) : labels object = labels lines := by
  induction h with
  | nil => rfl
  | cons first rest ih =>
    simp only [labels, List.filterMap_cons, first.label?_eq]
    rw [← labels, ← labels, ih]

/-! ## Lines that load -/

namespace Object

theorem parse_of_lineWords {text : Text} {part : List Word} (h : lineWords text = .ok part) :
    ∃ line, Line.parse text = .ok line := by
  rw [lineWords] at h
  cases parsed : Line.parse text with
  | error reason =>
    simp only [parsed] at h
    cases h
  | ok line => exact ⟨line, rfl⟩

theorem lineWords_trimEnd {text : Text} {part : List Word} (h : lineWords text = .ok part) :
    lineWords text.trimEnd = .ok part := by
  obtain ⟨line, parsed⟩ := parse_of_lineWords h
  rw [lineWords, parsed] at h
  rw [lineWords, Line.parse_trimEnd parsed]
  exact h

/-- Lines load to the same words without the blanks at their ends. -/
theorem loadFrom_map_trimEnd {number : Nat} {lines : List Text} {words : List Word}
    (h : loadFrom number lines = .ok words) :
    loadFrom number (lines.map Text.trimEnd) = .ok words := by
  induction lines generalizing number words with
  | nil => exact h
  | cons line rest ih =>
    obtain ⟨part, first⟩ := lineWords_of_loadFrom h line List.mem_cons_self
    simp only [loadFrom, first] at h
    obtain ⟨others, loaded, rfl⟩ := map_eq_ok_iff.mp h
    simp only [List.map_cons, loadFrom, lineWords_trimEnd first, ih loaded]
    rfl

end Object

/-- A line that does not refer to a label cannot refer to a wrong one. -/
theorem referenceCause?_of_lineWords {labels : Text → Option Nat} {before : List Text} {text : Text}
    {part : List Word} (loaded : Object.lineWords text = .ok part) :
    referenceCause? labels before text = none := by
  obtain ⟨⟨label, statement⟩, parsed⟩ := Object.parse_of_lineWords loaded
  have plain := not_isReference_of_lineWords parsed loaded
  rw [referenceCause?, parsed]
  cases statement with
  | symbolic op cond target symbol => exact absurd trivial plain
  | _ => rfl

theorem referenceErrors_of_loadFrom {number : Nat} {lines : List Text} {words : List Word}
    (h : Object.loadFrom number lines = .ok words) : referenceErrors lines = [] := by
  rw [List.eq_nil_iff_forall_not_mem]
  intro e found
  obtain ⟨text, here, wrong⟩ := mem_errorsBy_iff.mp found
  obtain ⟨part, loaded⟩ := Object.lineWords_of_loadFrom h text (List.mem_of_getElem? here)
  rw [referenceCause?_of_lineWords loaded] at wrong
  cases wrong

/-- Nothing is wrong with a source whose lines load and define no label twice. -/
theorem clean_of_load {lines : List Text} {words : List Word}
    (loaded : Object.load lines = .ok words) (once : (labels lines).Nodup) : Clean lines := by
  have readable : ∀ text ∈ lines, ∃ line, Line.parse text = .ok line := by
    intro text found
    obtain ⟨part, line⟩ := Object.lineWords_of_loadFrom loaded text found
    exact Object.parse_of_lineWords line
  rw [clean_iff, errors, if_pos (labelErrors_eq_nil_iff.mpr ⟨readable, once⟩),
    referenceErrors_of_loadFrom loaded]

/-- The second pass copies lines that load. -/
theorem objectLines_of_load {lines : List Text} {words : List Word}
    (loaded : Object.load lines = .ok words) (clean : Clean lines) :
    objectLines lines = lines.map Text.trimEnd := by
  have each := (List.forall₂_and_left _ _).mpr
    ⟨Object.lineWords_of_loadFrom loaded, rewritten_of_resolution clean.2⟩
  have copied : List.Forall₂ (· = ·) (lines.map Text.trimEnd) (objectLines lines) :=
    List.forall₂_map_left_iff.mpr <| each.imp fun text resolved ⟨⟨part, line⟩, written⟩ =>
      (written.eq_trimEnd line).symm
  rw [List.forall₂_eq_eq_eq] at copied
  exact copied.symm

/-- A source whose lines load and define no label twice is assembled into its lines, and these load
    to the same words. -/
theorem assemble_of_load {source : Text} {words : List Word}
    (loaded : Object.load source.lines = .ok words) (once : (labels source.lines).Nodup)
    (limit : Nat) :
    assemble source { limit } = (.ok (some (source.lines.map Text.trimEnd)), { limit }) ∧
      Object.load (source.lines.map Text.trimEnd) = .ok words := by
  have clean := clean_of_load loaded once
  rw [assemble_of_clean clean limit, objectLines_of_load loaded clean]
  exact ⟨rfl, Object.loadFrom_map_trimEnd loaded⟩

/-! ## Lines that were assembled -/

/-- Assembled lines define no label twice. -/
theorem nodup_labels_of_assemble {source : Text} {limit : Nat} {object : List Text}
    (h : (assemble source { limit }).1 = .ok (some object)) : (labels object).Nodup := by
  obtain ⟨⟨first, second⟩, rfl⟩ := clean_of_assemble h
  rw [labelling_errors, labelErrors_eq_nil_iff] at first
  rw [objectLines, labels_of_rewritten (rewritten_of_resolution second)]
  exact first.2

/-- Assembled lines have no blanks at their ends. -/
theorem map_trimEnd_of_assemble {source : Text} {limit : Nat} {object : List Text}
    (h : (assemble source { limit }).1 = .ok (some object)) : object.map Text.trimEnd = object := by
  obtain ⟨⟨-, second⟩, rfl⟩ := clean_of_assemble h
  have trimmed : ∀ line ∈ objectLines source.lines, line.trimEnd = line :=
    forall_of_rewritten (rewritten_of_resolution second) fun _ _ _ written =>
      trimEnd_of_endsSolid written.endsSolid
  rw [List.map_congr_left trimmed, List.map_id']

/-- Object code assembles to itself. A source whose lines load and in which no label is defined
    twice assembles under every limit, without an error, into its lines without the blanks at their
    ends, which load to the same words. What an assembly puts out is such a source, so that
    assembling it again, under any limit, puts it out unchanged. -/
theorem assemble_object :
    (∀ source words, Object.load source.lines = .ok words → (labels source.lines).Nodup →
      ∀ limit,
        assemble source { limit } = (.ok (some (source.lines.map Text.trimEnd)), { limit }) ∧
        Object.load (source.lines.map Text.trimEnd) = .ok words) ∧
    ∀ source limit object, (assemble source { limit }).1 = .ok (some object) → object ≠ [] →
      ∀ again, assemble (Object.fileText object) { limit := again } =
        (.ok (some object), { limit := again }) := by
  refine ⟨fun source words => assemble_of_load, ?_⟩
  intro source limit object assembled nonempty again
  obtain ⟨-, words, loaded, -⟩ := denoted_of_assemble assembled
  have same : (Object.fileText object).lines = object :=
    Object.lines_fileText nonempty (isLine_of_assemble assembled)
  have once := nodup_labels_of_assemble assembled
  rw [← same] at loaded once
  have reassembled := (assemble_of_load loaded once again).1
  rw [same, map_trimEnd_of_assemble assembled] at reassembled
  exact reassembled

/-- An object file with blanks at the ends of its lines. -/
def looseObject : Text := "n: DATA 7 \n\t # n\nADD r15,r0,r15[-1]\t".toList

theorem assemble_object_looseObject :
    Object.load looseObject.lines = .ok [7, 0x1ff87fff] ∧ (labels looseObject.lines).Nodup ∧
    assemble looseObject { limit := 0 } =
      (.ok (some ["n: DATA 7".toList, "\t # n".toList, "ADD r15,r0,r15[-1]".toList]),
        { limit := 0 }) ∧
    (assemble jumpBack { limit := 0 }).1 =
      .ok (some ["n: DATA 7".toList, "ADD r15,r0,r15[-1]".toList]) ∧
    assemble "n: DATA 7\nADD r15,r0,r15[-1]\n".toList { limit := 3 } =
      (.ok (some ["n: DATA 7".toList, "ADD r15,r0,r15[-1]".toList]), { limit := 3 }) := by
  have loaded : Object.load looseObject.lines = .ok [7, 0x1ff87fff] := by decide
  have once : (labels looseObject.lines).Nodup := by decide
  have assembled : (assemble jumpBack { limit := 0 }).1 =
      .ok (some ["n: DATA 7".toList, "ADD r15,r0,r15[-1]".toList]) := by decide
  obtain ⟨sources, objects⟩ := assemble_object
  have first := (sources _ _ loaded once 0).1
  have second := objects _ _ _ assembled (List.cons_ne_nil _ _) 3
  exact ⟨loaded, once, first, assembled, second⟩

end DuckMachine
