import DuckMachine.Proofs.Asm.Errors
import DuckMachine.Proofs.Asm.Loading

/-
  Assembly is correct.

  A source in which nothing is wrong becomes object lines that load, one for each source line, and
  the words that they load to are those that the layout of the source asks for
  (`load_of_assemble`). The second pass is followed line by line: what it writes for a line is read
  back as the word that the line denotes at its address (`lineWords_of_resolve`).
-/

namespace DuckMachine

open Source

/-! ## One line -/

/-- Whether a statement refers to a label. -/
def Statement.IsReference : Statement → Prop
  | .symbolic .. => True
  | _ => False

/-- An operation on a label is written as the instruction that adds the distance of the label, which
    fits its word, and every other line is copied without the blanks at its end. -/
theorem Line.resolve_cases {table : LabelTable} {address : Nat} {text resolved : Text}
    {line : Line} (parsed : Line.parse text = .ok line)
    (h : line.resolve table address text = .ok resolved) :
    (∃ i, line.statement.instr? table.get? address = some i ∧ i.Encodable ∧
      line.statement.IsReference ∧ resolved = renderLabelled line.label i) ∨
    (¬line.statement.IsReference ∧ resolved = text.trimEnd) := by
  have fits := Line.fits_of_parse parsed
  obtain ⟨label, statement⟩ := line
  cases statement with
  | symbolic op cond target symbol =>
    left
    rw [Line.resolve] at h
    cases known : table.get? symbol with
    | none =>
      simp only [known] at h
      cases h
    | some destination =>
      simp only [known] at h
      cases checked : checkOffset ((destination : Int) - address) with
      | error reason =>
        simp only [checked] at h
        cases h
      | ok offset =>
        simp only [checked, Except.ok.injEq] at h
        obtain ⟨rfl, close⟩ := bounds_of_checkOffset checked
        refine ⟨_, ?_, Statement.encodable_of_fits fits close, trivial, ?_⟩
        · rw [Statement.instr?, known, Option.map_some]
        · rw [← h, SymbolicOp.resolve_eq]
  | _ => exact .inr ⟨id, (Except.ok.inj h).symm⟩

/-- What is written for a line is read back as the word that the line denotes. -/
theorem lineWords_of_resolve {table : LabelTable} {address : Nat} {text resolved : Text}
    {line : Line} (parsed : Line.parse text = .ok line)
    (h : line.resolve table address text = .ok resolved) :
    Object.lineWords resolved = .ok (line.statement.word? table.get? address).toList ∧
      (∀ i ∈ line.statement.instr? table.get? address, i.Encodable) ∧
      (line.takesSpace = true → (line.statement.word? table.get? address).isSome = true) := by
  have fits := Line.fits_of_parse parsed
  rcases Line.resolve_cases parsed h with ⟨i, denoted, encodable, -, rfl⟩ | ⟨plain, rfl⟩
  · have names : ∀ name ∈ line.label, IsName name := fun name => Line.isName_of_parse parsed
    rw [Object.lineWords, Line.parse_renderLabelled names encodable, denoted,
      Statement.word?_of_instr? denoted]
    refine ⟨rfl, ?_, fun _ => rfl⟩
    intro j same
    rw [← Option.some.inj same]
    exact encodable
  · rw [Object.lineWords, Line.parse_trimEnd parsed]
    obtain ⟨label, statement⟩ := line
    cases statement with
    | nothing => exact ⟨rfl, by simp [Statement.instr?], by simp [Line.takesSpace]⟩
    | data value => exact ⟨rfl, by simp [Statement.instr?], fun _ => rfl⟩
    | full instr =>
      refine ⟨rfl, ?_, fun _ => rfl⟩
      intro i denoted
      rw [← Option.some.inj denoted]
      exact fits
    | symbolic op cond target symbol => exact absurd trivial plain

/-! ## All lines -/

/-- The words are those that the lines denote, each at its address, and no instruction among them
    is cut. -/
def Denoted (labels : Text → Option Nat) (lines : List Text) (words : List Word) : Prop :=
  words.length = (spaceLines lines).length ∧
    ∀ (a : Nat) (line : Line), (spaceLines lines)[a]? = some line →
      (∃ w, words[a]? = some w ∧ line.statement.word? labels a = some w) ∧
        ∀ i ∈ line.statement.instr? labels a, i.Encodable

theorem denoted_nil (labels : Text → Option Nat) : Denoted labels [] [] := by
  refine ⟨rfl, ?_⟩
  intro a line impossible
  cases impossible

theorem denoted_concat {labels : Text → Option Nat} {lines : List Text} {words : List Word}
    {text : Text} {line : Line} (h : Denoted labels lines words)
    (parsed : Line.parse text = .ok line)
    (fits : ∀ i ∈ line.statement.instr? labels (spaceLines lines).length, i.Encodable)
    (space : line.takesSpace = true →
      (line.statement.word? labels (spaceLines lines).length).isSome = true) :
    Denoted labels (lines ++ [text])
      (words ++ (line.statement.word? labels (spaceLines lines).length).toList) := by
  obtain ⟨length, each⟩ := h
  rw [Denoted, spaceLines_concat lines parsed]
  by_cases takes : line.takesSpace = true
  · obtain ⟨w, denoted⟩ := Option.isSome_iff_exists.mp (space takes)
    rw [if_pos takes, denoted, Option.toList_some]
    refine ⟨by simp only [List.length_append, length, List.length_singleton], ?_⟩
    intro a found at_
    by_cases inside : a < (spaceLines lines).length
    · rw [List.getElem?_append_left inside] at at_
      rw [List.getElem?_append_left (length ▸ inside)]
      exact each a found at_
    · -- The new line has the last address.
      rw [List.getElem?_append_right (Nat.le_of_not_lt inside),
        List.getElem?_singleton] at at_
      split at at_
      · next last =>
        have here : a = (spaceLines lines).length := by omega
        rw [← Option.some.inj at_, here]
        refine ⟨⟨w, ?_, denoted⟩, fits⟩
        rw [← length, List.getElem?_concat_length]
      · cases at_
  · have nothing : line.statement = .nothing := by
      simpa [Line.takesSpace] using takes
    rw [if_neg takes, nothing, Statement.word?, Option.toList_none, List.append_nil,
      List.append_nil]
    exact ⟨length, each⟩

/-- A second pass without errors writes one line for each, and the lines load to the words that
    they denote. -/
theorem denoted_of_resolution (table : LabelTable) {number : Nat} {lines : List Text}
    (clean : (Resolution.step table).errorsFrom number {} lines = []) :
    ((Resolution.step table).final {} lines).output.length = lines.length ∧
      ∃ words, Object.load ((Resolution.step table).final {} lines).output.reverse = .ok words ∧
        Denoted table.get? lines words := by
  induction lines using List.reverseRecOn with
  | nil => exact ⟨rfl, [], rfl, denoted_nil _⟩
  | append_singleton lines text ih =>
    obtain ⟨before, here⟩ := PassStep.errorsFrom_concat_eq_nil_iff.mp clean
    obtain ⟨length, words, loaded, denoted⟩ := ih before
    have address := resolution_address table lines
    rw [PassStep.final_append, PassStep.final_cons, PassStep.final_nil]
    generalize (Resolution.step table).final {} lines = s at *
    rw [Resolution.step] at here ⊢
    cases parsed : Line.parse text with
    | error reason =>
      simp only [parsed] at here
      cases here
    | ok line =>
      simp only [parsed] at here ⊢
      cases resolved : line.resolve table s.address text with
      | error cause =>
        simp only [resolved] at here
        cases here
      | ok written =>
        obtain ⟨read, fits, space⟩ := lineWords_of_resolve parsed resolved
        rw [address] at read fits space
        refine ⟨by simp [length], _, ?_, denoted_concat denoted parsed fits space⟩
        rw [List.reverse_cons]
        exact Object.loadFrom_concat loaded read

/-! ## What the second pass writes -/

/-- Whether the second pass over a source with these labels can have written `resolved` for the line
    `text`. -/
def Rewritten (table : LabelTable) (text resolved : Text) : Prop :=
  ∃ line address, Line.parse text = .ok line ∧ line.resolve table address text = .ok resolved

/-- A second pass without errors writes a line for every line. -/
theorem rewritten_of_resolution {table : LabelTable} {number : Nat} {lines : List Text}
    (clean : (Resolution.step table).errorsFrom number {} lines = []) :
    List.Forall₂ (Rewritten table) lines
      ((Resolution.step table).final {} lines).output.reverse := by
  induction lines using List.reverseRecOn with
  | nil => exact .nil
  | append_singleton lines text ih =>
    obtain ⟨before, here⟩ := PassStep.errorsFrom_concat_eq_nil_iff.mp clean
    have written := ih before
    rw [PassStep.final_append, PassStep.final_cons, PassStep.final_nil]
    generalize (Resolution.step table).final {} lines = s at *
    rw [Resolution.step] at here ⊢
    cases parsed : Line.parse text with
    | error reason =>
      simp only [parsed] at here
      cases here
    | ok line =>
      simp only [parsed] at here ⊢
      cases resolved : line.resolve table s.address text with
      | error cause =>
        simp only [resolved] at here
        cases here
      | ok last =>
        rw [List.reverse_cons]
        exact List.rel_append written (.cons ⟨line, s.address, parsed, resolved⟩ .nil)

/-! ## The whole source -/

/-- A source without errors is assembled under every limit. -/
theorem assemble_of_clean {source : Text} (h : Clean source.lines) (limit : Nat) :
    assemble source { limit } = (.ok (some (objectLines source.lines)), { limit }) := by
  rw [assemble_eq, clean_iff.mp h, List.length_nil, if_neg (Nat.not_lt_zero limit), if_pos rfl,
    List.take_nil]

/-- Object lines come out of two passes without errors. -/
theorem clean_of_assemble {source : Text} {limit : Nat} {object : List Text}
    (h : (assemble source { limit }).1 = .ok (some object)) :
    Clean source.lines ∧ object = objectLines source.lines := by
  obtain ⟨-, -, assembled⟩ := assemble_result source limit
  rw [clean_iff]
  exact (assembled object).mp h

/-- The words of an assembled source are those that its lines denote. -/
theorem denoted_of_assemble {source : Text} {limit : Nat} {object : List Text}
    (h : (assemble source { limit }).1 = .ok (some object)) :
    object.length = source.lines.length ∧
      ∃ words, Object.load object = .ok words ∧
        Denoted (labelAddress? source.lines) source.lines words := by
  obtain ⟨clean, rfl⟩ := clean_of_assemble h
  have labels : (labelTable source.lines).get? = labelAddress? source.lines :=
    funext (labelling_table source.lines)
  rw [← labels, objectLines, List.length_reverse]
  exact denoted_of_resolution (labelTable source.lines) clean.2

/-- Assembled lines always load. There is one for each source line, and one word for each line
    that takes space: the word that this line denotes at its address, by the addresses at which
    the labels are first defined. No instruction among them is cut to fit its word. -/
theorem load_of_assemble {source : Text} {limit : Nat} {object : List Text}
    (h : (assemble source { limit }).1 = .ok (some object)) :
    ∃ words, Object.load object = .ok words ∧
      object.length = source.lines.length ∧
      words.length = (spaceLines source.lines).length ∧
      ∀ (a : Nat) (line : Line), (spaceLines source.lines)[a]? = some line →
        (∃ w, words[a]? = some w ∧
          line.statement.word? (labelAddress? source.lines) a = some w) ∧
        ∀ i ∈ line.statement.instr? (labelAddress? source.lines) a, i.Encodable := by
  obtain ⟨length, words, loaded, count, each⟩ := denoted_of_assemble h
  exact ⟨words, loaded, length, count, each⟩

/-- A jump back over a data word. -/
def jumpBack : Text := "n: DATA 7\nJUMP n".toList

theorem load_of_assemble_jumpBack :
    (assemble jumpBack { limit := 0 }).1 =
      .ok (some ["n: DATA 7".toList, "ADD r15,r0,r15[-1]".toList]) ∧
    ∃ words,
      Object.load ["n: DATA 7".toList, "ADD r15,r0,r15[-1]".toList] = .ok words ∧
      words.length = 2 ∧
      ∃ w, words[1]? = some w ∧
        w = Instr.encode { op := .add, target := 15, src1 := 0, src2 := 15, offset := -1 } := by
  have assembled : (assemble jumpBack { limit := 0 }).1 =
      .ok (some ["n: DATA 7".toList, "ADD r15,r0,r15[-1]".toList]) := by decide
  obtain ⟨words, loaded, -, length, each⟩ := load_of_assemble assembled
  have second : (spaceLines jumpBack.lines)[1]? =
      some ⟨none, .symbolic .jump Cond.always none ['n']⟩ := by decide
  obtain ⟨⟨w, found, denoted⟩, -⟩ := each 1 _ second
  have at_ : labelAddress? jumpBack.lines ['n'] = some 0 := by decide
  refine ⟨assembled, words, loaded, length, w, found, ?_⟩
  rw [Statement.word?, Statement.instr?, at_] at denoted
  exact (Option.some.inj denoted).symm

end DuckMachine
