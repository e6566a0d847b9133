import DuckMachine.Proofs.Asm.Disassembly
import DuckMachine.Proofs.Asm.Layout
import DuckMachine.Proofs.Outcome
import Mathlib.Data.List.Forall2

/-
  Loading in parts.

  What a line is loaded as does not depend on the lines around it, so that lines can be loaded in
  parts: the words of the parts stand one after the other, and the lines of a later part count on
  from those before (`loadFrom_append`, `load_append`). From this it follows by induction which line
  is refused, if any is (`loadFrom_eq_error_iff`), and which words there are if none is
  (`load_eq_ok_iff`).
-/

namespace DuckMachine

open Source

/-- The same error with `count` more lines before its own. -/
def ObjectError.later (count : Nat) (e : ObjectError) : ObjectError :=
  { e with line := e.line + count }

/-- Whether a word is what a line that takes space is loaded as: the value of the line as it is, or
    a word that decodes to its instruction. -/
inductive Line.LoadsAs : Line → Word → Prop where
  | data {label : Option Text} {value : Word} : LoadsAs ⟨label, .data value⟩ value
  | instr {label : Option Text} {i : Instr} {w : Word} (decoded : Instr.decode w = .ok i) :
      LoadsAs ⟨label, .full i⟩ w

namespace Object

/-- Why a line cannot be loaded: it cannot be read, or it refers to a label. -/
inductive Refused (text : Text) : ObjectCause → Prop where
  | unread {reason : LineError} (unread : Line.parse text = .error reason) :
      Refused text (.badLine reason)
  | unresolved {label : Option Text} {op : SymbolicOp} {cond : Cond} {target : Option Nat}
      {symbol : Text}
      (parsed : Line.parse text = .ok ⟨label, .symbolic op cond target symbol⟩) :
      Refused text (.unresolved symbol)

/-! ## One line -/

theorem lineWords_eq_error_iff {text : Text} {cause : ObjectCause} :
    lineWords text = .error cause ↔ Refused text cause := by
  constructor
  · intro h
    unfold lineWords at h
    cases parsed : Line.parse text with
    | error reason =>
      rw [parsed] at h
      obtain rfl := Except.error.inj h
      exact .unread parsed
    | ok line =>
      obtain ⟨label, statement⟩ := line
      rw [parsed] at h
      cases statement with
      | symbolic op cond target symbol =>
        obtain rfl := Except.error.inj h
        exact .unresolved parsed
      | _ => cases h
  · intro refused
    unfold lineWords
    cases refused with
    | unread unread => rw [unread]
    | unresolved parsed => rw [parsed]

theorem exists_lineWords_iff {text : Text} :
    (∃ words, lineWords text = .ok words) ↔ ∀ cause, ¬Refused text cause := by
  simp only [← lineWords_eq_error_iff]
  cases lineWords text with
  | ok words => simp
  | error cause => simp

/-- A line is loaded as the word that it stands for, if it takes space, and as nothing if not. -/
theorem loadsAs_of_lineWords {text : Text} {words : List Word} (h : lineWords text = .ok words) :
    List.Forall₂ Line.LoadsAs (spaceLines [text]) words := by
  unfold lineWords at h
  cases parsed : Line.parse text with
  | error reason =>
    rw [parsed] at h
    cases h
  | ok line =>
    have alone : spaceLines [text] = if line.takesSpace then [line] else [] :=
      spaceLines_concat [] parsed
    have fits := Line.fits_of_parse parsed
    obtain ⟨label, statement⟩ := line
    rw [parsed] at h
    rw [alone]
    cases statement with
    | nothing =>
      rw [← Except.ok.inj h]
      exact .nil
    | full i =>
      rw [← Except.ok.inj h]
      exact .cons (.instr (Instr.decode_encode_of_encodable fits)) .nil
    | data value =>
      rw [← Except.ok.inj h]
      exact .cons .data .nil
    | symbolic op cond target symbol => cases h

/-! ## Parts -/

theorem loadFrom_cons (number : Nat) (text : Text) (rest : List Text) :
    loadFrom number (text :: rest) = (do
      let words ← (lineWords text).mapError fun cause => ⟨number, cause⟩
      let more ← loadFrom (number + 1) rest
      .ok (words ++ more)) := by
  rw [loadFrom]
  cases lineWords text with
  | error cause => rfl
  | ok words => cases loadFrom (number + 1) rest <;> rfl

/-- The words of lines in two parts are those of the first part and then those of the second. -/
theorem loadFrom_append (number : Nat) (first rest : List Text) :
    loadFrom number (first ++ rest) = (do
      let words ← loadFrom number first
      let more ← loadFrom (number + first.length) rest
      .ok (words ++ more)) := by
  induction first generalizing number with
  | nil =>
    rw [List.nil_append, loadFrom, List.length_nil, Nat.add_zero, ok_bind]
    cases loadFrom number rest <;> rfl
  | cons text first ih =>
    have count : number + 1 + first.length = number + (text :: first).length := by
      rw [List.length_cons]
      omega
    rw [List.cons_append, loadFrom_cons, loadFrom_cons, ih, count]
    cases lineWords text with
    | error cause => rfl
    | ok words =>
      cases loadFrom (number + 1) first with
      | error e => rfl
      | ok others =>
        cases loadFrom (number + (text :: first).length) rest with
        | error e => rfl
        | ok more => exact congrArg Except.ok (List.append_assoc words others more).symm

theorem loadFrom_concat {number : Nat} {lines : List Text} {text : Text} {words more : List Word}
    (h : loadFrom number lines = .ok words) (last : lineWords text = .ok more) :
    loadFrom number (lines ++ [text]) = .ok (words ++ more) := by
  have alone (n : Nat) : loadFrom n [text] = .ok (more ++ []) := by
    rw [loadFrom_cons, last]
    rfl
  rw [loadFrom_append, h, ok_bind, alone, ok_bind, List.append_nil]

/-- Lines that are counted from another number are loaded alike, and an error has the number that
    its line has then. -/
theorem loadFrom_add (number count : Nat) (lines : List Text) :
    loadFrom (number + count) lines =
      (loadFrom number lines).mapError (ObjectError.later count) := by
  induction lines generalizing number with
  | nil => rfl
  | cons text rest ih =>
    have next : number + count + 1 = number + 1 + count := by omega
    rw [loadFrom_cons, loadFrom_cons, next, ih]
    cases lineWords text with
    | error cause => rfl
    | ok words => cases loadFrom (number + 1) rest <;> rfl

theorem load_append (first rest : List Text) :
    load (first ++ rest) = (do
      let words ← load first
      let more ← (load rest).mapError (ObjectError.later first.length)
      .ok (words ++ more)) := by
  rw [load, loadFrom_append, loadFrom_add 0 first.length, load, load]

/-! ## The first line that is refused -/

theorem loadFrom_eq_error_iff {number : Nat} {lines : List Text} {e : ObjectError} :
    loadFrom number lines = .error e ↔
      ∃ n, e.line = number + n ∧ (∃ text, lines[n]? = some text ∧ Refused text e.cause) ∧
        ∀ earlier ∈ lines.take n, ∀ cause, ¬Refused earlier cause := by
  induction lines generalizing number with
  | nil => simp [loadFrom]
  | cons text rest ih =>
    rw [loadFrom]
    cases first : lineWords text with
    | error cause =>
      have refused := lineWords_eq_error_iff.mp first
      dsimp only
      constructor
      · intro h
        obtain rfl := Except.error.inj h
        exact ⟨0, rfl, ⟨text, rfl, refused⟩, by simp⟩
      · rintro ⟨n, line, ⟨found, at_, wrong⟩, before⟩
        -- The first line is refused, so it is the one that the error is about.
        obtain rfl : n = 0 := by
          by_contra later
          obtain ⟨m, rfl⟩ := Nat.exists_eq_add_one_of_ne_zero later
          exact before text List.mem_cons_self cause refused
        obtain rfl : text = found := Option.some.inj at_
        have same := lineWords_eq_error_iff.mpr wrong
        rw [first, Except.error.injEq] at same
        have here : number = e.line := line.symm
        rw [same, here]
    | ok words =>
      have loads := exists_lineWords_iff.mp ⟨words, first⟩
      have mapped : (loadFrom (number + 1) rest).map (words ++ ·) = .error e ↔
          loadFrom (number + 1) rest = .error e := by
        cases loadFrom (number + 1) rest <;> simp [Except.map]
      dsimp only
      rw [mapped, ih]
      constructor
      · rintro ⟨n, line, wrong, before⟩
        refine ⟨n + 1, by omega, wrong, ?_⟩
        rw [List.take_succ_cons]
        exact List.forall_mem_cons.mpr ⟨loads, before⟩
      · rintro ⟨n, line, ⟨found, at_, wrong⟩, before⟩
        cases n with
        | zero =>
          obtain rfl : text = found := Option.some.inj at_
          exact absurd wrong (loads _)
        | succ n =>
          rw [List.take_succ_cons] at before
          exact ⟨n, by omega, ⟨found, at_, wrong⟩, (List.forall_mem_cons.mp before).2⟩

/-- Loading fails with the number of the first line that is refused, and with the cause there. -/
theorem load_eq_error_iff {lines : List Text} {e : ObjectError} :
    load lines = .error e ↔
      (∃ text, lines[e.line]? = some text ∧ Refused text e.cause) ∧
        ∀ earlier ∈ lines.take e.line, ∀ cause, ¬Refused earlier cause := by
  rw [load, loadFrom_eq_error_iff]
  constructor
  · rintro ⟨n, line, first⟩
    obtain rfl : e.line = n := by omega
    exact first
  · intro first
    exact ⟨e.line, (Nat.zero_add _).symm, first⟩

theorem line_lt_of_load {lines : List Text} {e : ObjectError} (h : load lines = .error e) :
    e.line < lines.length := by
  obtain ⟨⟨text, found, -⟩, -⟩ := load_eq_error_iff.mp h
  exact (List.getElem?_eq_some_iff.mp found).1

/-! ## The words -/

/-- Lines are loaded only if each of them can be. -/
theorem lineWords_of_loadFrom {number : Nat} {lines : List Text} {words : List Word}
    (h : loadFrom number lines = .ok words) :
    ∀ text ∈ lines, ∃ part, lineWords text = .ok part := by
  induction lines generalizing number words with
  | nil => exact fun _ impossible => absurd impossible List.not_mem_nil
  | cons text rest ih =>
    rw [loadFrom_cons] at h
    obtain ⟨part, first, h⟩ := bind_eq_ok_iff.mp h
    obtain ⟨others, loaded, -⟩ := bind_eq_ok_iff.mp h
    exact List.forall_mem_cons.mpr ⟨⟨part, mapError_eq_ok_iff.mp first⟩, ih loaded⟩

/-- Lines of which none is refused are loaded, each as what it stands for. -/
theorem loadFrom_of_forall {lines : List Text} (h : ∀ text ∈ lines, ∀ cause, ¬Refused text cause)
    (number : Nat) :
    ∃ words, loadFrom number lines = .ok words ∧
      List.Forall₂ Line.LoadsAs (spaceLines lines) words := by
  induction lines generalizing number with
  | nil => exact ⟨[], rfl, .nil⟩
  | cons text rest ih =>
    obtain ⟨here, others⟩ := List.forall_mem_cons.mp h
    obtain ⟨words, first⟩ := exists_lineWords_iff.mpr here
    obtain ⟨more, loaded, each⟩ := ih others (number + 1)
    refine ⟨words ++ more, ?_, ?_⟩
    · rw [loadFrom_cons, first, loaded]
      rfl
    · rw [spaceLines_cons]
      exact List.rel_append (loadsAs_of_lineWords first) each

/-- No line is loaded as two words. -/
theorem rightUnique_loadsAs : Relator.RightUnique Line.LoadsAs := by
  intro line w w' first second
  cases first with
  | data =>
    cases second
    rfl
  | instr decoded =>
    cases second with
    | instr decoded' => rw [← Instr.encode_of_decode decoded, ← Instr.encode_of_decode decoded']

/-- Loading succeeds if no line is refused, with the words that the lines which take space stand
    for, in order. -/
theorem load_eq_ok_iff {lines : List Text} {words : List Word} :
    load lines = .ok words ↔
      (∀ text ∈ lines, ∀ cause, ¬Refused text cause) ∧
        List.Forall₂ Line.LoadsAs (spaceLines lines) words := by
  constructor
  · intro h
    have each : ∀ text ∈ lines, ∀ cause, ¬Refused text cause :=
      fun text found => exists_lineWords_iff.mp (lineWords_of_loadFrom h text found)
    obtain ⟨others, loaded, stand⟩ := loadFrom_of_forall each 0
    rw [← load, h] at loaded
    rw [Except.ok.inj loaded]
    exact ⟨each, stand⟩
  · rintro ⟨each, stand⟩
    obtain ⟨others, loaded, stand'⟩ := loadFrom_of_forall each 0
    rw [load, loaded, rightUnique_loadsAs.forall₂ stand stand']

/-! ## The whole statement -/

/-- Loading goes part by part: lines that load can be followed by others, whose words come after
    theirs, or whose error then counts the lines before; and nothing that follows lines which do not
    load changes their error. So loading fails if a line cannot be read or refers to a label, and
    tells the first such line and why. If there is none, each line that takes space has its word:
    the value of a data line as it is, and for an instruction a word that decodes to it. -/
theorem load_by_parts :
    (∀ first rest : List Text,
      (∀ e, load first = .error e → load (first ++ rest) = .error e) ∧
      (∀ words more, load first = .ok words → load rest = .ok more →
        load (first ++ rest) = .ok (words ++ more)) ∧
      ∀ words e, load first = .ok words → load rest = .error e →
        load (first ++ rest) = .error { e with line := e.line + first.length }) ∧
    ∀ lines : List Text,
      ((∃ e, load lines = .error e) ↔ ∃ text ∈ lines, ∃ cause, Refused text cause) ∧
      (∀ e, load lines = .error e ↔
        (∃ text, lines[e.line]? = some text ∧ Refused text e.cause) ∧
          ∀ earlier ∈ lines.take e.line, ∀ cause, ¬Refused earlier cause) ∧
      ∀ words, load lines = .ok words ↔
        (∀ text ∈ lines, ∀ cause, ¬Refused text cause) ∧
          List.Forall₂ Line.LoadsAs (spaceLines lines) words := by
  constructor
  · intro first rest
    rw [load_append]
    refine ⟨?_, ?_, ?_⟩
    · intro e failed
      rw [failed]
      rfl
    · intro words more loaded loaded'
      rw [loaded, loaded']
      rfl
    · intro words e loaded failed
      rw [loaded, failed]
      rfl
  · intro lines
    refine ⟨?_, fun e => load_eq_error_iff, fun words => load_eq_ok_iff⟩
    constructor
    · rintro ⟨e, failed⟩
      obtain ⟨⟨text, found, refused⟩, -⟩ := load_eq_error_iff.mp failed
      exact ⟨text, List.mem_of_getElem? found, e.cause, refused⟩
    · rintro ⟨text, found, cause, refused⟩
      cases loaded : load lines with
      | error e => exact ⟨e, rfl⟩
      | ok words => exact absurd refused ((load_eq_ok_iff.mp loaded).1 text found cause)

/-- Object lines of which one takes no space. -/
def countedLines : List Text := ["n: DATA 7".toList, "# sum".toList, "ADD r1,r0,r0[3]".toList]

/-- Object lines of which two are refused. -/
def refusedLines : List Text := ["HALT r0,r0,r0".toList, "JUMP n".toList, "HALT r0".toList]

theorem load_by_parts_counted :
    load countedLines = .ok [7, 0x1F880003] ∧
      load refusedLines = .error ⟨1, .unresolved ['n']⟩ ∧
      load (countedLines ++ refusedLines) = .error ⟨4, .unresolved ['n']⟩ ∧
      load (countedLines ++ countedLines) = .ok [7, 0x1F880003, 7, 0x1F880003] ∧
      load (refusedLines ++ countedLines) = .error ⟨1, .unresolved ['n']⟩ ∧
      Refused "JUMP n".toList (.unresolved ['n']) ∧
      List.Forall₂ Line.LoadsAs (spaceLines countedLines) [7, 0x1F880003] := by
  have loaded : load countedLines = .ok [7, 0x1F880003] := by decide
  have failed : load refusedLines = .error ⟨1, .unresolved ['n']⟩ := by decide
  obtain ⟨parts, lines⟩ := load_by_parts
  obtain ⟨-, words, errors⟩ := parts countedLines refusedLines
  obtain ⟨-, twice, -⟩ := parts countedLines countedLines
  obtain ⟨kept, -, -⟩ := parts refusedLines countedLines
  obtain ⟨-, first, -⟩ := lines refusedLines
  obtain ⟨-, -, each⟩ := lines countedLines
  obtain ⟨⟨text, found, refused⟩, -⟩ := (first _).mp failed
  obtain rfl : "JUMP n".toList = text := Option.some.inj found
  exact ⟨loaded, failed, errors _ _ loaded failed, twice _ _ loaded loaded, kept _ failed, refused,
    ((each _).mp loaded).2⟩

end Object

end DuckMachine
