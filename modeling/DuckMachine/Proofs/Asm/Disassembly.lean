import DuckMachine.Asm.Object
import DuckMachine.Proofs.Asm.Standalone
import DuckMachine.Proofs.Instr.Codec

/-
  Instructions as text and back.

  The text of an instruction is read back as that instruction wherever an instruction may stand:
  alone (`ofText_render`), in a source line with a label or without, and in object code. Every
  instruction that comes out of a word or a text fits a word, so nothing is left out: disassembled
  words load as themselves (`load_render`), and what was read from any text, with its leading zeros,
  blanks and predicate letters in any order, is written in one way only. Between instructions and
  words nothing gets lost either, unless an instruction does not fit (`Instr.decodes_back`).
-/

namespace DuckMachine

open Text

namespace Instr

/-- An instruction that fits a word is read back from its text. -/
theorem ofText_render {i : Instr} (h : i.Encodable) : ofText i.render = .ok i := by
  rw [ofText_of_standalone i.isBody_render.standalone, instr_fields h]

/-- An instruction that was read from a text fits a word. -/
theorem encodable_of_ofText {text : Text} {i : Instr} (h : ofText text = .ok i) :
    i.Encodable := by
  obtain ⟨fields, alone⟩ := standalone_of_ofText (by rw [h]; simp)
  rw [ofText_of_standalone alone] at h
  exact encodable_of_instr h

/-- Instructions that fit a word have different texts. -/
theorem render_inj {i j : Instr} (hi : i.Encodable) (hj : j.Encodable) :
    i.render = j.render ↔ i = j := by
  constructor
  · intro same
    have read : Except.ok i = ofText j.render := by rw [← same, ofText_render hi]
    rw [ofText_render hj] at read
    exact Except.ok.inj read
  · exact congrArg render

end Instr

namespace Line

theorem parse_render {i : Instr} (h : i.Encodable) : parse i.render = .ok ⟨none, .full i⟩ := by
  have unlabelled : ∀ name ∈ (none : Option Text), IsName name := by simp
  have parsed := parse_renderLabelled unlabelled h
  rw [renderLabelled] at parsed
  exact parsed

theorem parse_label_render {label : Text} (name : IsName label) {i : Instr} (h : i.Encodable) :
    parse (label ++ ':' :: ' ' :: i.render) = .ok ⟨some label, .full i⟩ := by
  have names : ∀ other ∈ some label, IsName other := by
    intro other same
    rw [← Option.some.inj same]
    exact name
  have parsed := parse_renderLabelled names h
  rw [renderLabelled] at parsed
  exact parsed

end Line

namespace Object

/-- The object line of an instruction that fits a word stands for its word. -/
theorem lineWords_render {i : Instr} (h : i.Encodable) : lineWords i.render = .ok [i.encode] := by
  rw [lineWords, Line.parse_render h]

/-- A listing of instructions that fit words loads as their words. -/
theorem loadFrom_render {listing : List Instr} (h : ∀ i ∈ listing, i.Encodable) (number : Nat) :
    loadFrom number (listing.map Instr.render) = .ok (listing.map Instr.encode) := by
  induction listing generalizing number with
  | nil => rfl
  | cons i rest ih =>
    rw [List.map_cons, loadFrom, lineWords_render (h i (by simp))]
    dsimp only
    rw [ih (fun j found => h j (List.mem_cons_of_mem i found))]
    rfl

/-- Disassembled words load as themselves. -/
theorem load_render {w : Word} {i : Instr} (h : Instr.decode w = .ok i) :
    load [i.render] = .ok [w] := by
  have fits : ∀ j ∈ [i], j.Encodable := by
    intro j found
    rw [List.mem_singleton.mp found]
    exact Instr.encodable_of_decode h
  have loaded := loadFrom_render fits 0
  rw [List.map_singleton, List.map_singleton, Instr.encode_of_decode h] at loaded
  exact loaded

end Object

/-- The text of an instruction that fits a word is read back as that instruction: alone, as a
    source line, and as a source line with a label. So a word that decodes is assembled again from
    its disassembly, and an instruction read from any text is read again from its own text, which
    two texts share exactly if they are read alike. -/
theorem Instr.reads_back :
    (∀ i : Instr, i.Encodable →
      ofText i.render = .ok i ∧
      Line.parse i.render = .ok ⟨none, .full i⟩ ∧
      ∀ label, IsName label →
        Line.parse (label ++ ':' :: ' ' :: i.render) = .ok ⟨some label, .full i⟩) ∧
    (∀ w i, decode w = .ok i → Object.load [i.render] = .ok [w]) ∧
    ∀ text i, ofText text = .ok i →
      ofText i.render = .ok i ∧
        ∀ other j, ofText other = .ok j → (i.render = j.render ↔ i = j) := by
  refine ⟨?_, fun w i => Object.load_render, ?_⟩
  · intro i fits
    exact ⟨ofText_render fits, Line.parse_render fits,
      fun label name => Line.parse_label_render name fits⟩
  · intro text i read
    have fits := encodable_of_ofText read
    exact ⟨ofText_render fits, fun other j also => render_inj fits (encodable_of_ofText also)⟩

/-- An instruction in whose text every part is written. -/
def everyPart : Instr :=
  { op := .xor, cond := ⟨9⟩, target := 7, src1 := 10, src2 := 15, offset := -1024 }

theorem Instr.reads_back_everyPart :
    everyPart.render = "XOR/MV r7,r10,r15[-1024]".toList ∧
    Line.parse "loop_1: XOR/MV r7,r10,r15[-1024]".toList =
      .ok ⟨some "loop_1".toList, .full everyPart⟩ ∧
    Object.load ["XOR/MV r7,r10,r15[-1024]".toList] = .ok [0x4cbd7c00] ∧
    ofText " XOR/VM  r07 , r10 ,r15[ -01024 ]".toList = .ok everyPart ∧
    ofText "XOR/MV r7,r10,r15[-1024]".toList = .ok everyPart := by
  have written : everyPart.render = "XOR/MV r7,r10,r15[-1024]".toList := by decide
  have decoded : decode 0x4cbd7c00 = .ok everyPart := by decide
  have loose : ofText " XOR/VM  r07 , r10 ,r15[ -01024 ]".toList = .ok everyPart := by decide
  obtain ⟨lines, words, texts⟩ := Instr.reads_back
  obtain ⟨-, -, labelled⟩ := lines everyPart (encodable_of_decode decoded)
  have word : "oop_1".toList.all isWordChar = true := by decide
  have name : IsName "loop_1".toList :=
    ⟨'l', "oop_1".toList, rfl, by decide, List.all_eq_true.mp word⟩
  have line := labelled _ name
  have loaded := words _ _ decoded
  obtain ⟨again, -⟩ := texts _ _ loose
  rw [written] at line loaded again
  exact ⟨written, line, loaded, loose, again⟩

/-! ## Words and instructions -/

/-- A word decodes unless its opcode is above 9, and then it is the word of what it decodes to,
    which fits a word. Any other instruction, with whatever register numbers and offset, comes back
    from its word with each register modulo 16 and the offset as the number of 11 bits that is
    congruent to it modulo 2048, the other parts unchanged. So exactly the instructions whose
    registers exist and whose offset is accepted come back as they are, and these include every
    instruction that is read from a text or a line. -/
theorem Instr.decodes_back :
    (∀ w : Word,
      (∀ reason, decode w = .error reason ↔
        9 < (w >>> 27).toNat ∧ reason = .unknownOpcode w) ∧
      (¬9 < (w >>> 27).toNat → ∃ i, decode w = .ok i ∧ i.encode = w ∧ i.Encodable)) ∧
    (∀ i : Instr, ∃ j, decode i.encode = .ok j ∧
      j.op = i.op ∧ j.cond = i.cond ∧
      j.target = i.target % 16 ∧ j.src1 = i.src1 % 16 ∧ j.src2 = i.src2 % 16 ∧
      -1024 ≤ j.offset ∧ j.offset ≤ 1023 ∧ j.offset % 2048 = i.offset % 2048) ∧
    (∀ i : Instr, decode i.encode = .ok i ↔
      i.target < 16 ∧ i.src1 < 16 ∧ i.src2 < 16 ∧ ∃ offset, checkOffset i.offset = .ok offset) ∧
    (∀ text i, ofText text = .ok i → decode i.encode = .ok i) ∧
    ∀ text label i, Line.parse text = .ok ⟨label, .full i⟩ → decode i.encode = .ok i := by
  refine ⟨fun w => ⟨fun reason => decode_eq_error_iff, exists_decode⟩, ?_, ?_, ?_, ?_⟩
  · intro i
    obtain ⟨-, -, -, lower, upper⟩ := encodable_reduce i
    exact ⟨i.reduce, decode_encode i, rfl, rfl, rfl, rfl, rfl, lower, upper, Int.bmod_emod⟩
  · intro i
    rw [decode_encode_eq_self_iff, checkOffset_eq_ok_iff]
    rfl
  · intro text i read
    exact decode_encode_of_encodable (encodable_of_ofText read)
  · intro text label i parsed
    exact decode_encode_of_encodable (Line.fits_of_parse parsed)

/-- An instruction none of whose numbers fits its place. -/
def tooWide : Instr :=
  { op := .add, cond := ⟨5⟩, target := 17, src1 := 255, src2 := 16, offset := 1024 }

theorem Instr.decodes_back_tooWide :
    decode 0x50000000 = .error (.unknownOpcode 0x50000000) ∧
    (∃ j, decode tooWide.encode = .ok j ∧
      j.op = .add ∧ j.cond = ⟨5⟩ ∧ j.target = 1 ∧ j.src1 = 15 ∧ j.src2 = 0 ∧ j.offset = -1024) ∧
    decode tooWide.encode ≠ .ok tooWide ∧
    ofText "XOR/MV r7,r10,r15[-1024]".toList = .ok everyPart ∧
    Line.parse "n: XOR/VM r07 , r10,r15[-1024] # it".toList =
      .ok ⟨some ['n'], .full everyPart⟩ ∧
    decode everyPart.encode = .ok everyPart := by
  have alone : ofText "XOR/MV r7,r10,r15[-1024]".toList = .ok everyPart := by decide
  have line : Line.parse "n: XOR/VM r07 , r10,r15[-1024] # it".toList =
      .ok ⟨some ['n'], .full everyPart⟩ := by decide
  obtain ⟨words, instrs, exact_, texts, lines⟩ := Instr.decodes_back
  refine ⟨((words _).1 _).mpr (by decide), ?_, ?_, alone, line, lines _ _ _ line⟩
  · obtain ⟨j, decoded, op, cond, target, src1, src2, lower, upper, offset⟩ := instrs tooWide
    refine ⟨j, decoded, op, cond, target, src1, src2, ?_⟩
    have congruent : j.offset % 2048 = 1024 := offset
    omega
  · intro same
    obtain ⟨small, -⟩ := (exact_ tooWide).mp same
    exact absurd small (by decide)

end DuckMachine
