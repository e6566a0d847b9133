import DuckMachine.Instr.Operand

/-
  What a predicate means.

  A row of letters names the outcomes that it has letters of. Read from the left, each letter adds
  its outcome, and the outcomes already read tell the letters that may not occur again, so a row
  can be read if and only if its letters are distinct and each is the letter of an outcome
  (`Cond.ofText?_eq_some_iff`). What it denotes are the bits of its letters, in whatever order they
  stand (`Cond.spells_iff`, `readPredicate_perm`).
-/

namespace DuckMachine

namespace Cond

/-! ## Outcomes and their letters -/

theorem mem_letters_iff {c : Char} {outcome : Cond} :
    (c, outcome) ∈ letters ↔ ofLetter? c = some outcome := by
  simp only [letters, List.mem_cons, Prod.mk.injEq, List.not_mem_nil, or_false]
  constructor
  · rintro (⟨rfl, rfl⟩ | ⟨rfl, rfl⟩ | ⟨rfl, rfl⟩ | ⟨rfl, rfl⟩) <;> rfl
  · intro h
    unfold ofLetter? at h
    split at h <;> simp_all

/-- The outcomes with letters are the four single ones. -/
theorem forall_letter {P : Char → Cond → Prop} :
    (∀ c outcome, ofLetter? c = some outcome → P c outcome) ↔
      P 'M' minus ∧ P 'Z' zero ∧ P 'P' positive ∧ P 'V' overflow := by
  simp only [← mem_letters_iff, letters, List.mem_cons, Prod.mk.injEq, List.not_mem_nil, or_false]
  constructor
  · intro h
    exact ⟨h _ _ (by simp), h _ _ (by simp), h _ _ (by simp), h _ _ (by simp)⟩
  · rintro ⟨m, z, p, v⟩ c outcome (⟨rfl, rfl⟩ | ⟨rfl, rfl⟩ | ⟨rfl, rfl⟩ | ⟨rfl, rfl⟩)
    · exact m
    · exact z
    · exact p
    · exact v

theorem intersects_union (a b outcome : Cond) :
    (a.union b).intersects outcome = (a.intersects outcome || b.intersects outcome) := by
  obtain ⟨a⟩ := a
  obtain ⟨b⟩ := b
  obtain ⟨outcome⟩ := outcome
  revert a b outcome
  decide

/-- Different letters name outcomes that have nothing in common. -/
theorem intersects_ofLetter? {c d : Char} {outcome other : Cond} (hc : ofLetter? c = some outcome)
    (hd : ofLetter? d = some other) : outcome.intersects other = true ↔ d = c := by
  have all : ∀ c outcome, ofLetter? c = some outcome → ∀ d other, ofLetter? d = some other →
      (outcome.intersects other = true ↔ d = c) := by
    simp only [forall_letter]
    decide
  exact all c outcome hc d other hd

/-- A condition is the set of the outcomes that it shares something with. -/
theorem ext_letters {a b : Cond} (h : ∀ c outcome, ofLetter? c = some outcome →
    (a.intersects outcome = true ↔ b.intersects outcome = true)) : a = b := by
  have single := forall_letter.mp h
  clear h
  obtain ⟨a⟩ := a
  obtain ⟨b⟩ := b
  revert a b
  decide

/-! ## Rows of letters -/

/-- Whether each character of a text is the letter of an outcome that is not in `seen`. -/
def NewLetters (seen : Cond) (text : Text) : Prop :=
  ∀ c ∈ text, ∃ outcome, ofLetter? c = some outcome ∧ seen.intersects outcome = false

/-- After a letter has been read, it may not occur again. -/
theorem newLetters_cons {seen outcome : Cond} {c : Char} {rest : Text}
    (hc : ofLetter? c = some outcome) :
    NewLetters (seen.union outcome) rest ↔ NewLetters seen rest ∧ c ∉ rest := by
  simp only [NewLetters, intersects_union, Bool.or_eq_false_iff]
  constructor
  · intro h
    refine ⟨fun d hd => ?_, fun again => ?_⟩
    · obtain ⟨other, known, new, -⟩ := h d hd
      exact ⟨other, known, new⟩
    · obtain ⟨other, known, -, apart⟩ := h c again
      rw [(intersects_ofLetter? hc known).mpr rfl] at apart
      cases apart
  · rintro ⟨h, once⟩ d hd
    obtain ⟨other, known, new⟩ := h d hd
    refine ⟨other, known, new, Bool.eq_false_iff.mpr fun shared => ?_⟩
    rw [(intersects_ofLetter? hc known).mp shared] at hd
    exact once hd

/-- A row of letters is read if its letters are distinct and new, and then names their outcomes. -/
theorem addLetters_eq_some_iff {seen a : Cond} {text : Text} :
    addLetters seen text = some a ↔
      (text.Nodup ∧ NewLetters seen text) ∧
        ∀ c outcome, ofLetter? c = some outcome →
          (a.intersects outcome = true ↔ seen.intersects outcome = true ∨ c ∈ text) := by
  induction text generalizing seen with
  | nil =>
    simp only [addLetters, Option.some.injEq, List.not_mem_nil, or_false]
    constructor
    · rintro rfl
      exact ⟨⟨List.nodup_nil, by simp [NewLetters]⟩, fun c outcome _ => Iff.rfl⟩
    · rintro ⟨-, same⟩
      exact (ext_letters same).symm
  | cons c rest ih =>
    have first_new : NewLetters seen (c :: rest) ↔
        (∃ outcome, ofLetter? c = some outcome ∧ seen.intersects outcome = false) ∧
          NewLetters seen rest :=
      List.forall_mem_cons
    rw [addLetters, first_new, List.nodup_cons]
    cases hc : ofLetter? c with
    | none => simp
    | some outcome =>
      by_cases old : seen.intersects outcome = true
      · simp [old]
      · have members : ∀ d other, ofLetter? d = some other →
            ((seen.union outcome).intersects other = true ∨ d ∈ rest ↔
              seen.intersects other = true ∨ d ∈ c :: rest) := by
          intro d other hd
          rw [intersects_union, Bool.or_eq_true, intersects_ofLetter? hc hd, List.mem_cons,
            or_assoc]
        have new : ∃ other, some outcome = some other ∧ seen.intersects other = false :=
          ⟨outcome, rfl, Bool.eq_false_iff.mpr old⟩
        have distinct : rest.Nodup ∧ NewLetters (seen.union outcome) rest ↔
            (c ∉ rest ∧ rest.Nodup) ∧ NewLetters seen rest := by
          rw [newLetters_cons hc, and_comm (b := c ∉ rest), and_assoc, and_left_comm]
        simp only [if_neg old, ih, distinct, new, true_and]
        refine and_congr_right fun _ => ?_
        constructor
        · intro same d other hd
          rw [same d other hd, members d other hd]
        · intro same d other hd
          rw [same d other hd, members d other hd]

theorem exists_addLetters {seen : Cond} {text : Text} (distinct : text.Nodup)
    (new : NewLetters seen text) : ∃ a, addLetters seen text = some a := by
  induction text generalizing seen with
  | nil => exact ⟨seen, rfl⟩
  | cons c rest ih =>
    obtain ⟨once, distinct⟩ := List.nodup_cons.mp distinct
    obtain ⟨outcome, hc, first⟩ := new c List.mem_cons_self
    have later : NewLetters seen rest := fun d hd => new d (List.mem_cons_of_mem c hd)
    obtain ⟨a, added⟩ := ih distinct ((newLetters_cons hc).mpr ⟨later, once⟩)
    refine ⟨a, ?_⟩
    rw [addLetters, hc]
    simpa only [first, Bool.false_eq_true, if_false] using added

/-! ## Predicates -/

/-- Distinct letters of outcomes, at least one. -/
def IsLetterRow (text : Text) : Prop :=
  text ≠ [] ∧ text.Nodup ∧ ∀ c ∈ text, c ∈ letters.map Prod.fst

/-- Whether a predicate can be written like this. -/
def IsSpelling (text : Text) : Prop :=
  text = ['A', 'L', 'W', 'A', 'Y', 'S'] ∨ text = ['N', 'E', 'V', 'E', 'R'] ∨ IsLetterRow text

/-- What a written predicate denotes: every outcome, none, or those whose letters it has. -/
inductive Spells : Text → Cond → Prop where
  | always : Spells ['A', 'L', 'W', 'A', 'Y', 'S'] always
  | never : Spells ['N', 'E', 'V', 'E', 'R'] never
  | row {text : Text} {a : Cond} : IsLetterRow text →
      (∀ entry ∈ letters, (a.intersects entry.2 = true ↔ entry.1 ∈ text)) → Spells text a

theorem newLetters_never_iff {text : Text} :
    NewLetters never text ↔ ∀ c ∈ text, c ∈ letters.map Prod.fst := by
  refine forall₂_congr fun c _ => ?_
  simp only [List.mem_map, Prod.exists, exists_and_right, exists_eq_right, mem_letters_iff]
  constructor
  · rintro ⟨outcome, known, -⟩
    exact ⟨outcome, known⟩
  · rintro ⟨outcome, known⟩
    exact ⟨outcome, known, by simp [intersects, inter, isEmpty, never]⟩

/-- A row of letters is neither of the two words. -/
theorem IsLetterRow.ne_word {text : Text} (h : IsLetterRow text) :
    text ≠ ['A', 'L', 'W', 'A', 'Y', 'S'] ∧ text ≠ ['N', 'E', 'V', 'E', 'R'] := by
  constructor
  · rintro rfl
    exact absurd (h.2.2 'A' (by decide)) (by decide)
  · rintro rfl
    exact absurd (h.2.2 'N' (by decide)) (by decide)

theorem ofText?_of_row {text : Text} (h : IsLetterRow text) :
    ofText? text = addLetters never text := by
  rw [ofText?, if_neg h.ne_word.1, if_neg h.ne_word.2, if_neg h.1]

theorem spells_of_ofText? {text : Text} {a : Cond} (h : ofText? text = some a) : Spells text a := by
  unfold ofText? at h
  split at h
  · next word =>
    rw [← Option.some.inj h, word]
    exact .always
  · split at h
    · next word =>
      rw [← Option.some.inj h, word]
      exact .never
    · split at h
      · cases h
      · next nonempty =>
        obtain ⟨⟨distinct, new⟩, members⟩ := addLetters_eq_some_iff.mp h
        refine .row ⟨nonempty, distinct, newLetters_never_iff.mp new⟩ fun entry found => ?_
        have shared := members entry.1 entry.2 (mem_letters_iff.mp found)
        simpa [intersects, inter, isEmpty, never] using shared

/-- A predicate is read as what it denotes. -/
theorem ofText?_eq_some_iff {text : Text} {a : Cond} : ofText? text = some a ↔ Spells text a := by
  refine ⟨spells_of_ofText?, fun h => ?_⟩
  cases h with
  | always => rfl
  | never => rfl
  | row letters members =>
    have new := newLetters_never_iff.mpr letters.2.2
    rw [ofText?_of_row letters, addLetters_eq_some_iff]
    refine ⟨⟨letters.2.1, new⟩, fun c outcome known => ?_⟩
    have shared := members (c, outcome) (mem_letters_iff.mpr known)
    simpa [intersects, inter, isEmpty, never] using shared

/-- What can be written as a predicate denotes something. -/
theorem isSpelling_iff {text : Text} : IsSpelling text ↔ ∃ a, Spells text a := by
  constructor
  · rintro (rfl | rfl | letters)
    · exact ⟨_, .always⟩
    · exact ⟨_, .never⟩
    · obtain ⟨a, added⟩ := exists_addLetters letters.2.1 (newLetters_never_iff.mpr letters.2.2)
      rw [← ofText?_of_row letters] at added
      exact ⟨a, spells_of_ofText? added⟩
  · rintro ⟨a, h⟩
    cases h with
    | always => exact .inl rfl
    | never => exact .inr (.inl rfl)
    | row letters => exact .inr (.inr letters)

/-! ## Bits and letters -/

/-- The outcomes of a condition are its bits, in the order of their letters. -/
theorem intersects_letter (a : Cond) {i : Nat} (h : i < letters.length) :
    a.intersects letters[i].2 = a.bits.getLsbD i := by
  have all : ∀ (bits : BitVec 4) (i : Fin letters.length),
      intersects ⟨bits⟩ (letters.get i).2 = bits.getLsbD i := by decide
  exact all a.bits ⟨i, h⟩

theorem spells_row_iff {text : Text} {a : Cond} (row : IsLetterRow text) :
    Spells text a ↔
      ∀ i (h : i < letters.length), a.bits.getLsbD i = true ↔ letters[i].1 ∈ text := by
  constructor
  · intro spells i h
    rw [← intersects_letter a h]
    cases spells with
    | always => exact absurd rfl row.ne_word.1
    | never => exact absurd rfl row.ne_word.2
    | row _ members => exact members _ (List.getElem_mem h)
  · intro members
    refine .row row fun entry found => ?_
    obtain ⟨i, h, rfl⟩ := List.getElem_of_mem found
    rw [intersects_letter a h]
    exact members i h

/-- A predicate denotes all outcomes, none, or those whose letters stand in it, each as a bit. -/
theorem spells_iff {text : Text} {a : Cond} :
    Spells text a ↔
      text = ['A', 'L', 'W', 'A', 'Y', 'S'] ∧ a.bits = BitVec.allOnes 4 ∨
        text = ['N', 'E', 'V', 'E', 'R'] ∧ a.bits = 0 ∨
          IsLetterRow text ∧
            ∀ i (h : i < letters.length), a.bits.getLsbD i = true ↔ letters[i].1 ∈ text := by
  constructor
  · intro spells
    cases spells with
    | always => exact .inl ⟨rfl, rfl⟩
    | never => exact .inr (.inl ⟨rfl, rfl⟩)
    | row row members =>
      exact .inr (.inr ⟨row, (spells_row_iff row).mp (.row row members)⟩)
  · obtain ⟨bits⟩ := a
    rintro (⟨rfl, rfl⟩ | ⟨rfl, rfl⟩ | ⟨row, members⟩)
    · exact .always
    · exact .never
    · exact (spells_row_iff row).mpr members

/-! ## The order of the letters -/

theorem IsSpelling.isLetterRow {text : Text} (h : IsSpelling text)
    (known : ∀ c ∈ text, c ∈ letters.map Prod.fst) : IsLetterRow text := by
  rcases h with rfl | rfl | row
  · exact absurd (known 'A' (by decide)) (by decide)
  · exact absurd (known 'N' (by decide)) (by decide)
  · exact row

theorem IsLetterRow.perm {text other : Text} (h : IsLetterRow text) (same : text.Perm other) :
    IsLetterRow other := by
  obtain ⟨nonempty, distinct, known⟩ := h
  refine ⟨?_, same.nodup distinct, fun c hc => known c (same.mem_iff.mpr hc)⟩
  rintro rfl
  exact nonempty same.eq_nil

/-- Rows of the same letters denote the same outcomes. -/
theorem Spells.perm {text other : Text} {a : Cond} (h : Spells text a) (row : IsLetterRow text)
    (same : text.Perm other) : Spells other a := by
  rw [spells_row_iff (row.perm same)]
  intro i inside
  rw [(spells_row_iff row).mp h i inside, same.mem_iff]

end Cond

/-! ## Reading a predicate -/

open Cond

theorem readPredicate_eq_ok_iff {text : Text} {a : Cond} :
    readPredicate text = .ok a ↔ Spells text a := by
  rw [← ofText?_eq_some_iff, readPredicate]
  cases ofText? text <;> simp

theorem exists_readPredicate_iff {text : Text} :
    (∃ a, readPredicate text = .ok a) ↔ IsSpelling text := by
  simp only [readPredicate_eq_ok_iff, isSpelling_iff]

theorem readPredicate_eq_error_iff {text : Text} {e : FieldError} :
    readPredicate text = .error e ↔ ¬IsSpelling text ∧ e = .badPredicate text := by
  rw [← exists_readPredicate_iff, readPredicate]
  cases ofText? text <;> simp [eq_comm]

/-- Letters in another order are read as the same condition or not at all. -/
theorem readPredicate_perm {text other : Text} (same : text.Perm other)
    (known : ∀ c ∈ text, c ∈ letters.map Prod.fst) :
    (∃ a, readPredicate text = .ok a ∧ readPredicate other = .ok a) ∨
      readPredicate text = .error (.badPredicate text) ∧
        readPredicate other = .error (.badPredicate other) := by
  have known_other : ∀ c ∈ other, c ∈ letters.map Prod.fst :=
    fun c hc => known c (same.mem_iff.mpr hc)
  by_cases spelling : IsSpelling text
  · obtain ⟨a, spells⟩ := isSpelling_iff.mp spelling
    have spells_other := spells.perm (spelling.isLetterRow known) same
    exact .inl ⟨a, readPredicate_eq_ok_iff.mpr spells, readPredicate_eq_ok_iff.mpr spells_other⟩
  · have unread : ¬IsSpelling other := fun spelled =>
      spelling (.inr (.inr ((spelled.isLetterRow known_other).perm same.symm)))
    exact .inr ⟨readPredicate_eq_error_iff.mpr ⟨spelling, rfl⟩,
      readPredicate_eq_error_iff.mpr ⟨unread, rfl⟩⟩

/-- A predicate is read if and only if it is one of the two words or a row of distinct letters, and
    then it is the condition with all bits, with none, or with the bits of the letters in the row;
    any other text is the error. The order of the letters is irrelevant, and the text of a condition
    that has been read is read as the same condition. -/
theorem readPredicate_denotes_letters :
    (∀ text, (∃ a, readPredicate text = .ok a) ↔ IsSpelling text) ∧
    (∀ text a, readPredicate text = .ok a ↔
      text = ['A', 'L', 'W', 'A', 'Y', 'S'] ∧ a.bits = BitVec.allOnes 4 ∨
        text = ['N', 'E', 'V', 'E', 'R'] ∧ a.bits = 0 ∨
          IsLetterRow text ∧
            ∀ i (h : i < letters.length), a.bits.getLsbD i = true ↔ letters[i].1 ∈ text) ∧
    (∀ text e, readPredicate text = .error e ↔ ¬IsSpelling text ∧ e = .badPredicate text) ∧
    (∀ text other, text.Perm other → (∀ c ∈ text, c ∈ letters.map Prod.fst) →
      (∃ a, readPredicate text = .ok a ∧ readPredicate other = .ok a) ∨
        readPredicate text = .error (.badPredicate text) ∧
          readPredicate other = .error (.badPredicate other)) ∧
    ∀ text a, readPredicate text = .ok a → readPredicate a.render = .ok a := by
  refine ⟨fun _ => exists_readPredicate_iff, fun text a => ?_,
    fun _ _ => readPredicate_eq_error_iff, fun _ _ => readPredicate_perm, fun _ a _ => ?_⟩
  · rw [readPredicate_eq_ok_iff, spells_iff]
  · rw [readPredicate, ofText?_render]

theorem readPredicate_denotes_letters_shuffled :
    readPredicate "VZP".toList = .ok ⟨0b1110⟩ ∧
    "VZP".toList.Perm "PVZ".toList ∧ (∀ c ∈ "VZP".toList, c ∈ letters.map Prod.fst) ∧
    readPredicate "PVZ".toList = .ok ⟨0b1110⟩ ∧
    readPredicate (Cond.render ⟨0b1110⟩) = .ok ⟨0b1110⟩ ∧
    readPredicate "ZMZ".toList = .error (.badPredicate "ZMZ".toList) := by
  obtain ⟨-, values, errors, order, again⟩ := readPredicate_denotes_letters
  have same : "VZP".toList.Perm "PVZ".toList := by decide
  have known : ∀ c ∈ "VZP".toList, c ∈ letters.map Prod.fst := by simp [letters]
  have row : IsLetterRow "VZP".toList := ⟨by decide, by decide, known⟩
  have first : readPredicate "VZP".toList = .ok ⟨0b1110⟩ :=
    (values _ _).mpr (.inr (.inr ⟨row, by decide⟩))
  have second : readPredicate "PVZ".toList = .ok ⟨0b1110⟩ := by
    rcases order _ _ same known with ⟨a, read, read_other⟩ | ⟨error, -⟩
    · rw [read_other, ← read, first]
    · rw [first] at error
      cases error
  refine ⟨first, same, known, second, again _ _ first, (errors _ _).mpr ⟨?_, rfl⟩⟩
  rintro (word | word | ⟨-, distinct, -⟩)
  · exact absurd word (by decide)
  · exact absurd word (by decide)
  · exact absurd distinct (by decide)

end DuckMachine
