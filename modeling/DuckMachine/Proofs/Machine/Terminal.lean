import DuckMachine.Machine.Terminal

/-
  Lines of standard input.

  Standard input is read line by line, and so it is the list of its lines (`linesOf`). A line ends
  with its line feed or with the input, so a line that is cut off is cut off in the same way from an
  input that begins with it (`cutLine_cut`). No character but the line feed has its byte
  in UTF-8; if the input is text then so is every line of it (`isSome_decode_of_mem_linesOf`).
-/

namespace DuckMachine.Terminal

/-! ## Cutting -/

theorem cutLine_cons {byte : UInt8} (other : byte ≠ 10) (rest : List UInt8) :
    cutLine (byte :: rest) = (byte :: (cutLine rest).1, (cutLine rest).2) := by
  rw [cutLine, if_neg other]

/-- The lines of an input, each with the line feed that ends it. -/
def linesOf : List UInt8 → List (List UInt8)
  | [] => []
  | byte :: rest =>
    if byte = 10 then [byte] :: linesOf rest
    else match linesOf rest with
      | [] => [[byte]]
      | line :: lines => (byte :: line) :: lines

theorem linesOf_feed (rest : List UInt8) : linesOf (10 :: rest) = [10] :: linesOf rest := by
  rw [linesOf, if_pos rfl]

/-- The first line is the one that is cut off. -/
theorem linesOf_eq {input : List UInt8} (nonempty : input ≠ []) :
    linesOf input = (cutLine input).1 :: linesOf (cutLine input).2 := by
  induction input with
  | nil => exact absurd rfl nonempty
  | cons byte rest ih =>
    by_cases feed : byte = 10
    · rw [linesOf, cutLine, if_pos feed, if_pos feed]
    · rw [cutLine_cons feed, linesOf, if_neg feed]
      cases rest with
      | nil => rfl
      | cons next rest => rw [ih (List.cons_ne_nil next rest)]

theorem flatten_linesOf (input : List UInt8) : (linesOf input).flatten = input := by
  induction input with
  | nil => rfl
  | cons byte rest ih =>
    rw [linesOf]
    split
    · rw [List.flatten_cons, ih]
      rfl
    · cases lines : linesOf rest with
      | nil =>
        rw [lines] at ih
        rw [← ih]
        rfl
      | cons line others =>
        rw [lines] at ih
        rw [← ih]
        rfl

theorem linesOf_eq_nil_iff {input : List UInt8} : linesOf input = [] ↔ input = [] := by
  constructor
  · intro empty
    rw [← flatten_linesOf input, empty]
    rfl
  · rintro rfl
    rfl

/-- A line is cut off in the same way whatever comes after it. Only the last line must stay the last
    one: it need not have a line feed. -/
theorem cutLine_cut {input rest : List UInt8} (last : (cutLine input).2 = [] → rest = []) :
    cutLine ((cutLine input).1 ++ rest) = ((cutLine input).1, rest) := by
  induction input with
  | nil =>
    rw [last rfl]
    rfl
  | cons byte others ih =>
    by_cases feed : byte = 10
    · subst feed
      rfl
    · rw [cutLine_cons feed] at last ⊢
      rw [List.cons_append, cutLine_cons feed, ih last]

theorem cutLine_ne_nil {input : List UInt8} (nonempty : input ≠ []) : (cutLine input).1 ≠ [] := by
  cases input with
  | nil => exact absurd rfl nonempty
  | cons byte others =>
    by_cases feed : byte = 10
    · rw [cutLine, if_pos feed]
      exact List.cons_ne_nil byte []
    · rw [cutLine_cons feed]
      exact List.cons_ne_nil byte _

/-! ## Reading a line -/

/-- The line that the next read takes, if the input has not ended. -/
def nextLine? (t : Terminal) : Option (List UInt8) :=
  if t.input = [] then none else some (cutLine t.input).1

theorem nextLine?_of_nil {t : Terminal} (ended : t.input = []) : t.nextLine? = none := if_pos ended

theorem nextLine?_of_ne_nil {t : Terminal} (more : t.input ≠ []) :
    t.nextLine? = some (cutLine t.input).1 := if_neg more

theorem readLine_of_nil {t : Terminal} (ended : t.input = []) :
    t.readLine = (.error .inputClosed, t) := by
  rw [readLine]
  simp only [ended]

theorem readLine_of_ne_nil {t : Terminal} (more : t.input ≠ []) :
    t.readLine =
      (match decodeUtf8? (cutLine t.input).1 with
        | some text => .ok text
        | none => .error (.io "stream did not contain valid UTF-8"),
        { t with input := (cutLine t.input).2 }) := by
  rw [readLine]
  cases input : t.input with
  | nil => exact absurd input more
  | cons byte rest => rfl

/-- A read takes the next line and no other. -/
theorem linesOf_readLine (t : Terminal) :
    linesOf t.input = t.nextLine?.toList ++ linesOf t.readLine.2.input := by
  by_cases ended : t.input = []
  · rw [nextLine?_of_nil ended, readLine_of_nil ended]
    rfl
  · rw [nextLine?_of_ne_nil ended, readLine_of_ne_nil ended]
    exact linesOf_eq ended

/-- A number is what a line that is read stands for. -/
theorem readWord_eq (t : Terminal) :
    Console.readWord t =
      ((t.write prompt).readLine.1 >>= readNumber, (t.write prompt).readLine.2) := by
  simp only [Console.readWord]
  rcases (t.write prompt).readLine with ⟨fault | line, rest⟩ <;> rfl

theorem readWord_of_nil {t : Terminal} (ended : t.input = []) :
    Console.readWord t = (.error .inputClosed, t.write prompt) := by
  rw [readWord_eq, readLine_of_nil (show (t.write prompt).input = [] from ended)]
  rfl

/-- A number is read in the same way whatever comes after its line. -/
theorem readWord_cut {t : Terminal} (more : t.input ≠ []) {rest : List UInt8}
    (last : (Console.readWord t).2.input = [] → rest = []) :
    Console.readWord { t with input := (cutLine t.input).1 ++ rest } =
      ((Console.readWord t).1, { (Console.readWord t).2 with input := rest }) := by
  have read := readLine_of_ne_nil (t := t.write prompt) more
  rw [readWord_eq t, read] at last ⊢
  have again := readLine_of_ne_nil
    (t := ({ t with input := (cutLine t.input).1 ++ rest } : Terminal).write prompt)
    (List.append_ne_nil_of_left_ne_nil (cutLine_ne_nil more) rest)
  have cut : cutLine ((cutLine t.input).1 ++ rest) = ((cutLine t.input).1, rest) := cutLine_cut last
  rw [readWord_eq, again]
  simp only [write, cut]

/-- A read of a number takes the next line and no other. -/
theorem linesOf_readWord (t : Terminal) :
    linesOf t.input = t.nextLine?.toList ++ linesOf (Console.readWord t).2.input := by
  rw [readWord_eq]
  exact linesOf_readLine (t.write prompt)

/-! ## Text -/

/-- The bytes of a text in UTF-8. -/
def encode (text : Text) : List UInt8 := text.flatMap String.utf8EncodeChar

theorem encode_cons (c : Char) (text : Text) :
    encode (c :: text) = String.utf8EncodeChar c ++ encode text := List.flatMap_cons

/-- Bytes are text if some text has them. -/
theorem isSome_decode_iff {bytes : List UInt8} :
    (decodeUtf8? bytes).isSome = true ↔ ∃ text, bytes = encode text := by
  rw [decodeUtf8?, Option.isSome_map, String.fromUTF8?]
  constructor
  · intro decoded
    by_cases valid : bytes.toByteArray.IsValidUTF8
    · obtain ⟨text, same⟩ := valid
      exact ⟨text, List.toByteArray_inj.mp same⟩
    · rw [dif_neg valid] at decoded
      cases decoded
  · rintro ⟨text, rfl⟩
    rw [dif_pos ⟨text, rfl⟩]
    rfl

/-- No character but the line feed has its byte. -/
theorem feed_not_mem {c : Char} (other : c ≠ '\n') : 10 ∉ String.utf8EncodeChar c := by
  have size : c.toNat ≠ 10 := fun feed => other (Char.ext (UInt32.toNat_inj.mp feed))
  have same : c.val.toNat = c.toNat := rfl
  unfold String.utf8EncodeChar
  dsimp only
  split
  · simp [← UInt8.toNat_inj]
    omega
  · split
    · simp [← UInt8.toNat_inj]
      omega
    · split
      · simp [← UInt8.toNat_inj]
        omega
      · simp [← UInt8.toNat_inj]
        omega

/-- Bytes without a line feed come to stand before the first line of what follows. -/
theorem linesOf_append {bytes : List UInt8} (nonempty : bytes ≠ []) (unbroken : 10 ∉ bytes)
    (rest : List UInt8) :
    linesOf (bytes ++ rest) =
      match linesOf rest with
      | [] => [bytes]
      | line :: lines => (bytes ++ line) :: lines := by
  induction bytes with
  | nil => exact absurd rfl nonempty
  | cons byte bytes ih =>
    have other : byte ≠ 10 := fun feed => unbroken (feed ▸ List.mem_cons_self)
    rw [List.cons_append, linesOf, if_neg other]
    cases bytes with
    | nil =>
      rw [List.nil_append]
      cases linesOf rest <;> rfl
    | cons next bytes =>
      rw [ih (List.cons_ne_nil next bytes) fun inside => unbroken (List.mem_cons_of_mem _ inside)]
      cases linesOf rest <;> rfl

theorem utf8EncodeChar_ne_nil (c : Char) : String.utf8EncodeChar c ≠ [] := by
  apply List.ne_nil_of_length_pos
  rw [String.length_utf8EncodeChar]
  exact c.utf8Size_pos

theorem exists_encode_of_mem_linesOf (text : Text) :
    ∀ line ∈ linesOf (encode text), ∃ piece, line = encode piece := by
  induction text with
  | nil =>
    intro line impossible
    cases impossible
  | cons c text ih =>
    rw [encode_cons]
    by_cases feed : c = '\n'
    · subst feed
      rw [show String.utf8EncodeChar '\n' ++ encode text = 10 :: encode text from rfl,
        linesOf_feed]
      rintro line found
      rcases List.mem_cons.mp found with rfl | later
      · exact ⟨['\n'], rfl⟩
      · exact ih line later
    · rw [linesOf_append (utf8EncodeChar_ne_nil c) (feed_not_mem feed)]
      cases lines : linesOf (encode text) with
      | nil =>
        intro line found
        rw [List.mem_singleton.mp found]
        exact ⟨[c], (List.append_nil _).symm⟩
      | cons first lines' =>
        rw [lines] at ih
        intro line found
        rcases List.mem_cons.mp found with rfl | later
        · obtain ⟨piece, rfl⟩ := ih first List.mem_cons_self
          exact ⟨c :: piece, (encode_cons c piece).symm⟩
        · exact ih line (List.mem_cons_of_mem _ later)

/-- Every line of a text is text. -/
theorem isSome_decode_of_mem_linesOf {input : List UInt8}
    (decodes : (decodeUtf8? input).isSome = true) :
    ∀ line ∈ linesOf input, (decodeUtf8? line).isSome = true := by
  obtain ⟨text, rfl⟩ := isSome_decode_iff.mp decodes
  intro line found
  exact isSome_decode_iff.mpr (exists_encode_of_mem_linesOf text line found)

end DuckMachine.Terminal
