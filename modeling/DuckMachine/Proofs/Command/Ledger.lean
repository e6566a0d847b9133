import DuckMachine.Proofs.Command.Observation
import DuckMachine.Proofs.Machine.Terminal

/-
  Who takes which line of standard input.

  In a session with questions the questions and the program's own reads take their lines from one
  input. The ledger of such a session has an entry for every word that the machine loads and for
  every instruction that it is about to execute or skip, with the line that was taken for it. It is
  kept beside the session, which it does not touch (`run_session`). At every moment it accounts for
  all of the input and for all questions (`Balanced`): loads, stores and instructions keep it
  balanced one by one, and so it is balanced after a run (`balanced_run`).
-/

namespace DuckMachine

open Terminal

/-! ## Questions and answers -/

/-- The number of a question. -/
def Notice.question? : Notice → Option Nat
  | question number => some number
  | _ => none

/-- The numbers of the questions among notices. -/
def questions (notices : List Notice) : List Nat := notices.filterMap Notice.question?

/-- What comes of the question before an instruction: a line is taken, or the input has ended, or
    nothing is asked any more. -/
inductive Answer where
  | line (bytes : List UInt8)
  | ended
  | unasked

namespace Answer

/-- Whether there was a question. -/
def asked : Answer → Bool
  | unasked => false
  | _ => true

/-- The line that is taken. -/
def taken : Answer → List (List UInt8)
  | line bytes => [bytes]
  | _ => []

/-- Whether questions are asked before and after an answer. -/
def Leads (before after : Bool) : Answer → Prop
  | line _ => before = true ∧ after = true
  | ended => before = true ∧ after = false
  | unasked => before = false ∧ after = false

/-- Whether these are the answers to questions that go on, or that have ended: lines first, then the
    end of the input, and no questions after that. -/
def InOrder (stepping : Bool) (answers : List Answer) : Prop :=
  ∃ lines : List (List UInt8),
    if stepping then answers = lines.map line
    else ∃ rest, answers = lines.map line ++ ended :: List.replicate rest unasked

theorem InOrder.snoc {before after : Bool} {answers : List Answer} {a : Answer}
    (h : InOrder before answers) (leads : a.Leads before after) :
    InOrder after (answers ++ [a]) := by
  obtain ⟨lines, h⟩ := h
  cases a with
  | line bytes =>
    obtain ⟨rfl, rfl⟩ := leads
    refine ⟨lines ++ [bytes], ?_⟩
    rw [if_pos rfl] at h ⊢
    rw [h, List.map_append, List.map_singleton]
  | ended =>
    obtain ⟨rfl, rfl⟩ := leads
    refine ⟨lines, ?_⟩
    rw [if_pos rfl] at h
    rw [if_neg Bool.false_ne_true, h]
    exact ⟨0, rfl⟩
  | unasked =>
    obtain ⟨rfl, rfl⟩ := leads
    refine ⟨lines, ?_⟩
    rw [if_neg Bool.false_ne_true] at h ⊢
    obtain ⟨rest, h⟩ := h
    refine ⟨rest + 1, ?_⟩
    rw [h, List.append_assoc, List.cons_append, ← List.replicate_succ']

end Answer

namespace Session

/-- The answer to the question before an instruction. -/
def answer (t : Terminal) (p : Progress) : Answer :=
  if p.stepping then
    match t.nextLine? with
    | some bytes => .line bytes
    | none => .ended
  else .unasked

/-- What becomes of a terminal and of the progress of a session with an answer to the question
    before an instruction. -/
structure Turn (t : Terminal) (p : Progress) (a : Answer) (t' : Terminal) (q : Progress) :
    Prop where
  input : linesOf t.input = a.taken ++ linesOf t'.input
  ended : a = .ended → linesOf t.input = []
  leads : a.Leads p.stepping q.stepping
  count : q.count = p.count + 1
  questions : questions q.notices.toList =
    questions p.notices.toList ++ if a.asked then [p.count] else []

theorem Turn.notice {t t' : Terminal} {p q : Progress} {a : Answer} (h : Turn t p a t' q)
    {notice : Notice} (other : notice.question? = none) :
    Turn t p a t' { q with notices := q.notices.push notice } where
  input := h.input
  ended := h.ended
  leads := h.leads
  count := h.count
  questions := by
    rw [← h.questions]
    simp [DuckMachine.questions, other]

/-- The question before an instruction takes the next line, as long as there are questions and
    lines that are text. -/
theorem turn_ask (bus : Mapped Terminal) (p : Progress)
    (text : ∀ line ∈ linesOf bus.console.input, (decodeUtf8? line).isSome = true) :
    Turn bus.console p (answer bus.console p) (ask bus p).1.console
      { (ask bus p).2 with count := (ask bus p).2.count + 1 } := by
  obtain ⟨stepping, count, notices⟩ := p
  cases stepping with
  | false =>
    refine ⟨rfl, ?_, ⟨rfl, rfl⟩, rfl, (List.append_nil _).symm⟩
    intro impossible
    cases impossible
  | true =>
    have pushed (later : List Notice) (silent : questions later = []) :
        questions (notices.toList ++ .question count :: later) =
          questions notices.toList ++ [count] := by
      rw [questions] at silent
      simp [questions, silent, Notice.question?]
    by_cases empty : bus.console.input = []
    · have read : ask bus ⟨true, count, notices⟩ =
          (bus, ⟨false, count, ((notices.push (.question count)).push (.plain ['\n'])).push
            (steppingStopped .inputClosed)⟩) := by
        simp only [ask, if_true, readLine_of_nil empty]
      have ended : answer bus.console ⟨true, count, notices⟩ = .ended := by
        simp only [answer, if_true, nextLine?_of_nil empty]
      rw [read, ended]
      refine ⟨rfl, fun _ => by rw [empty]; rfl, ⟨rfl, rfl⟩, rfl, ?_⟩
      simpa [Answer.asked] using pushed [.plain ['\n'], steppingStopped .inputClosed] rfl
    · rw [linesOf_eq empty] at text
      obtain ⟨line, decoded⟩ := Option.isSome_iff_exists.mp (text _ List.mem_cons_self)
      have read : ask bus ⟨true, count, notices⟩ =
          ({ bus with console.input := (cutLine bus.console.input).2 },
            ⟨true, count, notices.push (.question count)⟩) := by
        simp only [ask, if_true, readLine_of_ne_nil empty, decoded]
      have taken : answer bus.console ⟨true, count, notices⟩ =
          .line (cutLine bus.console.input).1 := by
        simp only [answer, if_true, nextLine?_of_ne_nil empty]
      rw [read, taken]
      refine ⟨linesOf_eq empty, ?_, ⟨rfl, rfl⟩, rfl, ?_⟩
      · intro impossible
        cases impossible
      · simpa [Answer.asked] using pushed [] rfl

theorem turn_observe (style : Option TraceStyle) (event : Event) (bus : Mapped Terminal)
    (p : Progress) (text : ∀ line ∈ linesOf bus.console.input, (decodeUtf8? line).isSome = true) :
    Turn bus.console p (answer bus.console p) (observe style event (bus, p)).1.console
      (observe style event (bus, p)).2 := by
  have turn := turn_ask bus p text
  cases style with
  | none => exact turn
  | some style => exact turn.notice rfl

end Session

/-! ## Entries -/

/-- What happens in a session. -/
inductive Entry where
  /-- A word is loaded. If it comes from the terminal, a line may be taken for it. -/
  | load (address : Int) (line : Option (List UInt8))
  /-- An instruction was fetched and is about to be executed or skipped. -/
  | instruction (event : Event) (answer : Answer)

namespace Entry

/-- The lines that are taken. -/
def taken : Entry → List (List UInt8)
  | load _ line => line.toList
  | instruction _ answer => answer.taken

/-- The line that the program takes. -/
def own? : Entry → Option (List UInt8)
  | load _ line => line
  | instruction _ _ => none

/-- The instruction. -/
def event? : Entry → Option Event
  | load _ _ => none
  | instruction event _ => some event

/-- The answer to a question. -/
def answer? : Entry → Option Answer
  | load _ _ => none
  | instruction _ answer => some answer

/-- Whether an entry is in its place after earlier ones. The terminal gives a line for every word
    that is loaded from it while there are lines. An instruction comes directly after its own load,
    and its question finds the input ended only when all lines have been taken. -/
def Timely (input : List UInt8) (earlier : List Entry) : Entry → Prop
  | load address line =>
    line = none ↔ address ≠ Mapped.inputAddress ∨ earlier.flatMap taken = linesOf input
  | instruction event answer =>
    (∃ before line, earlier = before ++ [load event.pc line]) ∧
      (answer = .ended → earlier.flatMap taken = linesOf input)

end Entry

/-- What holds of every place in a list and of the place at its end holds of every place once the
    list has grown. -/
theorem forall_split_snoc {α : Type} {P : List α → α → Prop} {xs : List α} {y : α}
    (h : ∀ earlier x later, xs = earlier ++ x :: later → P earlier x) (last : P xs y)
    (earlier : List α) (x : α) (later : List α) (whole : xs ++ [y] = earlier ++ x :: later) :
    P earlier x := by
  rcases later.eq_nil_or_concat with rfl | ⟨later, z, rfl⟩
  · obtain ⟨rfl, same⟩ := List.append_inj' whole rfl
    obtain rfl := List.singleton_inj.mp same
    exact last
  · rw [List.concat_eq_append, ← List.cons_append, ← List.append_assoc] at whole
    exact h earlier x later (List.append_inj' whole rfl).1

/-! ## The ledger -/

/-- A terminal with memory and the ledger of its session. -/
structure Ledger where
  session : Mapped Terminal
  entries : List Entry := []

namespace Ledger

/-- The lines that the program has taken. -/
def own (b : Ledger) : List (List UInt8) := b.entries.filterMap Entry.own?

/-- The answers to the questions. -/
def answers (b : Ledger) : List Answer := b.entries.filterMap Entry.answer?

/-- The line that is taken for a word from an address. -/
def lineFor (address : Int) (m : Mapped Terminal) : Option (List UInt8) :=
  if address = Mapped.inputAddress then m.console.nextLine? else none

instance : Bus Ledger where
  load address b :=
    let (result, session) := Bus.load address b.session
    (result, ⟨session, b.entries ++ [.load address (lineFor address b.session)]⟩)
  store address w b :=
    let (result, session) := Bus.store address w b.session
    (result, { b with session })

/-- The observer of a session, with an entry for every instruction. -/
def observe (style : Option TraceStyle) (event : Event) :
    Ledger × Session.Progress × Array Event → Ledger × Session.Progress × Array Event
  | (b, p, events) =>
    let (session, q) := Session.observe style event (b.session, p)
    (⟨session, b.entries ++ [.instruction event (Session.answer b.session.console p)]⟩, q,
      events.push event)

/-- The machine at the beginning of a session, with an empty ledger. -/
def machine (memory : Memory) (input : List UInt8) : Cpu Ledger :=
  { bus := { session := { memory, console := { input } } } }

/-- A session with questions, with its ledger and the events of the run. -/
def run (fuel : Nat) (style : Option TraceStyle) (start : Word) (memory : Memory)
    (input : List UInt8) : Ending × Cpu Ledger × Session.Progress × Array Event :=
  (machine memory input).runObserved fuel start (observe style) ({ stepping := true }, #[])

/-- The ledger makes no difference to the session. -/
theorem carries_session : Bus.CarriesAll Ledger.session where
  load _ _ := rfl
  store _ _ _ := rfl

theorem machine_session (memory : Memory) (input : List UInt8) :
    (machine memory input).mapBus Ledger.session = Session.machine memory input := rfl

theorem run_session (fuel : Nat) (style : Option TraceStyle) (start : Word) (memory : Memory)
    (input : List UInt8) :
    (Session.machine memory input).runObserved fuel start (Session.observe style)
        { stepping := true } =
      ((run fuel style start memory input).1,
        (run fuel style start memory input).2.1.mapBus Ledger.session,
        (run fuel style start memory input).2.2.1) := by
  have turn (event : Event) (b : Ledger) (seen : Session.Progress × Array Event) (_ : True) :
      True ∧ Session.observe style event (b.session, seen.1) =
        ((observe style event (b, seen)).1.session, (observe style event (b, seen)).2.1) :=
    ⟨trivial, rfl⟩
  have carried := Cpu.runObserved_map (g := Prod.fst) carries_session.tracks (observe style)
    (Session.observe style) turn (machine memory input) fuel start ({ stepping := true }, #[])
    trivial
  rw [machine_session] at carried
  rw [run]
  exact carried

/-! ## Accounts -/

theorem linesOf_load (address : Int) (m : Mapped Terminal) :
    linesOf m.console.input =
      (lineFor address m).toList ++ linesOf (Bus.load address m).2.console.input := by
  by_cases input : address = Mapped.inputAddress
  · simp only [lineFor, Bus.load, Mapped.load, if_pos input]
    exact linesOf_readWord m.console
  · simp only [lineFor, Bus.load, Mapped.load, if_neg input]
    rfl

theorem lineFor_eq_none_iff {address : Int} {m : Mapped Terminal} :
    lineFor address m = none ↔ address ≠ Mapped.inputAddress ∨ linesOf m.console.input = [] := by
  by_cases input : address = Mapped.inputAddress
  · simp only [lineFor, input, ne_eq, not_true_eq_false, false_or]
    by_cases empty : m.console.input = []
    · simp [nextLine?_of_nil empty, empty, linesOf]
    · simp [nextLine?_of_ne_nil empty, linesOf_eq empty]
  · simp [lineFor, input]

theorem input_store (address : Int) (w : Word) (m : Mapped Terminal) :
    (Bus.store address w m).2.console.input = m.console.input := by
  simp only [Bus.store, Mapped.store]
  split
  · rfl
  · cases m.memory.put address w <;> rfl

/-- Whether a ledger accounts for an input, for the questions that were asked and for the
    instructions of a run. -/
structure Balanced (input : List UInt8) (b : Ledger) (p : Session.Progress)
    (events : Array Event) : Prop where
  /-- No line is lost: all lines are taken in their order. -/
  lossless : linesOf input = b.entries.flatMap Entry.taken ++ linesOf b.session.console.input
  timely : ∀ earlier entry later, b.entries = earlier ++ entry :: later →
    entry.Timely input earlier
  inOrder : Answer.InOrder p.stepping b.answers
  numbered : questions p.notices.toList = List.range (b.answers.countP Answer.asked)
  counted : p.stepping = true → p.count = b.answers.countP Answer.asked
  /-- There is an entry for every instruction. -/
  complete : b.entries.filterMap Entry.event? = events.toList

namespace Balanced

variable {input : List UInt8} {b : Ledger} {p q : Session.Progress} {events : Array Event}

theorem machine (memory : Memory) (input : List UInt8) :
    Balanced input (Ledger.machine memory input).bus { stepping := true } #[] where
  lossless := rfl
  timely := by
    intro earlier entry later impossible
    cases earlier <;> cases impossible
  inOrder := ⟨[], rfl⟩
  numbered := rfl
  counted _ := rfl
  complete := rfl

/-- All lines have been taken when none is left. -/
theorem taken_eq_iff (h : Balanced input b p events) :
    b.entries.flatMap Entry.taken = linesOf input ↔ linesOf b.session.console.input = [] := by
  rw [h.lossless]
  exact List.self_eq_append_right

/-- The lines that are left are text if all lines are. -/
theorem text (h : Balanced input b p events)
    (text : ∀ line ∈ linesOf input, (decodeUtf8? line).isSome = true) :
    ∀ line ∈ linesOf b.session.console.input, (decodeUtf8? line).isSome = true := by
  intro line left
  apply text
  rw [h.lossless]
  exact List.mem_append_right _ left

theorem load (h : Balanced input b p events) (address : Int) :
    Balanced input (Bus.load address b).2 p events := by
  have grown : (Bus.load address b).2.entries =
      b.entries ++ [.load address (lineFor address b.session)] := rfl
  have quiet : (Bus.load address b).2.answers = b.answers := by
    rw [answers, answers, grown, List.filterMap_append]
    exact List.append_nil _
  refine ⟨?_, ?_, ?_, ?_, ?_, ?_⟩
  · rw [h.lossless, linesOf_load address, grown, List.flatMap_append, List.flatMap_singleton,
      List.append_assoc]
    rfl
  · rw [grown]
    refine forall_split_snoc h.timely ?_
    rw [Entry.Timely, lineFor_eq_none_iff, h.taken_eq_iff]
  · rw [quiet]
    exact h.inOrder
  · rw [quiet]
    exact h.numbered
  · rw [quiet]
    exact h.counted
  · rw [grown, List.filterMap_append, h.complete]
    exact List.append_nil _

theorem store (h : Balanced input b p events) (address : Int) (w : Word) :
    Balanced input (Bus.store address w b).2 p events where
  lossless := by
    rw [h.lossless, ← input_store address w]
    rfl
  timely := h.timely
  inOrder := h.inOrder
  numbered := h.numbered
  counted := h.counted
  complete := h.complete

/-- An instruction after its load keeps a ledger balanced. -/
theorem instruction (h : Balanced input b p events) {before : List Entry} {event : Event}
    {line : Option (List UInt8)} (loaded : b.entries = before ++ [.load event.pc line])
    {a : Answer} {session : Mapped Terminal}
    (turn : Session.Turn b.session.console p a session.console q) :
    Balanced input ⟨session, b.entries ++ [.instruction event a]⟩ q (events.push event) := by
  have answered : Ledger.answers ⟨session, b.entries ++ [.instruction event a]⟩ =
      b.answers ++ [a] := by
    rw [answers, answers, List.filterMap_append]
    rfl
  have one : [a].countP Answer.asked = if a.asked then 1 else 0 := List.countP_singleton
  refine ⟨?_, ?_, ?_, ?_, ?_, ?_⟩
  · rw [h.lossless, turn.input, List.flatMap_append, List.flatMap_singleton, List.append_assoc]
    rfl
  · refine forall_split_snoc h.timely ⟨⟨before, line, loaded⟩, ?_⟩
    intro ended
    exact h.taken_eq_iff.mpr (turn.ended ended)
  · rw [answered]
    exact h.inOrder.snoc turn.leads
  · -- While questions are asked, the number of the next one is that of the answers so far.
    rw [answered, turn.questions, h.numbered, List.countP_append, one]
    cases a with
    | line bytes =>
      rw [h.counted turn.leads.1]
      exact List.range_succ.symm
    | ended =>
      rw [h.counted turn.leads.1]
      exact List.range_succ.symm
    | unasked => exact List.append_nil _
  · intro stepping
    rw [answered, turn.count, List.countP_append, one]
    cases a with
    | line bytes =>
      rw [h.counted turn.leads.1]
      rfl
    | ended =>
      rw [turn.leads.2] at stepping
      cases stepping
    | unasked =>
      rw [turn.leads.2] at stepping
      cases stepping
  · rw [List.filterMap_append, h.complete, Array.toList_push]
    rfl

end Balanced

/-- The ledger of a session on text accounts for everything. -/
theorem balanced_run (fuel : Nat) (style : Option TraceStyle) (start : Word) (memory : Memory)
    {input : List UInt8} (text : (decodeUtf8? input).isSome = true) :
    Balanced input (run fuel style start memory input).2.1.bus
      (run fuel style start memory input).2.2.1 (run fuel style start memory input).2.2.2 := by
  have turn (event : Event) (b fetched : Ledger) (seen : Session.Progress × Array Event)
      (h : Balanced input b seen.1 seen.2)
      (loaded : Bus.load event.pc b = (.ok event.word, fetched)) :
      Balanced input (observe style event (fetched, seen)).1
        (observe style event (fetched, seen)).2.1 (observe style event (fetched, seen)).2.2 := by
    have balanced := h.load event.pc
    have grown : fetched.entries = b.entries ++ [.load event.pc (lineFor event.pc b.session)] := by
      rw [← show (Bus.load event.pc b).2 = fetched from congrArg Prod.snd loaded]
      rfl
    rw [loaded] at balanced
    have all := balanced.text (isSome_decode_of_mem_linesOf text)
    exact balanced.instruction grown (Session.turn_observe style event fetched.session seen.1 all)
  have keeps (seen : Session.Progress × Array Event) :
      Bus.Keeps fun b => Balanced input b seen.1 seen.2 :=
    ⟨fun address _ h => h.load address, fun address w _ h => h.store address w⟩
  have kept := Cpu.runObserved_keeps (J := fun b seen => Balanced input b seen.1 seen.2)
    (observe style) keeps turn (machine memory input) fuel start
    ({ stepping := true }, #[]) (Balanced.machine memory input)
  rw [run]
  exact kept

end Ledger

end DuckMachine
