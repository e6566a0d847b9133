import DuckMachine.Machine.Run
import DuckMachine.Proofs.Instr.Codec
import DuckMachine.Proofs.Machine.Memory
import DuckMachine.Proofs.Machine.Step

/-
  Runs are iterated steps.

  A run goes from step to step until the first one that fails or halts, and its events are those of
  the steps, in order. What the fuel adds is that a run can be cut short: `RunsTo` lists the ways
  in which a run of a given fuel can come to its end, and `runsTo_run` shows that it ends in one of
  them. Two ways never compete (`RunsTo.unique`), so that this says all there is to say.
-/

namespace DuckMachine

namespace Cpu

variable {β σ : Type}

/-! ## One step of a run -/

/-- Whether a step lets a run go on: it succeeds and does not halt the processor. -/
def Step.GoesOn (s : Step β) : Prop := s.result = .ok () ∧ s.cpu.halted = false

/-- The ending of a run whose last step this is, after so many steps. -/
def Step.ending (s : Step β) (steps : Nat) : Ending :=
  match s.result with
  | .ok () => .halted steps
  | .error e => .fault e

theorem Step.ending_eq_halted {s : Step β} {m n : Nat} (h : s.ending m = .halted n) :
    n = m ∧ s.result = .ok () := by
  unfold ending at h
  split at h
  · next ok => exact ⟨(Ending.halted.inj h).symm, ok⟩
  · cases h

theorem Step.ending_eq_fault {s : Step β} {m : Nat} {e : RunError} (h : s.ending m = .fault e) :
    s.result = .error e := by
  unfold ending at h
  split at h
  · cases h
  · next failed => rw [failed, Ending.fault.inj h]

theorem Step.ending_ne_cutShort (s : Step β) (m : Nat) : s.ending m ≠ .cutShort := by
  unfold ending
  split <;> simp

/-- An observer that looks at events and leaves the bus alone. -/
def watching (f : Event → σ → σ) : Event → β × σ → β × σ :=
  fun event (bus, seen) => (bus, f event seen)

variable [Bus β]

/-! ## Iterated steps -/

/-- The processor after a number of steps, whatever comes of them. -/
def after (c : Cpu β) : Nat → Cpu β
  | 0 => c
  | n + 1 => c.step.cpu.after n

/-- The events of a number of steps. -/
def events (c : Cpu β) : Nat → List Event
  | 0 => []
  | n + 1 => c.step.event.toList ++ c.step.cpu.events n

/-- Whether a run gets past the first steps. -/
def GoesOn (c : Cpu β) (n : Nat) : Prop := ∀ k < n, (c.after k).step.GoesOn

theorem after_succ (c : Cpu β) (n : Nat) : c.after (n + 1) = (c.after n).step.cpu := by
  induction n generalizing c with
  | zero => rfl
  | succ n ih => exact ih c.step.cpu

theorem events_succ (c : Cpu β) (n : Nat) :
    c.events (n + 1) = c.events n ++ (c.after n).step.event.toList := by
  induction n generalizing c with
  | zero => simp [events, after]
  | succ n ih =>
    rw [events, ih c.step.cpu, events, List.append_assoc]
    rfl

theorem after_add (c : Cpu β) (m n : Nat) : c.after (m + n) = (c.after m).after n := by
  induction n with
  | zero => rfl
  | succ n ih => rw [← Nat.add_assoc, after_succ, after_succ, ih]

theorem events_add (c : Cpu β) (m n : Nat) :
    c.events (m + n) = c.events m ++ (c.after m).events n := by
  induction n with
  | zero => exact (List.append_nil _).symm
  | succ n ih => rw [← Nat.add_assoc, events_succ, events_succ, ih, after_add, List.append_assoc]

theorem events_cons {c : Cpu β} {event : Event} (h : c.step.event = some event) (n : Nat) :
    c.events (n + 1) = event :: c.step.cpu.events n := by
  rw [events, h]
  rfl

theorem goesOn_zero (c : Cpu β) : c.GoesOn 0 := by
  intro k inside
  exact absurd inside (Nat.not_lt_zero k)

theorem goesOn_succ_iff {c : Cpu β} {n : Nat} :
    c.GoesOn (n + 1) ↔ c.step.GoesOn ∧ c.step.cpu.GoesOn n := by
  constructor
  · intro h
    exact ⟨h 0 (Nat.zero_lt_succ n), fun k inside => h (k + 1) (Nat.succ_lt_succ inside)⟩
  · rintro ⟨first, rest⟩ k inside
    cases k with
    | zero => exact first
    | succ k => exact rest k (Nat.lt_of_succ_lt_succ inside)

theorem GoesOn.add {c : Cpu β} {m n : Nat} (h : c.GoesOn m) (rest : (c.after m).GoesOn n) :
    c.GoesOn (m + n) := by
  intro k inside
  by_cases first : k < m
  · exact h k first
  · have split : m + (k - m) = k := by omega
    have later := rest (k - m) (by omega)
    rwa [← after_add, split] at later

theorem GoesOn.mono {c : Cpu β} {m n : Nat} (h : c.GoesOn n) (le : m ≤ n) : c.GoesOn m :=
  fun k inside => h k (Nat.lt_of_lt_of_le inside le)

theorem GoesOn.halted {c : Cpu β} {n : Nat} (h : c.GoesOn n) (running : c.halted = false) :
    (c.after n).halted = false := by
  cases n with
  | zero => exact running
  | succ n =>
    rw [after_succ]
    exact (h n (Nat.lt_succ_self n)).2

/-- A step that goes on has an event, which is no `HALT` that executes. -/
theorem Step.GoesOn.event {c : Cpu β} (h : c.step.GoesOn) :
    ∃ event, c.step.event = some event ∧ event.halts = false := by
  obtain ⟨event, found, halted⟩ := step_ok h.1
  rw [h.2] at halted
  exact ⟨event, found, (Bool.or_eq_false_iff.mp halted.symm).2⟩

theorem GoesOn.length_events {c : Cpu β} {n : Nat} (h : c.GoesOn n) :
    (c.events n).length = n := by
  induction n with
  | zero => rfl
  | succ n ih =>
    obtain ⟨event, found, -⟩ := (h n (Nat.lt_succ_self n)).event
    rw [events_succ, List.length_append, ih (h.mono (Nat.le_succ n)), found]
    rfl

/-- The events are those of the steps, at the same positions. -/
theorem GoesOn.getElem?_events {c : Cpu β} {n k : Nat} (h : c.GoesOn n) (inside : k < n) :
    (c.events n)[k]? = (c.after k).step.event := by
  induction n with
  | zero => exact absurd inside (Nat.not_lt_zero k)
  | succ n ih =>
    have before := h.mono (Nat.le_succ n)
    have length := before.length_events
    rw [events_succ]
    by_cases earlier : k < n
    · rw [List.getElem?_append_left (by omega)]
      exact ih before earlier
    · obtain rfl : k = n := by omega
      rw [List.getElem?_append_right (by omega), length, Nat.sub_self]
      cases (c.after k).step.event <;> rfl

/-- The last event is that of the last step, which may have none. -/
theorem GoesOn.getElem?_events_last {c : Cpu β} {n : Nat} (h : c.GoesOn n) :
    (c.events (n + 1))[n]? = (c.after n).step.event := by
  rw [events_succ, List.getElem?_append_right (Nat.le_of_eq h.length_events), h.length_events,
    Nat.sub_self]
  cases (c.after n).step.event <;> rfl

/-! ## The loop -/

theorem loop_of_fetch_error {c fetched : Cpu β} {e : RunError} (h : c.fetch = (.error e, fetched))
    (observe : Event → β × σ → β × σ) (fuel steps : Nat) (seen : σ) :
    c.loop observe fuel steps seen = (.fault e, fetched, seen) := by
  rw [loop.eq_def]
  simp only [h]

theorem loop_zero {c fetched : Cpu β} {event : Event} (h : c.fetch = (.ok event, fetched))
    (observe : Event → β × σ → β × σ) (steps : Nat) (seen : σ) :
    c.loop observe 0 steps seen = (.cutShort, fetched, seen) := by
  rw [loop.eq_def]
  simp only [h]

/-- How a run goes on after a turn of the loop whose instruction has come to this. -/
def onward (observe : Event → β × σ → β × σ) (fuel steps : Nat) :
    Except RunError Unit × Cpu β → σ → Ending × Cpu β × σ
  | (.error e, c), seen => (.fault e, c, seen)
  | (.ok (), c), seen =>
    if c.halted then (.halted (steps + 1), c, seen) else c.loop observe fuel (steps + 1) seen

/-- One turn of the loop: the fetch, the observer and the rest of the step. -/
theorem loop_succ {c fetched : Cpu β} {event : Event} (h : c.fetch = (.ok event, fetched))
    (observe : Event → β × σ → β × σ) (fuel steps : Nat) (seen : σ) :
    c.loop observe (fuel + 1) steps seen =
      onward observe fuel steps
        (({ fetched with bus := (observe event (fetched.bus, seen)).1 } : Cpu β).execute event)
        (observe event (fetched.bus, seen)).2 := by
  rw [loop.eq_def]
  simp only [h]
  rcases ({ fetched with bus := (observe event (fetched.bus, seen)).1 } : Cpu β).execute event with
    ⟨e | _, last⟩ <;> rfl

/-- One turn of the loop is one step. -/
theorem loop_succ_watching {c : Cpu β} {event : Event} (h : c.step.event = some event)
    (f : Event → σ → σ) (fuel steps : Nat) (seen : σ) :
    c.loop (watching f) (fuel + 1) steps seen =
      match c.step.result with
      | .error e => (.fault e, c.step.cpu, f event seen)
      | .ok () =>
        if c.step.cpu.halted then (.halted (steps + 1), c.step.cpu, f event seen)
        else c.step.cpu.loop (watching f) fuel (steps + 1) (f event seen) := by
  rcases fetched : c.fetch with ⟨reason | found, c'⟩
  · rw [step_of_fetch_error fetched] at h
    cases h
  · rw [step_of_fetch fetched] at h ⊢
    obtain rfl := Option.some.inj h
    rw [loop_succ fetched]
    simp only [watching]
    rcases c'.execute found with ⟨reason | _, last⟩ <;> rfl

/-- A run ends with the first step that does not go on, if the fuel reaches so far. -/
theorem loop_of_stop {c : Cpu β} {k fuel : Nat} (before : c.GoesOn k)
    (stop : ¬(c.after k).step.GoesOn) (inside : k < fuel) (f : Event → σ → σ) (steps : Nat)
    (seen : σ) :
    c.loop (watching f) fuel steps seen =
      ((c.after k).step.ending (steps + k + 1), c.after (k + 1),
        (c.events (k + 1)).foldl (fun seen event => f event seen) seen) := by
  induction k generalizing c fuel steps seen with
  | zero =>
    obtain ⟨fuel, rfl⟩ := Nat.exists_eq_add_one_of_ne_zero (Nat.ne_zero_of_lt inside)
    simp only [after, events, List.append_nil, Nat.add_zero, Step.ending] at stop ⊢
    rcases fetched : c.fetch with ⟨reason | found, c'⟩
    · rw [loop_of_fetch_error fetched, step_of_fetch_error fetched]
      rfl
    · have event : c.step.event = some found := by rw [step_of_fetch fetched]
      rw [loop_succ_watching event, event]
      cases result : c.step.result with
      | error e => rfl
      | ok done =>
        have halted : c.step.cpu.halted = true :=
          Bool.of_not_eq_false fun running => stop ⟨result, running⟩
        simp only [halted, if_true]
        rfl
  | succ k ih =>
    obtain ⟨fuel, rfl⟩ := Nat.exists_eq_add_one_of_ne_zero (Nat.ne_zero_of_lt inside)
    obtain ⟨first, rest⟩ := goesOn_succ_iff.mp before
    obtain ⟨event, found, -⟩ := first.event
    rw [loop_succ_watching found, first.1]
    simp only [first.2]
    have count : steps + 1 + k + 1 = steps + (k + 1) + 1 := by omega
    rw [ih rest stop (Nat.lt_of_succ_lt_succ inside), events_cons found, if_neg Bool.false_ne_true,
      count]
    rfl

/-- A run that goes on until the fuel is used up ends with the fetch after that. -/
theorem loop_of_goesOn {c : Cpu β} {fuel : Nat} (h : c.GoesOn fuel) (f : Event → σ → σ)
    (steps : Nat) (seen : σ) :
    c.loop (watching f) fuel steps seen =
      (match (c.after fuel).fetch.1 with
        | .error e => .fault e
        | .ok _ => .cutShort,
        (c.after fuel).fetch.2,
        (c.events fuel).foldl (fun seen event => f event seen) seen) := by
  induction fuel generalizing c steps seen with
  | zero =>
    simp only [after, events, List.foldl_nil]
    rcases fetched : c.fetch with ⟨reason | found, c'⟩
    · rw [loop_of_fetch_error fetched]
    · rw [loop_zero fetched]
  | succ fuel ih =>
    obtain ⟨first, rest⟩ := goesOn_succ_iff.mp h
    obtain ⟨event, found, -⟩ := first.event
    rw [loop_succ_watching found, first.1]
    simp only [first.2]
    rw [ih rest, events_cons found, if_neg Bool.false_ne_true]
    rfl

/-! ## The ways in which a run can end -/

theorem goesOn_or_stops (c : Cpu β) (n : Nat) :
    c.GoesOn n ∨ ∃ k < n, c.GoesOn k ∧ ¬(c.after k).step.GoesOn := by
  induction n with
  | zero => exact .inl c.goesOn_zero
  | succ n ih =>
    rcases ih with before | ⟨k, inside, before, stop⟩
    · by_cases here : (c.after n).step.GoesOn
      · left
        intro k inside
        rcases Nat.lt_succ_iff_lt_or_eq.mp inside with earlier | rfl
        · exact before k earlier
        · exact here
      · exact .inr ⟨n, Nat.lt_succ_self n, before, here⟩
    · exact .inr ⟨k, Nat.lt_succ_of_lt inside, before, stop⟩

/-- What a run of a given fuel can come to, with the processor and the events at its end: the first
    step that does not go on, a fetch that fails when the fuel is used up, or one that succeeds
    then and finds that there is more to do. -/
inductive RunsTo (c : Cpu β) (fuel : Nat) : Ending → Cpu β → List Event → Prop where
  | stopped (k : Nat) (inside : k < fuel) (before : c.GoesOn k)
      (stop : ¬(c.after k).step.GoesOn) :
      RunsTo c fuel ((c.after k).step.ending (k + 1)) (c.after (k + 1)) (c.events (k + 1))
  | unfetched (e : RunError) (before : c.GoesOn fuel)
      (failed : (c.after fuel).fetch.1 = .error e) :
      RunsTo c fuel (.fault e) (c.after (fuel + 1)) (c.events (fuel + 1))
  | cutShort (event : Event) (before : c.GoesOn fuel)
      (fetched : (c.after fuel).fetch.1 = .ok event) :
      RunsTo c fuel .cutShort (c.after fuel).fetch.2 (c.events fuel)

/-- A run comes to one of these ends, and what an observer has seen are its events. -/
theorem runsTo_loop (c : Cpu β) (fuel : Nat) (f : Event → σ → σ) (seen : σ) :
    ∃ events, c.RunsTo fuel (c.loop (watching f) fuel 0 seen).1
        (c.loop (watching f) fuel 0 seen).2.1 events ∧
      (c.loop (watching f) fuel 0 seen).2.2 =
        events.foldl (fun seen event => f event seen) seen := by
  rcases c.goesOn_or_stops fuel with before | ⟨k, inside, before, stop⟩
  · rw [loop_of_goesOn before]
    rcases fetched : (c.after fuel).fetch with ⟨e | event, last⟩
    · have step := step_of_fetch_error fetched
      have unfetched := RunsTo.unfetched e before (congrArg Prod.fst fetched)
      rw [events_succ, after_succ, step] at unfetched
      simp only [Option.toList_none, List.append_nil] at unfetched
      exact ⟨_, unfetched, rfl⟩
    · have cut := RunsTo.cutShort event before (congrArg Prod.fst fetched)
      rw [fetched] at cut
      exact ⟨_, cut, rfl⟩
  · rw [loop_of_stop before stop inside, Nat.zero_add]
    exact ⟨_, .stopped k inside before stop, rfl⟩

theorem stop_unique {c : Cpu β} {k m : Nat} (before : c.GoesOn k)
    (stop : ¬(c.after k).step.GoesOn) (before' : c.GoesOn m) (stop' : ¬(c.after m).step.GoesOn) :
    k = m := by
  rcases Nat.lt_trichotomy k m with less | equal | more
  · exact absurd (before' k less) stop
  · exact equal
  · exact absurd (before m more) stop'

/-- No two ends of a run are possible. -/
theorem RunsTo.unique {c : Cpu β} {fuel : Nat} {ending ending' : Ending} {last last' : Cpu β}
    {events events' : List Event} (h : c.RunsTo fuel ending last events)
    (h' : c.RunsTo fuel ending' last' events') :
    ending = ending' ∧ last = last' ∧ events = events' := by
  cases h with
  | stopped k inside before stop =>
    cases h' with
    | stopped m _ before' stop' =>
      obtain rfl := stop_unique before stop before' stop'
      exact ⟨rfl, rfl, rfl⟩
    | unfetched _ before' _ => exact absurd (before' k inside) stop
    | cutShort _ before' _ => exact absurd (before' k inside) stop
  | unfetched e before failed =>
    cases h' with
    | stopped m inside before' stop' => exact absurd (before m inside) stop'
    | unfetched e' _ failed' =>
      rw [failed, Except.error.injEq] at failed'
      exact ⟨congrArg Ending.fault failed', rfl, rfl⟩
    | cutShort _ _ fetched =>
      rw [failed] at fetched
      cases fetched
  | cutShort event before fetched =>
    cases h' with
    | stopped m inside before' stop' => exact absurd (before m inside) stop'
    | unfetched _ _ failed =>
      rw [fetched] at failed
      cases failed
    | cutShort _ _ _ => exact ⟨rfl, rfl, rfl⟩

/-- A run that goes on up to a fetch that fails ends there, under any fuel that reaches so far. -/
theorem runsTo_of_fetch_error {c last : Cpu β} {k fuel : Nat} {e : RunError} (before : c.GoesOn k)
    (failed : (c.after k).fetch = (.error e, last)) (enough : k ≤ fuel) :
    c.RunsTo fuel (.fault e) last (c.events k) := by
  have step := step_of_fetch_error failed
  have final : c.after (k + 1) = last := by rw [after_succ, step]
  have listed : c.events (k + 1) = c.events k := by
    rw [events_succ, step]
    exact List.append_nil _
  rcases Nat.lt_or_eq_of_le enough with inside | rfl
  · have stop : ¬(c.after k).step.GoesOn := by
      rw [step]
      exact fun goes_on => nomatch goes_on.1
    have stopped := RunsTo.stopped k inside before stop
    rwa [final, listed, step] at stopped
  · have unfetched := RunsTo.unfetched e before (congrArg Prod.fst failed)
    rwa [final, listed] at unfetched

/-- A run comes to the end that is possible, with its events in order. -/
theorem runsTo_run (c : Cpu β) (fuel : Nat) (start : Word) :
    (c.startAt start).RunsTo fuel (c.run fuel start).1 (c.run fuel start).2.1
      (c.run fuel start).2.2.toList := by
  obtain ⟨events, ends, seen⟩ := runsTo_loop (c.startAt start) fuel
    (fun event (events : Array Event) => events.push event) #[]
  have listed : (c.run fuel start).2.2.toList = events := by
    rw [run, runObserved]
    exact (congrArg Array.toList seen).trans (by simp)
  rw [listed]
  exact ends

/-- Whatever an observer looks for, it sees the events of the run. -/
theorem runObserved_watching (c : Cpu β) (fuel : Nat) (start : Word) (f : Event → σ → σ)
    (seen : σ) :
    c.runObserved fuel start (watching f) seen =
      ((c.run fuel start).1, (c.run fuel start).2.1,
        (c.run fuel start).2.2.toList.foldl (fun seen event => f event seen) seen) := by
  obtain ⟨events, ends, fold⟩ := runsTo_loop (c.startAt start) fuel f seen
  obtain ⟨ending, last, listed⟩ := ends.unique (c.runsTo_run fuel start)
  rw [← ending, ← last, ← listed, ← fold]
  rfl

/-! ## How runs end -/

/-- A run that halts does so with its last step, the first one that does not go on. -/
theorem RunsTo.of_halted {c last : Cpu β} {fuel n : Nat} {ending : Ending} {events : List Event}
    (h : c.RunsTo fuel ending last events) (halted : ending = .halted n) :
    ∃ k, n = k + 1 ∧ k < fuel ∧ c.GoesOn k ∧ (c.after k).step.result = .ok () ∧
      (c.after (k + 1)).halted = true ∧ last = c.after (k + 1) ∧ events = c.events (k + 1) := by
  cases h with
  | stopped k inside before stop =>
    obtain ⟨count, ok⟩ := Step.ending_eq_halted halted
    refine ⟨k, count, inside, before, ok, ?_, rfl, rfl⟩
    rw [after_succ]
    exact Bool.of_not_eq_false fun running => stop ⟨ok, running⟩
  | unfetched _ _ _ => cases halted
  | cutShort _ _ _ => cases halted

/-- A run that halts has an event for every step that it counts. -/
theorem RunsTo.length_events {c last : Cpu β} {fuel n : Nat} {ending : Ending}
    {events : List Event} (h : c.RunsTo fuel ending last events) (halted : ending = .halted n) :
    events.length = n := by
  obtain ⟨k, rfl, -, before, ok, -, -, rfl⟩ := h.of_halted halted
  obtain ⟨event, found, -⟩ := step_ok ok
  rw [events_succ, List.length_append, before.length_events, found]
  rfl

/-- A run that fails does so with its last step. -/
theorem RunsTo.of_fault {c last : Cpu β} {fuel : Nat} {ending : Ending} {e : RunError}
    {events : List Event} (h : c.RunsTo fuel ending last events) (fault : ending = .fault e) :
    ∃ k ≤ fuel, c.GoesOn k ∧ (c.after k).step.result = .error e ∧ last = c.after (k + 1) ∧
      events = c.events (k + 1) := by
  cases h with
  | stopped k inside before stop =>
    exact ⟨k, Nat.le_of_lt inside, before, Step.ending_eq_fault fault, rfl, rfl⟩
  | unfetched e' before failed =>
    obtain rfl := Ending.fault.inj fault
    refine ⟨fuel, Nat.le_refl fuel, before, ?_, rfl, rfl⟩
    rw [step_of_fetch_error (Prod.ext failed rfl)]
  | cutShort _ _ _ => cases fault

theorem RunsTo.of_cutShort {c last : Cpu β} {fuel : Nat} {ending : Ending} {events : List Event}
    (h : c.RunsTo fuel ending last events) (cut : ending = .cutShort) :
    c.GoesOn fuel ∧ events = c.events fuel := by
  cases h with
  | stopped k _ _ _ => exact absurd cut (Step.ending_ne_cutShort _ _)
  | unfetched _ _ _ => cases cut
  | cutShort _ before _ => exact ⟨before, rfl⟩

/-! ## Events of a run -/

/-- An event in the list of a run is that of the step with its number. -/
theorem GoesOn.event_at {c : Cpu β} {n k : Nat} {event : Event} (h : c.GoesOn n)
    (found : (c.events (n + 1))[k]? = some event) :
    k ≤ n ∧ (c.after k).step.event = some event := by
  have short : (c.events (n + 1)).length ≤ n + 1 := by
    rw [events_succ, List.length_append, h.length_events]
    cases (c.after n).step.event <;> simp
  have inside : k < (c.events (n + 1)).length := (List.getElem?_eq_some_iff.mp found).1
  rcases Nat.lt_or_eq_of_le (Nat.le_of_lt_succ (Nat.lt_of_lt_of_le inside short)) with earlier | rfl
  · rw [events_succ, List.getElem?_append_left (by rw [h.length_events]; exact earlier),
      h.getElem?_events earlier] at found
    exact ⟨Nat.le_of_lt earlier, found⟩
  · rw [h.getElem?_events_last] at found
    exact ⟨Nat.le_refl k, found⟩

theorem GoesOn.halts_eq_false {c : Cpu β} {n k : Nat} {event : Event} (h : c.GoesOn n)
    (inside : k < n) (found : (c.after k).step.event = some event) : event.halts = false := by
  obtain ⟨event', found', running⟩ := (h k inside).event
  rw [found', Option.some.injEq] at found
  rw [← found, running]

/-- An event in the list of a run is that of the step with its number, whatever the ending. -/
theorem RunsTo.event_at {c last : Cpu β} {fuel k : Nat} {ending : Ending} {events : List Event}
    {event : Event} (h : c.RunsTo fuel ending last events) (found : events[k]? = some event) :
    (c.after k).step.event = some event := by
  cases h with
  | stopped _ _ before _ => exact (before.event_at found).2
  | unfetched _ before _ => exact (before.event_at found).2
  | cutShort _ before _ =>
    have inside : k < fuel := by
      rw [← before.length_events]
      exact (List.getElem?_eq_some_iff.mp found).1
    rw [before.getElem?_events inside] at found
    exact found

/-! ## Whole runs -/

/-- What is to be said of a run that begins with the processor `c`: its ending, the processor
    after it and its events are those of steps taken one after another. -/
structure WholeRun (c : Cpu β) (fuel : Nat) (ending : Ending) (last : Cpu β)
    (events : List Event) : Prop where
  /-- The first step that fails or halts ends the run, if the fuel reaches so far. -/
  stops : ∀ k < fuel, c.GoesOn k → ¬(c.after k).step.GoesOn →
    ending = (c.after k).step.ending (k + 1) ∧ last = c.after (k + 1) ∧
      events = c.events (k + 1)
  /-- A run is cut short only if no step before the end of the fuel fails or halts. -/
  cutShort : ending = .cutShort → c.GoesOn fuel ∧ events = c.events fuel
  /-- A run that halts after `n` steps has `n` events, the last of which is its only `HALT` that
      executes. -/
  halted : ∀ n, ending = .halted n →
    1 ≤ n ∧ n ≤ fuel ∧ c.GoesOn (n - 1) ∧ (c.after (n - 1)).step.result = .ok () ∧
      last = c.after n ∧ last.halted = true ∧ events.length = n ∧
      ∀ k event, events[k]? = some event → (event.halts = true ↔ k + 1 = n)
  /-- A run that fails after `k` steps names the address of the next, has an event for that one
      only if it could be fetched and decoded, and has executed no `HALT`. -/
  fault : ∀ e, ending = .fault e →
    ∃ k ≤ fuel, c.GoesOn k ∧ (c.after k).step.result = .error e ∧
      last = c.after (k + 1) ∧ last.halted = true ∧ e.pc = (c.after k).regs.pc.toInt ∧
      events.length = (if (c.after k).fetch.1.isOk then k + 1 else k) ∧
      ∀ event ∈ events, event.halts = false
  /-- Every event is about a cell of memory, holds the instruction of the word there, and says
      whether its predicate shares an outcome with the condition of that moment. -/
  moments : ∀ k event, events[k]? = some event →
    0 ≤ event.pc ∧ event.pc ≤ 1023 ∧ event.pc = (c.after k).regs.pc.toInt ∧
      event.instr.encode = event.word ∧
      event.executes = event.instr.cond.intersects (c.after k).condition

theorem RunsTo.halts_iff {c last : Cpu β} {fuel n : Nat} {ending : Ending} {events : List Event}
    (h : c.RunsTo fuel ending last events) (running : c.halted = false)
    (halted : ending = .halted n) {k : Nat} {event : Event} (found : events[k]? = some event) :
    event.halts = true ↔ k + 1 = n := by
  obtain ⟨m, rfl, -, before, ok, stopped, -, rfl⟩ := h.of_halted halted
  obtain ⟨inside, here⟩ := before.event_at found
  rcases Nat.lt_or_eq_of_le inside with earlier | rfl
  · rw [before.halts_eq_false earlier here]
    simp only [Bool.false_eq_true, false_iff]
    omega
  · obtain ⟨last_event, there, halts⟩ := step_ok ok
    rw [there, Option.some.injEq] at here
    rw [after_succ, halts, before.halted running, Bool.false_or] at stopped
    rw [← here, stopped]
    simp

theorem wholeRun_of_runsTo [LawfulBus β] {c last : Cpu β} {fuel : Nat} {ending : Ending}
    {events : List Event} (h : c.RunsTo fuel ending last events) (running : c.halted = false) :
    WholeRun c fuel ending last events where
  stops k inside before stop := h.unique (.stopped k inside before stop)
  cutShort := h.of_cutShort
  halted n halted := by
    obtain ⟨k, rfl, inside, before, ok, stopped, rfl, rfl⟩ := h.of_halted halted
    exact ⟨Nat.succ_pos k, inside, before, ok, rfl, stopped, h.length_events halted,
      fun _ _ found => h.halts_iff running halted found⟩
  fault e fault := by
    obtain ⟨k, inside, before, failed, rfl, rfl⟩ := h.of_fault fault
    obtain ⟨pc, halted, no_halt⟩ := step_error failed
    refine ⟨k, inside, before, failed, rfl, ?_, pc, ?_, ?_⟩
    · rw [after_succ, halted]
    · rw [events_succ, List.length_append, before.length_events]
      rcases fetched : (c.after k).fetch with ⟨reason | event, c'⟩
      · rw [step_of_fetch_error fetched]
        rfl
      · rw [step_of_fetch fetched]
        rfl
    · intro event found
      obtain ⟨m, found⟩ := List.mem_iff_getElem?.mp found
      obtain ⟨inside, here⟩ := before.event_at found
      rcases Nat.lt_or_eq_of_le inside with earlier | rfl
      · exact before.halts_eq_false earlier here
      · exact no_halt event here
  moments k event found := by
    obtain ⟨pc, decoded, executes, loaded⟩ := step_event (h.event_at found)
    obtain ⟨low, high⟩ := LawfulBus.inside_of_load loaded
    exact ⟨low, Int.le_of_lt_add_one high, pc, Instr.encode_of_decode decoded, executes⟩

/-- A run is made of steps, and of nothing that was left over from earlier runs: neither the
    program counter nor the halt of a processor reaches into its next run. -/
theorem wholeRun_run [LawfulBus β] (c : Cpu β) (fuel : Nat) (start : Word) :
    WholeRun (c.startAt start) fuel (c.run fuel start).1 (c.run fuel start).2.1
        (c.run fuel start).2.2.toList ∧
      (∀ (halted : Bool) (pc : Word),
        ({ c with halted, regs := c.regs.setPc pc } : Cpu β).run fuel start = c.run fuel start) ∧
      ∀ {σ : Type} (f : Event → σ → σ) (seen : σ),
        c.runObserved fuel start (watching f) seen =
          ((c.run fuel start).1, (c.run fuel start).2.1,
            (c.run fuel start).2.2.toList.foldl (fun seen event => f event seen) seen) := by
  refine ⟨wholeRun_of_runsTo (c.runsTo_run fuel start) rfl, ?_, ?_⟩
  · intro halted pc
    rw [run, run, runObserved, runObserved, startAt, startAt, Registers.setPc_setPc]
  · intro σ f seen
    exact c.runObserved_watching fuel start f seen

/-- A processor that an earlier run has halted, with `HALT` in every cell of its memory. -/
def haltEverywhere : Cpu Memory :=
  let halt : Instr := { op := .halt, target := 0, src1 := 0, src2 := 0 }
  { halted := true, bus := ⟨Vector.replicate memorySize halt.encode⟩ }

/-- This processor with a positive sum at the address 7 and a `HALT/Z` after it. -/
def haltsAtNine : Cpu Memory :=
  let sum : Instr := { op := .add, target := 1, src1 := 0, src2 := 0, offset := 5 }
  let skipped : Instr := { op := .halt, cond := Cond.zero, target := 0, src1 := 0, src2 := 0 }
  let cells := haltEverywhere.bus.cells
  { haltEverywhere with bus := ⟨(cells.set 7 sum.encode).set 8 skipped.encode⟩ }

/-- The sum is executed and the `HALT/Z` skipped before the run ends. -/
theorem wholeRun_run_haltsAtNine :
    (haltsAtNine.run 5 7).1 = .halted 3 ∧
      (haltsAtNine.run 5 7).2.1 = (haltsAtNine.startAt 7).after 3 ∧
      (haltsAtNine.run 5 7).2.2.toList.length = 3 ∧
      (∀ k event, (haltsAtNine.run 5 7).2.2.toList[k]? = some event →
        (event.halts = true ↔ k + 1 = 3)) ∧
      (haltsAtNine.run 2 7).1 = .cutShort ∧
      (haltsAtNine.run 2 7).2.2.toList = (haltsAtNine.startAt 7).events 2 ∧
      ({ haltsAtNine with halted := false, regs := haltsAtNine.regs.setPc 9 } : Cpu Memory).run
        5 7 = haltsAtNine.run 5 7 := by
  have ending : (haltsAtNine.run 5 7).1 = .halted 3 := by decide
  have early : (haltsAtNine.run 2 7).1 = .cutShort := by decide
  obtain ⟨whole, fresh, -⟩ := wholeRun_run haltsAtNine 5 7
  obtain ⟨short, -, -⟩ := wholeRun_run haltsAtNine 2 7
  obtain ⟨-, -, -, -, last, -, length, halts⟩ := whole.halted 3 ending
  exact ⟨ending, last, length, halts, early, (short.cutShort early).2, fresh false 9⟩

end Cpu

end DuckMachine
