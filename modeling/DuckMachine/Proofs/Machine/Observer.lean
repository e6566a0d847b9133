import DuckMachine.Proofs.Machine.Refinement

/-
  Runs under observers that act on the bus.

  A run touches its bus by loads, by stores and through its observer, and in no other way. So a
  property that all three keep holds at the end of a run if it held at its beginning (`loop_keeps`),
  and a map that carries all three over to another bus carries over the whole run (`loop_map`). Such
  a map need not carry over everything: it is enough that it does so wherever the bus is on its way
  to the end of this run, which is said by a property that goes back from the end (`Bus.Tracks`).
-/

namespace DuckMachine

namespace Bus

variable {β γ : Type} [Bus β] [Bus γ]

/-- Whether a property of a bus is kept by every load and every store. -/
structure Keeps (P : β → Prop) : Prop where
  load (address : Int) {b : β} (h : P b) : P (Bus.load address b).2
  store (address : Int) (w : Word) {b : β} (h : P b) : P (Bus.store address w b).2

/-- Whether a map between buses carries over every load and every store after which a property
    holds, and this property goes back over them. -/
structure Tracks (f : β → γ) (P : β → Prop) : Prop where
  load (address : Int) {b : β} (h : P (Bus.load address b).2) :
    P b ∧ Bus.load address (f b) = ((Bus.load address b).1, f (Bus.load address b).2)
  store (address : Int) (w : Word) {b : β} (h : P (Bus.store address w b).2) :
    P b ∧ Bus.store address w (f b) = ((Bus.store address w b).1, f (Bus.store address w b).2)

theorem CarriesAll.tracks {f : β → γ} (carries : CarriesAll f) : Tracks f fun _ => True where
  load _ b _ := ⟨trivial, carries.load trivial b⟩
  store _ w b _ := ⟨trivial, carries.store trivial w b⟩

end Bus

namespace Cpu

variable {β γ σ τ : Type} [Bus β] [Bus γ]

/-! ## The bus in a step -/

theorem fetch_bus (c : Cpu β) : c.fetch.2.bus = (Bus.load c.regs.pc.toInt c.bus).2 := by
  unfold fetch
  rcases loaded : Bus.load c.regs.pc.toInt c.bus with ⟨fault | word, bus⟩
  · simp only [loaded, fail]
  · simp only [loaded]
    cases Instr.decode word <;> rfl

/-- The second half of a step makes one access at most. -/
theorem execute_bus (c : Cpu β) (event : Event) :
    (c.execute event).2.bus = c.bus ∨
      (∃ address, (c.execute event).2.bus = (Bus.load address c.bus).2) ∨
      ∃ address w, (c.execute event).2.bus = (Bus.store address w c.bus).2 := by
  cases executes : event.executes with
  | false =>
    rw [execute_of_skips _ executes]
    exact .inl rfl
  | true =>
    rw [execute_of_executes _ executes]
    rcases c.compute event.instr with fault | ⟨result, condition⟩
    · exact .inl rfl
    · unfold complete
      cases event.instr.op with
      | load =>
        refine .inr (.inl ⟨result.toInt, ?_⟩)
        dsimp only
        rcases Bus.load result.toInt c.bus with ⟨fault | w, bus⟩ <;> rfl
      | store =>
        refine .inr (.inr ⟨result.toInt, c.regs.stepPc.get event.instr.target, ?_⟩)
        dsimp only
        rcases Bus.store result.toInt (c.regs.stepPc.get event.instr.target) c.bus with
          ⟨fault | w, bus⟩ <;> rfl
      | _ => exact .inl rfl

/-! ## What is kept -/

section Kept

variable {P : β → Prop}

theorem fetch_keeps (keeps : Bus.Keeps P) {c : Cpu β} (h : P c.bus) : P c.fetch.2.bus := by
  rw [fetch_bus]
  exact keeps.load _ h

theorem execute_keeps (keeps : Bus.Keeps P) {c : Cpu β} (h : P c.bus) (event : Event) :
    P (c.execute event).2.bus := by
  rcases c.execute_bus event with same | ⟨address, load⟩ | ⟨address, w, store⟩
  · rw [same]
    exact h
  · rw [load]
    exact keeps.load address h
  · rw [store]
    exact keeps.store address w h

theorem step_keeps (keeps : Bus.Keeps P) {c : Cpu β} (h : P c.bus) : P c.step.cpu.bus := by
  have kept := fetch_keeps keeps h
  rcases fetched : c.fetch with ⟨e | event, c'⟩
  · rw [step_of_fetch_error fetched]
    rwa [fetched] at kept
  · rw [step_of_fetch fetched]
    rw [fetched] at kept
    exact execute_keeps keeps kept event

theorem after_keeps (keeps : Bus.Keeps P) {c : Cpu β} (h : P c.bus) (n : Nat) :
    P (c.after n).bus := by
  induction n with
  | zero => exact h
  | succ n ih =>
    rw [after_succ]
    exact step_keeps keeps ih

end Kept

/-- What loads, stores and the observer keep, a run keeps. The observer comes after the fetch of the
    instruction that it is shown. -/
theorem loop_keeps {J : β → σ → Prop} {observe : Event → β × σ → β × σ}
    (keeps : ∀ seen, Bus.Keeps fun b => J b seen)
    (observed : ∀ event b fetched seen, J b seen →
      Bus.load event.pc b = (.ok event.word, fetched) →
      J (observe event (fetched, seen)).1 (observe event (fetched, seen)).2)
    (fuel steps : Nat) {c : Cpu β} {seen : σ} (h : J c.bus seen) :
    J (c.loop observe fuel steps seen).2.1.bus (c.loop observe fuel steps seen).2.2 := by
  induction fuel generalizing steps c seen with
  | zero =>
    have kept := fetch_keeps (keeps seen) h
    rcases fetched : c.fetch with ⟨e | event, c'⟩
    · rw [loop_of_fetch_error fetched]
      rwa [fetched] at kept
    · rw [loop_zero fetched]
      rwa [fetched] at kept
  | succ fuel ih =>
    rcases fetched : c.fetch with ⟨e | event, c'⟩
    · have kept := fetch_keeps (keeps seen) h
      rw [loop_of_fetch_error fetched]
      rwa [fetched] at kept
    · obtain ⟨bus, met, rfl⟩ := meets_of_fetch fetched
      have loaded := met.load
      rw [← met.pc] at loaded
      have done := execute_keeps (keeps _) (c := { c with bus := _ })
        (observed event c.bus bus seen h loaded) event
      rw [loop_succ fetched]
      rcases executed : ({ c with bus := (observe event (bus, seen)).1 } : Cpu β).execute event with
        ⟨e | _, last⟩
      · rw [executed] at done
        exact done
      · rw [executed] at done
        by_cases halted : last.halted = true
        · simp only [onward, halted, if_true]
          exact done
        · simp only [onward, halted]
          exact ih (steps + 1) done

theorem runObserved_keeps {J : β → σ → Prop} (observe : Event → β × σ → β × σ)
    (keeps : ∀ seen, Bus.Keeps fun b => J b seen)
    (observed : ∀ event b fetched seen, J b seen →
      Bus.load event.pc b = (.ok event.word, fetched) →
      J (observe event (fetched, seen)).1 (observe event (fetched, seen)).2)
    (c : Cpu β) (fuel : Nat) (start : Word) (seen : σ) (h : J c.bus seen) :
    J (c.runObserved fuel start observe seen).2.1.bus (c.runObserved fuel start observe seen).2.2 :=
  loop_keeps keeps observed fuel 0 h

/-! ## What is carried over -/

section Carried

variable {f : β → γ} {P : β → Prop}

theorem fetch_track (tracks : Bus.Tracks f P) {c : Cpu β} (h : P c.fetch.2.bus) :
    P c.bus ∧ (c.mapBus f).fetch = (c.fetch.1, c.fetch.2.mapBus f) := by
  rw [fetch_bus] at h
  obtain ⟨before, carried⟩ := tracks.load _ h
  exact ⟨before, fetch_mapBus_of_load carried⟩

theorem complete_track (tracks : Bus.Tracks f P) {c : Cpu β} {pc : Int} {i : Instr} {result : Word}
    (h : P (c.complete pc i result).2.bus) :
    P c.bus ∧ (c.mapBus f).complete pc i result =
      ((c.complete pc i result).1, (c.complete pc i result).2.mapBus f) := by
  unfold complete at h ⊢
  cases op : i.op with
  | load =>
    simp only [op] at h ⊢
    have onward : P (Bus.load result.toInt c.bus).2 := by
      rcases loaded : Bus.load result.toInt c.bus with ⟨fault | w, bus⟩
      · rw [loaded] at h
        exact h
      · rw [loaded] at h
        exact h
    obtain ⟨before, carried⟩ := tracks.load _ onward
    refine ⟨before, ?_⟩
    have carried' : Bus.load result.toInt (c.mapBus f).bus = _ := carried
    rw [carried']
    rcases Bus.load result.toInt c.bus with ⟨fault | w, bus⟩ <;> rfl
  | store =>
    simp only [op] at h ⊢
    have onward : P (Bus.store result.toInt (c.regs.get i.target) c.bus).2 := by
      rcases stored : Bus.store result.toInt (c.regs.get i.target) c.bus with ⟨fault | w, bus⟩
      · rw [stored] at h
        exact h
      · rw [stored] at h
        exact h
    obtain ⟨before, carried⟩ := tracks.store _ _ onward
    refine ⟨before, ?_⟩
    have carried' : Bus.store result.toInt ((c.mapBus f).regs.get i.target) (c.mapBus f).bus = _ :=
      carried
    rw [carried']
    rcases Bus.store result.toInt (c.regs.get i.target) c.bus with ⟨fault | w, bus⟩ <;> rfl
  | _ =>
    simp only [op] at h ⊢
    exact ⟨h, rfl⟩

theorem execute_track (tracks : Bus.Tracks f P) {c : Cpu β} {event : Event}
    (h : P (c.execute event).2.bus) :
    P c.bus ∧ (c.mapBus f).execute event =
      ((c.execute event).1, (c.execute event).2.mapBus f) := by
  cases executes : event.executes with
  | false =>
    rw [execute_of_skips _ executes] at h ⊢
    rw [execute_of_skips _ executes]
    exact ⟨h, rfl⟩
  | true =>
    have same : (c.mapBus f).compute event.instr = c.compute event.instr := rfl
    rw [execute_of_executes _ executes] at h ⊢
    rw [execute_of_executes _ executes, same]
    cases computed : c.compute event.instr with
    | error fault =>
      rw [computed] at h
      exact ⟨h, rfl⟩
    | ok settled =>
      rw [computed] at h
      exact complete_track tracks h

variable {g : σ → τ} {observe : Event → β × σ → β × σ} {observe' : Event → γ × τ → γ × τ}

/-- One turn of the loop is carried over. -/
theorem loop_succ_map (tracks : Bus.Tracks f P)
    (observed : ∀ event b seen, P (observe event (b, seen)).1 →
      P b ∧ observe' event (f b, g seen) =
        (f (observe event (b, seen)).1, g (observe event (b, seen)).2))
    {c fetched last : Cpu β} {event : Event} {seen : σ} {result : Except RunError Unit}
    (hf : c.fetch = (.ok event, fetched))
    (he : ({ fetched with bus := (observe event (fetched.bus, seen)).1 } : Cpu β).execute event =
      (result, last))
    (h : P last.bus) (fuel steps : Nat) :
    P c.bus ∧ (c.mapBus f).loop observe' (fuel + 1) steps (g seen) =
      onward observe' fuel steps (result, last.mapBus f)
        (g (observe event (fetched.bus, seen)).2) := by
  have done : P (({ fetched with bus := (observe event (fetched.bus, seen)).1 } : Cpu β).execute
      event).2.bus := by
    rwa [he]
  obtain ⟨shown, execute⟩ := execute_track tracks done
  obtain ⟨loaded, observe⟩ := observed event fetched.bus seen shown
  obtain ⟨before, fetch⟩ := fetch_track tracks (c := c) (by rwa [hf])
  refine ⟨before, ?_⟩
  rw [hf] at fetch
  rw [he] at execute
  rw [loop_succ fetch, show (fetched.mapBus f).bus = f fetched.bus from rfl, observe]
  exact congrArg (fun ended => onward observe' fuel steps ended _) execute

/-- A run comes to the same end on both buses, if the observers correspond. -/
theorem loop_map (tracks : Bus.Tracks f P)
    (observed : ∀ event b seen, P (observe event (b, seen)).1 →
      P b ∧ observe' event (f b, g seen) =
        (f (observe event (b, seen)).1, g (observe event (b, seen)).2))
    (fuel steps : Nat) {c : Cpu β} {seen : σ} (h : P (c.loop observe fuel steps seen).2.1.bus) :
    P c.bus ∧ (c.mapBus f).loop observe' fuel steps (g seen) =
      ((c.loop observe fuel steps seen).1, (c.loop observe fuel steps seen).2.1.mapBus f,
        g (c.loop observe fuel steps seen).2.2) := by
  have failing {c c' : Cpu β} {e : RunError} (fetched : c.fetch = (.error e, c')) (h : P c'.bus) :
      P c.bus ∧ (c.mapBus f).fetch = (.error e, c'.mapBus f) := by
    obtain ⟨before, carried⟩ := fetch_track tracks (c := c) (by rwa [fetched])
    rw [fetched] at carried
    exact ⟨before, carried⟩
  induction fuel generalizing steps c seen with
  | zero =>
    rcases fetched : c.fetch with ⟨e | event, c'⟩
    · rw [loop_of_fetch_error fetched] at h ⊢
      obtain ⟨before, carried⟩ := failing fetched h
      exact ⟨before, loop_of_fetch_error carried _ _ _ _⟩
    · rw [loop_zero fetched] at h ⊢
      obtain ⟨before, carried⟩ := fetch_track tracks (c := c) (by rwa [fetched])
      rw [fetched] at carried
      exact ⟨before, loop_zero carried _ _ _⟩
  | succ fuel ih =>
    rcases fetched : c.fetch with ⟨e | event, c'⟩
    · rw [loop_of_fetch_error fetched] at h ⊢
      obtain ⟨before, carried⟩ := failing fetched h
      exact ⟨before, loop_of_fetch_error carried _ _ _ _⟩
    · rw [loop_succ fetched] at h ⊢
      rcases executed : ({ c' with bus := (observe event (c'.bus, seen)).1 } : Cpu β).execute event
        with ⟨e | _, last⟩
      · rw [executed] at h
        exact loop_succ_map tracks observed fetched executed h fuel steps
      · rw [executed] at h
        by_cases halted : last.halted = true
        · simp only [onward, halted, if_true] at h ⊢
          obtain ⟨before, turn⟩ := loop_succ_map tracks observed fetched executed h fuel steps
          exact ⟨before, turn.trans (if_pos halted)⟩
        · simp only [onward, halted] at h ⊢
          obtain ⟨before, rest⟩ := ih (steps + 1) h
          obtain ⟨before, turn⟩ := loop_succ_map tracks observed fetched executed before fuel steps
          exact ⟨before, turn.trans ((if_neg halted).trans rest)⟩

theorem runObserved_map (tracks : Bus.Tracks f P) (observe : Event → β × σ → β × σ)
    (observe' : Event → γ × τ → γ × τ)
    (observed : ∀ event b seen, P (observe event (b, seen)).1 →
      P b ∧ observe' event (f b, g seen) =
        (f (observe event (b, seen)).1, g (observe event (b, seen)).2))
    (c : Cpu β) (fuel : Nat) (start : Word) (seen : σ)
    (h : P (c.runObserved fuel start observe seen).2.1.bus) :
    (c.mapBus f).runObserved fuel start observe' (g seen) =
      ((c.runObserved fuel start observe seen).1,
        (c.runObserved fuel start observe seen).2.1.mapBus f,
        g (c.runObserved fuel start observe seen).2.2) :=
  (loop_map tracks observed fuel 0 h).2

/-- Observers that do the same to the bus lead to the same run. -/
theorem runObserved_mapSeen (observe : Event → β × σ → β × σ) (observe' : Event → β × τ → β × τ)
    (observed : ∀ event b seen, observe' event (b, g seen) =
      ((observe event (b, seen)).1, g (observe event (b, seen)).2))
    (c : Cpu β) (fuel : Nat) (start : Word) (seen : σ) :
    c.runObserved fuel start observe' (g seen) =
      ((c.runObserved fuel start observe seen).1, (c.runObserved fuel start observe seen).2.1,
        g (c.runObserved fuel start observe seen).2.2) := by
  have carries : Bus.CarriesAll (id : β → β) := ⟨fun _ _ => rfl, fun _ _ _ => rfl⟩
  exact runObserved_map carries.tracks observe observe'
    (fun event b seen _ => ⟨trivial, observed event b seen⟩) c fuel start seen trivial

end Carried

end Cpu

end DuckMachine
