import DuckMachine.Command.Directory
import DuckMachine.Proofs.Command.RunFile

/-
  The commands agree on every source.

  Three commands assemble a source: `assemble` writes its object lines, `check` throws them away and
  `run` loads them. All that they go by is the list of the errors of the source and the limit. If
  the list is empty all of them go on; otherwise each ends with the same reports, a status of its
  own as long as the limit is not exceeded, and nothing else (`complaint`). `commands_agree` is the
  table of what they leave behind.
-/

namespace DuckMachine

open Source

/-- The report of an error, if a notice is one. -/
def Notice.report? : Notice → Option Report
  | reported report => some report
  | _ => none

namespace Outcome

/-- The reports among the notices. -/
def reports (o : Outcome) : List Report := o.notices.filterMap Notice.report?

/-- What counts for whoever asked for a command: the exit status, the reports, standard output and
    the file to be written. -/
def summary (o : Outcome) : Nat × List Report × Text × Option (Text × Text) :=
  (o.exit, o.reports, o.stdout, o.saved)

end Outcome

namespace Directory

/-- A file that was written can be read. -/
theorem read?_write (d : Directory) {path text : Text} (file : (name? path).isSome = true) :
    (d.write path text).read? path = some text := by
  obtain ⟨name, named⟩ := Option.isSome_iff_exists.mp file
  have replaced : (d.files.filter (·.1 ≠ name)).lookup name = none := by
    rw [List.lookup_eq_none_iff]
    intro entry kept
    have other : entry.1 ≠ name := by simpa using (List.mem_filter.mp kept).2
    simpa using Ne.symm other
  simp only [write, read?, named, Option.bind_some, List.lookup_append, replaced]
  simp

end Directory

namespace Command

/-! ## Sources -/

/-- The text of a source, from a file or from standard input. -/
def sourceText? (host : Host) : Option Text → Option Text
  | some path => host.readFile path
  | none => decodeUtf8? host.input

/-- The name of a source in reports. -/
def sourceName : Option Text → Text
  | some path => path
  | none => "<stdin>".toList

/-- What is said before a source is assembled. -/
def opening : Option Text → List Notice
  | some path => [.file "Assembling" path]
  | none => []

theorem performAssemble_eq {host : Host} {source : Option Text} {text : Text}
    (read : sourceText? host source = some text) (limit : Nat) (object : Option Text) :
    performAssemble host limit source object =
      (assembleText host limit object (sourceName source) text).after (opening source) := by
  cases source with
  | none =>
    have decoded : decodeUtf8? host.input = some text := read
    rw [performAssemble, decoded]
    rfl
  | some path =>
    have found : host.readFile path = some text := read
    rw [performAssemble, found]
    rfl

/-! ## Sources with errors -/

/-- The reports of all errors of a source. -/
def allReports (name text : Text) : List Report :=
  (errors text.lines).map fun e => e.report name text

/-- The reports that are made under a limit: of all errors, or of one more than the limit and then
    of this. -/
def reportsUnder (limit : Nat) (name text : Text) : List Report :=
  if limit < (errors text.lines).length then
    (allReports name text).take (limit + 1) ++ [LimitExceeded.report ⟨limit + 1, limit⟩]
  else allReports name text

/-- What a command leaves behind for a source with errors, given its status for errors within the
    limit. -/
def complaint (limit failure : Nat) (name text : Text) : Outcome :=
  let count := (errors text.lines).length
  { exit := if limit < count then tooManyErrors else failure
    notices := (reportsUnder limit name text).map Notice.reported ++
      if limit < count then []
      else [.status "Failed" s!"{count} error(s), no object code written".toList] }

theorem assembled_of_wrong {text : Text} (wrong : errors text.lines ≠ []) (limit failure : Nat)
    (name : Text) :
    assembled limit failure name text =
      (.error (complaint limit failure name text).exit,
        (complaint limit failure name text).notices) := by
  rw [assembled, assemble_eq]
  by_cases exceeded : limit < (errors text.lines).length
  · simp [complaint, reportsUnder, allReports, exceeded, List.map_take, Function.comp_def]
  · have all : (errors text.lines).take (limit + 1) = errors text.lines :=
      List.take_of_length_le (by omega)
    simp [complaint, reportsUnder, allReports, exceeded, wrong, all]

theorem summary_complaint (limit failure : Nat) (name text : Text) {notices : List Notice}
    (silent : notices.filterMap Notice.report? = []) :
    ((complaint limit failure name text).after notices).summary =
      (if limit < (errors text.lines).length then tooManyErrors else failure,
        reportsUnder limit name text, [], none) := by
  have listed (reports : List Report) :
      (reports.map Notice.reported).filterMap Notice.report? = reports := by
    rw [List.filterMap_map]
    exact List.filterMap_some
  unfold complaint Outcome.summary Outcome.after Outcome.reports
  dsimp only
  by_cases exceeded : limit < (errors text.lines).length
  · simp [exceeded, silent, listed]
  · simp [exceeded, silent, listed, Notice.report?]

/-- Errors end a run before its first instruction. -/
theorem begins_of_wrong {host : Host} {file text : Text} (read : host.readFile file = some text)
    (source : isSource file = true) (wrong : errors text.lines ≠ []) (limit : Nat) :
    begins host limit file =
      .error ((complaint limit 1 file text).after [.file "Loading" file]) := by
  rw [begins, read]
  simp only [source, if_true, assembled_of_wrong wrong]
  rfl

theorem performCheck_of_wrong {host : Host} {file text : Text}
    (read : host.readFile file = some text) (wrong : errors text.lines ≠ []) (limit : Nat) :
    performCheck host limit file =
      (complaint limit 1 file text).after [.file "Checking" file] := by
  rw [performCheck, read]
  simp only [assembled_of_wrong wrong]
  rfl

theorem assembleText_of_wrong {text : Text} (wrong : errors text.lines ≠ []) (host : Host)
    (limit : Nat) (object : Option Text) (name : Text) :
    assembleText host limit object name text = complaint limit 0 name text := by
  rw [assembleText, assembled_of_wrong wrong]
  rfl

/-- A source without errors is delivered. -/
theorem assembleText_of_clean {text : Text} (clean : Clean text.lines) (host : Host) (limit : Nat)
    (object : Option Text) (name : Text) :
    assembleText host limit object name text = deliver host object (objectLines text.lines) := by
  rw [assembleText, assembled_of_clean clean]
  rfl

/-- A source without errors is loaded. -/
theorem begins_of_clean {host : Host} {file text : Text} (read : host.readFile file = some text)
    (source : isSource file = true) (clean : Clean text.lines) (limit : Nat) :
    begins host limit file =
      place file text [.file "Loading" file] (objectLines text.lines) := by
  rw [begins, read]
  simp only [source, if_true, assembled_of_clean clean]

/-! ## The table -/

/-- How the commands agree on a source with this text, given the limit as an option. -/
structure Agreement (host : Host) (flag : Option Nat) (text : Text) : Prop where
  /-- The errors are those that are found under a limit which they do not exceed. -/
  listed : ∀ limit, (errors text.lines).length ≤ limit →
    (DuckMachine.assemble text { limit }).2.errors = errors text.lines
  /-- Without errors `check` is content, `assemble` delivers the object lines, each with a line
      feed, and `run` loads them. -/
  clean : (errors text.lines).length = 0 →
    ∃ (lines : List Text) (words : List Word) (written : Text),
    (∀ limit, (DuckMachine.assemble text { limit }).1 = .ok (some lines)) ∧
    Object.load lines = .ok words ∧ written = List.intercalate ['\n'] lines ++ ['\n'] ∧
    (∀ file fuel, host.readFile file = some text →
      (perform fuel host (.check file flag)).map Outcome.summary = some (0, [], [], none)) ∧
    (∀ source fuel, sourceText? host source = some text →
      (perform fuel host (.assemble source none flag)).map Outcome.summary =
          some (0, [], written, none) ∧
        ∀ dest, host.writable dest = true →
          (perform fuel host (.assemble source (some dest) flag)).map Outcome.summary =
              some (0, [], [], some (dest, written)) ∧
            ∀ (d : Directory) (o : Outcome), (Directory.name? dest).isSome = true →
              perform fuel host (.assemble source (some dest) flag) = some o →
                (d.afterOutcome o).read? dest = some written) ∧
    ∀ file options fuel, host.readFile file = some text → isSource file = true →
      perform fuel host (.run file options) =
        match Memory.ofProgram words with
        | .error fault =>
          some ((Outcome.failed (.tooLarge fault)).after [.file "Loading" file])
        | .ok memory =>
          (Session.run fuel file host.input (runSettings host options).trace options memory).map
            (Outcome.after [.file "Loading" file, .status "Running" "loaded program".toList])
  /-- Errors within the limit are all reported, and make `check` and `run` fail. -/
  within : 0 < (errors text.lines).length →
    (errors text.lines).length ≤ effectiveLimit host flag →
    (∀ name, (allReports name text).length = (errors text.lines).length) ∧
    (∀ file fuel, host.readFile file = some text →
      (perform fuel host (.check file flag)).map Outcome.summary =
        some (1, allReports file text, [], none)) ∧
    (∀ file options fuel, host.readFile file = some text → isSource file = true →
      options.errorLimit = flag →
      (perform fuel host (.run file options)).map Outcome.summary =
        some (1, allReports file text, [], none)) ∧
    ∀ source object fuel, sourceText? host source = some text →
      (perform fuel host (.assemble source object flag)).map Outcome.summary =
        some (0, allReports (sourceName source) text, [], none)
  /-- One error more than the limit is reported, and then the limit. -/
  beyond : effectiveLimit host flag < (errors text.lines).length →
    (∀ name, reportsUnder (effectiveLimit host flag) name text =
        (allReports name text).take (effectiveLimit host flag + 1) ++
          [LimitExceeded.report ⟨effectiveLimit host flag + 1, effectiveLimit host flag⟩] ∧
      ((allReports name text).take (effectiveLimit host flag + 1)).length =
        effectiveLimit host flag + 1) ∧
    (∀ file fuel, host.readFile file = some text →
      (perform fuel host (.check file flag)).map Outcome.summary =
        some (2, reportsUnder (effectiveLimit host flag) file text, [], none)) ∧
    (∀ file options fuel, host.readFile file = some text → isSource file = true →
      options.errorLimit = flag →
      (perform fuel host (.run file options)).map Outcome.summary =
        some (2, reportsUnder (effectiveLimit host flag) file text, [], none)) ∧
    ∀ source object fuel, sourceText? host source = some text →
      (perform fuel host (.assemble source object flag)).map Outcome.summary =
        some (2, reportsUnder (effectiveLimit host flag) (sourceName source) text, [], none)
  /-- With errors a run does not come as far as its first instruction. -/
  idle : 0 < (errors text.lines).length → ∀ file, host.readFile file = some text →
    isSource file = true → ∃ o, begins host (effectiveLimit host flag) file = .error o ∧
      ∀ options fuel input, options.errorLimit = flag →
        perform fuel { host with input } (.run file options) = some o

section

variable {host : Host} {flag : Option Nat} {text : Text}

theorem perform_check (fuel : Nat) (host : Host) (file : Text) (flag : Option Nat) :
    perform fuel host (.check file flag) =
      some (performCheck host (effectiveLimit host flag) file) := by
  rw [perform, errorLimit_withErrorLimit]

theorem perform_assemble (fuel : Nat) (host : Host) (source object : Option Text)
    (flag : Option Nat) :
    perform fuel host (.assemble source object flag) =
      some (performAssemble host (effectiveLimit host flag) source object) := by
  rw [perform, errorLimit_withErrorLimit]

/-- The three commands complain of the same errors. -/
theorem summary_of_wrong (wrong : errors text.lines ≠ []) (fuel : Nat) :
    (∀ file, host.readFile file = some text →
      (perform fuel host (.check file flag)).map Outcome.summary =
        some (if effectiveLimit host flag < (errors text.lines).length then tooManyErrors else 1,
          reportsUnder (effectiveLimit host flag) file text, [], none)) ∧
    (∀ file options, host.readFile file = some text → isSource file = true →
      options.errorLimit = flag →
      (perform fuel host (.run file options)).map Outcome.summary =
        some (if effectiveLimit host flag < (errors text.lines).length then tooManyErrors else 1,
          reportsUnder (effectiveLimit host flag) file text, [], none)) ∧
    ∀ source object, sourceText? host source = some text →
      (perform fuel host (.assemble source object flag)).map Outcome.summary =
        some (if effectiveLimit host flag < (errors text.lines).length then tooManyErrors else 0,
          reportsUnder (effectiveLimit host flag) (sourceName source) text, [], none) := by
  refine ⟨?_, ?_, ?_⟩
  · intro file read
    rw [perform_check, performCheck_of_wrong read wrong]
    exact congrArg some (summary_complaint _ 1 file text rfl)
  · rintro file options read source rfl
    rw [perform_run_of_error fuel host file options (begins_of_wrong read source wrong _)]
    exact congrArg some (summary_complaint _ 1 file text rfl)
  · intro source object read
    rw [perform_assemble, performAssemble_eq read, assembleText_of_wrong wrong]
    refine congrArg some (summary_complaint _ 0 _ text ?_)
    cases source <;> rfl

end

/-- The commands agree on every source, under every limit and whatever they are told to do with its
    object code. -/
theorem commands_agree (host : Host) (flag : Option Nat) (text : Text) :
    Agreement host flag text := by
  refine { listed := ?listed, clean := ?clean, within := ?within, beyond := ?beyond, idle := ?idle }
  case listed =>
    intro limit fits
    rw [assemble_eq]
    exact List.take_of_length_le (by omega)
  case clean =>
    intro none_
    have clean : Clean text.lines := clean_iff.mpr (List.length_eq_zero_iff.mp none_)
    have assembled (limit : Nat) :
        (DuckMachine.assemble text { limit }).1 = .ok (some (objectLines text.lines)) := by
      rw [assemble_of_clean clean]
    obtain ⟨-, words, loaded, -⟩ := denoted_of_assemble (assembled 0)
    refine ⟨objectLines text.lines, words, Object.fileText (objectLines text.lines), assembled,
      loaded, rfl, ?_, ?_, ?_⟩
    · intro file fuel read
      rw [perform_check, performCheck, read]
      simp only [assembled_of_clean clean]
      rfl
    · intro source fuel read
      simp only [perform_assemble, performAssemble_eq read, assembleText_of_clean clean]
      refine ⟨?_, fun dest writable => ⟨?_, ?_⟩⟩
      · cases source <;> rfl
      · simp only [deliver, if_pos writable]
        cases source <;> rfl
      · intro d o file done
        obtain rfl := Option.some.inj done
        simp only [deliver, if_pos writable]
        exact d.read?_write file
    · intro file options fuel read source
      rw [perform_run, performRun_eq, begins_of_clean read source clean, place, loaded]
      dsimp only
      cases Memory.ofProgram words <;> rfl
  case within =>
    intro some_ fits
    have wrong : errors text.lines ≠ [] := List.length_pos_iff.mp some_
    have small : ¬effectiveLimit host flag < (errors text.lines).length := Nat.not_lt.mpr fits
    have each (fuel : Nat) := @summary_of_wrong host flag text wrong fuel
    simp only [reportsUnder, if_neg small] at each
    exact ⟨fun name => List.length_map _, fun file fuel => (each fuel).1 file,
      fun file options fuel => (each fuel).2.1 file options,
      fun source object fuel => (each fuel).2.2 source object⟩
  case beyond =>
    intro exceeded
    have wrong : errors text.lines ≠ [] := List.length_pos_iff.mp (Nat.zero_lt_of_lt exceeded)
    have each (fuel : Nat) := @summary_of_wrong host flag text wrong fuel
    simp only [if_pos exceeded] at each
    refine ⟨?_, fun file fuel => (each fuel).1 file,
      fun file options fuel => (each fuel).2.1 file options,
      fun source object fuel => (each fuel).2.2 source object⟩
    intro name
    refine ⟨if_pos exceeded, ?_⟩
    rw [List.length_take, allReports, List.length_map]
    omega
  case idle =>
    intro some_ file read source
    have wrong : errors text.lines ≠ [] := List.length_pos_iff.mp some_
    have given_up := begins_of_wrong read source wrong (effectiveLimit host flag)
    refine ⟨_, given_up, ?_⟩
    rintro options fuel input rfl
    exact perform_run_of_error fuel { host with input } file options given_up

/-- A host with a source that has two errors and one that has none, where one error is allowed. -/
def lostJumpsHost : Host where
  readFile path :=
    if path = "lost.asm".toList then some lostJumps
    else if path = "back.asm".toList then some jumpBack
    else none
  present _ := true
  writable _ := true
  input := []
  environment name := if name = "DUCK_ERROR_LIMIT" then some ['1'] else none

/-- The object text of the source without errors. -/
def jumpBackText : Text := "n: DATA 7\nADD r15,r0,r15[-1]\n".toList

theorem commands_agree_lostJumpsHost :
    (perform 0 lostJumpsHost (.check "lost.asm".toList none)).map Outcome.summary =
      some (2, reportsUnder 1 "lost.asm".toList lostJumps, [], none) ∧
    (perform 0 lostJumpsHost (.assemble (some "lost.asm".toList) none (some 2))).map
      Outcome.summary = some (0, allReports "lost.asm".toList lostJumps, [], none) ∧
    (perform 0 lostJumpsHost (.run "lost.asm".toList { errorLimit := some 2 })).map
      Outcome.summary = some (1, allReports "lost.asm".toList lostJumps, [], none) ∧
    (perform 0 lostJumpsHost (.check "back.asm".toList none)).map Outcome.summary =
      some (0, [], [], none) ∧
    (perform 0 lostJumpsHost (.assemble (some "back.asm".toList) none none)).map
      Outcome.summary = some (0, [], jumpBackText, none) ∧
    ∃ o, perform 0 lostJumpsHost (.assemble (some "back.asm".toList) (some "back.o".toList) none) =
        some o ∧
      o.summary = (0, [], [], some ("back.o".toList, jumpBackText)) ∧
      (Directory.afterOutcome {} o).read? "back.o".toList = some jumpBackText := by
  have two : (errors lostJumps.lines).length = 2 := by decide
  have no_error : (errors jumpBack.lines).length = 0 := by decide
  have one : effectiveLimit lostJumpsHost none = 1 := by decide
  have source : isSource "lost.asm".toList = true := by decide
  have object : (DuckMachine.assemble jumpBack { limit := 0 }).1 =
      .ok (some ["n: DATA 7".toList, "ADD r15,r0,r15[-1]".toList]) := by decide
  have beyond := (commands_agree lostJumpsHost none lostJumps).beyond (by omega)
  have within := (commands_agree lostJumpsHost (some 2) lostJumps).within (by omega)
    (Nat.le_of_eq two)
  rw [one] at beyond
  obtain ⟨lines, words, _, assembled, -, rfl, check, delivered, -⟩ :=
    (commands_agree lostJumpsHost none jumpBack).clean no_error
  obtain rfl : ["n: DATA 7".toList, "ADD r15,r0,r15[-1]".toList] = lines :=
    Option.some.inj (Except.ok.inj (object.symm.trans (assembled 0)))
  obtain ⟨printed, files⟩ := delivered (some "back.asm".toList) 0 rfl
  obtain ⟨saved, stored⟩ := files "back.o".toList rfl
  obtain ⟨o, done, summary⟩ := Option.map_eq_some_iff.mp saved
  exact ⟨beyond.2.1 _ 0 rfl, within.2.2.2 (some "lost.asm".toList) none 0 rfl,
    within.2.2.1 _ { errorLimit := some 2 } 0 rfl source rfl, check _ 0 rfl, printed,
    o, done, summary, stored {} o (by decide) done⟩

end Command

end DuckMachine
