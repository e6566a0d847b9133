import DuckMachine.Command.Basic
import DuckMachine.Command.Settings

/-
  Arguments: the command that the words of a command line ask for.

  Options may stand before, between and after operands; `--` ends them. Switches of one letter can
  be written together, and the value of an option stands in the next argument or is attached to
  its name, with or without an equals sign. An argument that begins with a hyphen is never taken
  as the value of the option before it. No option may be given twice.
-/

namespace DuckMachine

namespace Arguments

/-- The options of the commands. -/
inductive Flag where
  | trace
  | minimal
  | start
  | step
  | errorLimit
  | help
  deriving DecidableEq, Repr

namespace Flag

/-- All options. -/
def all : List Flag := [trace, minimal, start, step, errorLimit, help]

/-- The letter of an option. -/
def letter : Flag → Char
  | trace => 't'
  | minimal => 'm'
  | start => 'f'
  | step => 's'
  | errorLimit => 'e'
  | help => 'h'

/-- The long name of an option. -/
def longName : Flag → String
  | trace => "trace"
  | minimal => "minimal"
  | start => "from"
  | step => "step"
  | errorLimit => "error-limit"
  | help => "help"

/-- Whether an option needs a value. -/
def takesValue : Flag → Bool
  | start | errorLimit => true
  | _ => false

end Flag

/-- The options that a command has and how many operands it takes at most. -/
structure Usage where
  flags : List Flag
  operands : Nat

/-- What the arguments have said so far. -/
structure Given where
  operands : List Text := []
  switches : List Flag := []
  start : Option Word := none
  errorLimit : Option Nat := none

namespace Given

/-- One more operand. An operand is the name of a file and cannot be empty. -/
def operand (u : Usage) (g : Given) (text : Text) : Except Interruption Given :=
  if text = [] ∨ g.operands.length ≥ u.operands then .error .misuse
  else .ok { g with operands := g.operands ++ [text] }

/-- One more option without a value. -/
def switch (g : Given) (flag : Flag) : Except Interruption Given :=
  if flag = .help then .error .help
  else if flag ∈ g.switches then .error .misuse
  else .ok { g with switches := flag :: g.switches }

/-- A written start address. -/
def startAddress? (text : Text) : Option Word :=
  ((Numeral.signed? text).filter fun n => -0x80000000 ≤ n ∧ n < 0x80000000).map Word.ofInt

/-- One more option with its value. -/
def value (g : Given) (flag : Flag) (text : Text) : Except Interruption Given :=
  match flag, g.start, g.errorLimit with
  | .start, none, _ =>
    match startAddress? text with
    | some start => .ok { g with start }
    | none => .error .misuse
  | .errorLimit, _, none =>
    match errorLimit? text with
    | some limit => .ok { g with errorLimit := limit }
    | none => .error .misuse
  | _, _, _ => .error .misuse

/-- The options after a single hyphen, and the one among them that still needs its value. -/
def letters (u : Usage) (g : Given) : Text → Except Interruption (Given × Option Flag)
  | [] => .ok (g, none)
  | c :: rest =>
    match u.flags.find? (·.letter = c) with
    | none => .error .misuse
    | some flag =>
      if flag.takesValue then
        match rest with
        | [] => .ok (g, some flag)
        | '=' :: text => (g.value flag text).map (·, none)
        | text => (g.value flag text).map (·, none)
      else
        match g.switch flag with
        | .ok g => letters u g rest
        | .error stop => .error stop

/-- The option after two hyphens, and whether it still needs its value. -/
def long (u : Usage) (g : Given) (text : Text) : Except Interruption (Given × Option Flag) :=
  let (name, rest) := text.cutAt (· = '=')
  match u.flags.find? (·.longName.toList = name), rest with
  | none, _ => .error .misuse
  | some flag, [] =>
    if flag.takesValue then .ok (g, some flag) else (g.switch flag).map (·, none)
  | some flag, _ :: value =>
    if flag.takesValue then (g.value flag value).map (·, none) else .error .misuse

/-- What the arguments of a command say, after what has been said, when an option may still need
    its value. -/
def read (u : Usage) (g : Given) (waiting : Option Flag) : List Text → Except Interruption Given
  | [] => if waiting.isSome then .error .misuse else .ok g
  | text :: rest =>
    match waiting, text with
    | some _, '-' :: _ :: _ => .error .misuse
    | some flag, text => (g.value flag text).bind fun g => read u g none rest
    | none, ['-', '-'] => rest.foldlM (operand u) g
    | none, '-' :: '-' :: name => (g.long u name).bind fun (g, waiting) => read u g waiting rest
    | none, '-' :: c :: more =>
      (g.letters u (c :: more)).bind fun (g, waiting) => read u g waiting rest
    | none, text => (g.operand u text).bind fun g => read u g none rest

/-- The options of a run. -/
def runOptions (g : Given) : RunOptions :=
  { trace := .trace ∈ g.switches, minimal := .minimal ∈ g.switches, step := .step ∈ g.switches
    start := g.start.getD 0, errorLimit := g.errorLimit }

end Given

/-- The commands that have a name. -/
inductive Verb where
  | assemble
  | run
  | check
  | watch
  | help
  deriving DecidableEq, Repr

namespace Verb

/-- The command with this name. -/
def ofName? (name : Text) : Option Verb :=
  [("assemble".toList, assemble), ("run".toList, run), ("check".toList, check),
    ("watch".toList, watch), ("help".toList, help)].lookup name

/-- What a command allows after its name. -/
def usage : Verb → Usage
  | assemble => ⟨[.errorLimit, .help], 2⟩
  | run => ⟨Flag.all, 1⟩
  | check => ⟨[.errorLimit, .help], 1⟩
  | watch => ⟨[.help], 1⟩
  | help => ⟨[], 0⟩

/-- The command that the arguments after its name ask for. -/
def command (verb : Verb) (g : Given) : Except Interruption Command :=
  match verb, g.operands with
  | assemble, operands => .ok (.assemble operands[0]? operands[1]? g.errorLimit)
  | run, [file] => .ok (.run file g.runOptions)
  | check, [file] => .ok (.check file g.errorLimit)
  | watch, [file] => .ok (.watch file)
  | _, _ => .error .misuse

/-- What `help` leads to. It can be followed by the name of one command and by nothing else. -/
def helpAbout : List Text → Interruption
  | [] => .help
  | [name] => if (ofName? name).isSome then .help else .misuse
  | _ => .misuse

/-- The command with this name and these arguments. -/
def read (verb : Verb) (arguments : List Text) : Except Interruption Command :=
  if verb = help then .error (helpAbout arguments)
  else (Given.read verb.usage {} none arguments).bind verb.command

end Verb

/-- The command for a file named without a command: a plain run, or the banner without a file. -/
def plain : Option Text → Command
  | some file => .run file {}
  | none => .banner

/-- A file named where at most one may be. -/
def fileOnce (file : Option Text) (text : Text) : Except Interruption (Option Text) :=
  if text = [] ∨ file.isSome then .error .misuse else .ok (some text)

/-- The command that arguments ask for, after a file may have been named. -/
def readAfter (file : Option Text) : List Text → Except Interruption Command
  | [] => .ok (plain file)
  | text :: rest =>
    match Verb.ofName? text with
    | some verb => verb.read rest
    | none =>
      match text with
      | ['-', '-'] => (rest.foldlM fileOnce file).map plain
      | '-' :: '-' :: name =>
        if name = "version".toList then .error .version
        else if name = "help".toList then .error .help
        else .error .misuse
      | '-' :: 'V' :: _ => .error .version
      | '-' :: 'h' :: _ => .error .help
      | '-' :: _ :: _ => .error .misuse
      | name => (fileOnce file name).bind fun file => readAfter file rest

end Arguments

/-- The command that arguments ask for. -/
def Command.ofArguments (arguments : List Text) : Except Interruption Command :=
  Arguments.readAfter none arguments

end DuckMachine
