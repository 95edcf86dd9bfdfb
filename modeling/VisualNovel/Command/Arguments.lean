/-!
# Arguments

The command line names a command, the paths that it works on, and options. `Invocation.ofArguments`
reads it, or tells why there is no command to carry out.
-/

namespace VisualNovel

/-- An option that takes a path. -/
inductive PathOption where
  | config
  | savesFolder
  | inputs
deriving DecidableEq, Repr

/-- The option with a long name. -/
def PathOption.ofName? : String → Option PathOption
  | "config" => some .config
  | "saves-dir" => some .savesFolder
  | "inputs" => some .inputs
  | _ => none

/-- Why there is no command to carry out. -/
inductive ArgumentStop where
  /-- Help is asked for. -/
  | help
  /-- The version is asked for. -/
  | version
  /-- The arguments make no command. -/
  | misuse
deriving DecidableEq, Repr

/-- A command and the paths that it works on. -/
inductive Command where
  | play (novel : String) (savesFolder inputs : Option String)
  | check (novel : String)
deriving DecidableEq, Repr

/-- A command line that can be carried out. -/
structure Invocation where
  /-- The path of the settings. -/
  config : String := "config.json"
  command : Command
deriving DecidableEq, Repr

/-! ## The parts of a command line -/

/-- A part of a command line. -/
inductive Argument where
  /-- A word, which may name a command. -/
  | word (text : String)
  /-- A word that stands for itself, as it follows `--`. -/
  | verbatim (text : String)
  | option (name : PathOption) (value : String)
  | stop (reason : ArgumentStop)
deriving DecidableEq, Repr

namespace Argument

/-- Whether an argument can be the value of the option in front of it. -/
def isValue (argument : String) : Bool :=
  match argument.toList with
  | '-' :: _ :: _ => false
  | _ => true

/-- The long option before an equals sign, and the value after it. -/
def cutAtEquals (cs : List Char) : String × Option String :=
  match cs.span (· != '=') with
  | (name, []) => (String.ofList name, none)
  | (name, _ :: value) => (String.ofList name, some (String.ofList value))

/-- What a single argument begins. -/
inductive Opening where
  /-- It is complete. -/
  | complete (argument : Argument)
  /-- The value of the option is the next argument. -/
  | awaits (name : PathOption)
  /-- What follows stands for itself. -/
  | divider

/-- Reads a long option, without the dashes. -/
def openLong (cs : List Char) : Opening :=
  match cutAtEquals cs with
  | ("help", none) => .complete (.stop .help)
  | ("version", none) => .complete (.stop .version)
  | (name, value) =>
    match PathOption.ofName? name, value with
    | some known, some value => .complete (.option known value)
    | some known, none => .awaits known
    | none, _ => .complete (.stop .misuse)

/-- Reads short options, without the dash. A value may follow its option at once or after an
equals sign. -/
def openShort : List Char → Opening
  | 'h' :: _ => .complete (.stop .help)
  | 'V' :: _ => .complete (.stop .version)
  | ['c'] => .awaits .config
  | 'c' :: '=' :: value => .complete (.option .config (String.ofList value))
  | 'c' :: value => .complete (.option .config (String.ofList value))
  | _ => .complete (.stop .misuse)

/-- Reads a single argument. -/
def begin (argument : String) : Opening :=
  match argument.toList with
  | ['-', '-'] => .divider
  | '-' :: '-' :: long => openLong long
  | '-' :: c :: short => openShort (c :: short)
  | _ => .complete (.word argument)

/-- The parts of a command line. -/
def ofList : List String → List Argument
  | [] => []
  | argument :: arguments =>
    match begin argument with
    | .complete part => part :: ofList arguments
    | .divider => arguments.map verbatim
    | .awaits name =>
      match arguments with
      | value :: arguments =>
        if isValue value then .option name value :: ofList arguments else [.stop .misuse]
      | [] => [.stop .misuse]

end Argument

/-! ## Commands -/

/-- What is given to a command. -/
structure Given where
  config : Option String := none
  savesFolder : Option String := none
  inputs : Option String := none
  novel : Option String := none

/-- Fills a place that can be filled once, with a text that is not empty. -/
def fillOnce (place : Option String) (text : String) : Except ArgumentStop (Option String) :=
  if place.isSome || text.isEmpty then .error .misuse else .ok (some text)

namespace Given

/-- Takes a part of the command line. Only play knows the options of play, and a command does not
tell the version. -/
def take (plays : Bool) (given : Given) : Argument → Except ArgumentStop Given
  | .word text | .verbatim text => do .ok { given with novel := ← fillOnce given.novel text }
  | .option .config path => do .ok { given with config := ← fillOnce given.config path }
  | .option .savesFolder path => do
    if plays then .ok { given with savesFolder := ← fillOnce given.savesFolder path }
    else .error .misuse
  | .option .inputs path => do
    if plays then .ok { given with inputs := ← fillOnce given.inputs path } else .error .misuse
  | .stop .help => .error .help
  | .stop _ => .error .misuse

/-- Takes all parts. -/
def takeAll (plays : Bool) (arguments : List Argument) : Except ArgumentStop Given :=
  arguments.foldlM (take plays) {}

/-- The command to play or to check, once a novel is given. -/
def command? (plays : Bool) (given : Given) : Option Command :=
  given.novel.map fun novel =>
    if plays then .play novel given.savesFolder given.inputs else .check novel

end Given

namespace Invocation

/-- Reads what follows the name of a command. `outer` are the settings named before it; those
named after it come first. -/
def ofCommand (plays : Bool) (outer : Option String) (arguments : List Argument) :
    Except ArgumentStop Invocation := do
  let given ← Given.takeAll plays arguments
  match given.command? plays with
  | none => .error .misuse
  | some command =>
    match given.config.or outer with
    | some config => .ok { config, command }
    | none => .ok { command }

/-- The names that help can be asked for. -/
def helpTopics : List String := ["play", "check", "help"]

/-- What comes of asking for help, with the arguments that follow. Each of them is a topic, whatever
it looks like, and no topic has topics of its own. -/
def helpOn : List String → ArgumentStop
  | [] => .help
  | [topic] => if helpTopics.contains topic then .help else .misuse
  | _ => .misuse

/-- Reads a command line; `outer` are the settings named so far. -/
def ofList (outer : Option String) : List String → Except ArgumentStop Invocation
  | [] => .error .misuse
  | argument :: arguments =>
    match Argument.begin argument with
    | .complete (.word "play") => ofCommand true outer (Argument.ofList arguments)
    | .complete (.word "check") => ofCommand false outer (Argument.ofList arguments)
    | .complete (.word "help") => .error (helpOn arguments)
    | .complete (.option .config path) => do ofList (← fillOnce outer path) arguments
    | .complete (.stop reason) => .error reason
    | .awaits .config =>
      match arguments with
      | value :: arguments =>
        if Argument.isValue value then do ofList (← fillOnce outer value) arguments
        else .error .misuse
      | [] => .error .misuse
    | _ => .error .misuse

/-- Reads a command line. -/
def ofArguments (arguments : List String) : Except ArgumentStop Invocation :=
  ofList none arguments

end Invocation
end VisualNovel
