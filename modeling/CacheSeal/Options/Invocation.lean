import CacheSeal.Argument
import CacheSeal.FileTree.Path
import CacheSeal.Header.Layout
import CacheSeal.Numeral
import CacheSeal.Options.Grammar

/-!
The command line of the program: three commands on a cache file, the options that all of them know, and those of one.
-/

namespace CacheSeal.Options

/-- What is done with the cache file. -/
inductive Task where
  | validate (json : Bool) (report : Argument Path) (failOnMismatch noColor : Bool)
  | rehash (output : Argument Path)
  | transplant (donor : Argument Path) (rehash : Bool) (output : Argument Path)
deriving DecidableEq, Repr

structure Invocation where
  path : Path
  width : Argument PointerWidth
  order : Argument ByteOrder
  settings : Argument Path
  verbose : Bool
  task : Task
deriving DecidableEq, Repr

/-- The files that a task names beside the cache file. -/
def Task.paths : Task → List Path
  | .validate _ report _ _ => report.value?.toList
  | .rehash output => output.value?.toList
  | .transplant donor _ output => donor.value?.toList ++ output.value?.toList

def Invocation.paths (invocation : Invocation) : List Path :=
  invocation.path :: (invocation.settings.value?.toList ++ invocation.task.paths)

/-- What a command line asks for. -/
inductive Request where
  | run (invocation : Invocation)
  | help (program : String)
  | version
  | refused (program : String) (usage : Usage)
deriving DecidableEq, Repr

inductive Command where
  | validate
  | rehash
  | transplant
deriving DecidableEq, Repr

def Command.all : List Command :=
  [.validate, .rehash, .transplant]

def Command.name : Command → String
  | .validate => "validate"
  | .rehash => "rehash"
  | .transplant => "transplant"

/-- The options of all commands. -/
inductive Setting where
  | help
  | width
  | order
  | settings
  | verbose
  | json
  | output
  | failOnMismatch
  | noColor
  | donor
  | rehash
deriving DecidableEq, Repr

/-- How an option is spelled, and whether a value follows it. -/
def Setting.switch : Setting → Switch Setting
  | .help => ⟨["-h", "--help"], false, .help⟩
  | .width => ⟨["-w", "--pointer-width"], true, .width⟩
  | .order => ⟨["-e", "--byte-order"], true, .order⟩
  | .settings => ⟨["-c", "--config"], true, .settings⟩
  | .verbose => ⟨["-v", "--verbose"], false, .verbose⟩
  | .json => ⟨["--json"], false, .json⟩
  | .output => ⟨["-o", "--output"], true, .output⟩
  | .failOnMismatch => ⟨["--fail-on-mismatch"], false, .failOnMismatch⟩
  | .noColor => ⟨["--no-color"], false, .noColor⟩
  | .donor => ⟨["-d", "--donor"], true, .donor⟩
  | .rehash => ⟨["--rehash"], false, .rehash⟩

/-- The options of a command, in the order in which messages list them. -/
def Command.switches (command : Command) : List (Switch Setting) :=
  let own : List Setting := match command with
    | .validate => [.json, .output, .failOnMismatch, .noColor]
    | .rehash => [.output]
    | .transplant => [.donor, .rehash, .output]
  (([.help, .width, .order, .settings, .verbose] : List Setting) ++ own).map Setting.switch

/-- What the options have said so far; the last value of each counts. -/
structure Given where
  path : Option Path
  width : Argument PointerWidth
  order : Argument ByteOrder
  settings : Argument Path
  output : Argument Path
  donor : Argument Path
  flags : List Setting
deriving DecidableEq, Repr

def Given.nothing : Given :=
  ⟨none, .absent, .absent, .absent, .absent, .absent, []⟩

def widthOf (name : String) (text : Text) : Except Usage PointerWidth :=
  match text.toChars?.bind (Numeral.read? 10) with
  | none => .error (.notInteger name text)
  | some value =>
    match PointerWidth.ofBits? value with
    | some width => .ok width
    | none => .error (.badChoice name (toString value) ["32", "64"])

def orderOf (name : String) (text : Text) : Except Usage ByteOrder :=
  match ByteOrder.ofName? text with
  | some order => .ok order
  | none => .error (.badChoice name text.quoted [quoted "big", quoted "little"])

/-- Why the events of a command line are not looked at to their end. -/
inductive Stop where
  | help
  | fault (usage : Usage)

def Given.take (given : Given) (event : Event Setting) : Except Stop Given :=
  match event with
  | .operand arguments => .ok { given with path := arguments.head?.map Path.ofText }
  | .switch switch value =>
    match switch.meaning with
    | .help => .error .help
    | .width => do return { given with width := ← (value.judge (widthOf switch.name)).mapError .fault }
    | .order => do return { given with order := ← (value.judge (orderOf switch.name)).mapError .fault }
    | .settings => .ok { given with settings := value.map .ofText }
    | .output => .ok { given with output := value.map .ofText }
    | .donor => .ok { given with donor := value.map .ofText }
    | flag => .ok { given with flags := flag :: given.flags }

/-- The arguments that a command cannot do without, and those of them that are not there. -/
def Given.missing (given : Given) (command : Command) : List String :=
  (if given.path.isNone then ["path"] else [])
    ++ if command = .transplant ∧ given.donor.isAbsent then [Setting.donor.switch.name] else []

def Given.invocation (given : Given) (command : Command) (path : Path) : Invocation :=
  let has (flag : Setting) : Bool := given.flags.contains flag
  { path
    width := given.width
    order := given.order
    settings := given.settings
    verbose := has .verbose
    task := match command with
      | .validate => .validate (has .json) given.output (has .failOnMismatch) (has .noColor)
      | .rehash => .rehash given.output
      | .transplant => .transplant given.donor (has .rehash) given.output }

def Command.request (command : Command) (arguments : List Text) : Except Stop (Invocation × List Text) := do
  let outcome ← (read command.switches .single arguments).mapError .fault
  let given ← outcome.events.foldlM Given.take .nothing
  if let some fault := outcome.fault then throw (.fault fault)
  match given.path, given.missing command with
  | some path, [] => return (given.invocation command path, outcome.unclaimed)
  | _, names => throw (.fault (.missing names))

def programName : String := "codecache"

inductive TopSwitch where
  | help
  | version
deriving DecidableEq

def topSwitches : List (Switch TopSwitch) :=
  [⟨["-h", "--help"], false, .help⟩, ⟨["--version"], false, .version⟩]

def Command.ofName (name : Text) : Except Usage Command :=
  match Command.all.find? fun command => Text.ofString command.name = name with
  | some command => .ok command
  | none => .error (.badChoice "command" name.quoted (Command.all.map fun command => quoted command.name))

def operandRequest (unclaimed arguments : List Text) : Request :=
  match Command.ofName (arguments.headD []) with
  | .error usage => .refused programName usage
  | .ok command =>
    let program := programName ++ " " ++ command.name
    match command.request (arguments.drop 1) with
    | .error .help => .help program
    | .error (.fault usage) => .refused program usage
    | .ok (invocation, further) =>
      match unclaimed ++ further with
      | [] => .run invocation
      | rest => .refused programName (.unclaimed rest)

/-- What the events ask for: the first of them that is a command or needs none. -/
def topRequest (outcome : Outcome TopSwitch) : List (Event TopSwitch) → Request
  | .operand arguments :: _ => operandRequest outcome.unclaimed arguments
  | .switch switch _ :: _ =>
    match switch.meaning with
    | .help => .help programName
    | .version => .version
  | [] => .refused programName (outcome.fault.getD (.missing ["command"]))

def Request.ofArguments (arguments : List Text) : Request :=
  match read topSwitches .command arguments with
  | .error usage => .refused programName usage
  | .ok outcome => topRequest outcome outcome.events

end CacheSeal.Options
