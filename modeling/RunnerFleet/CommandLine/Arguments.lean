import RunnerFleet.Settings

/-!
# Arguments

The grammar of the command line: three modes, of which `vm` has four actions. Options are long;
their value is the next argument or stands behind `=`. An option may stand once on each level, and
the two options of all levels count where they stand deepest. `--` ends the options.
-/

namespace RunnerFleet.CommandLine

/-- What the maintenance mode is to do. -/
inductive VmAction where
  | list
  | stop (runner : RunnerId)
  | delete (runner : RunnerId)
  | exec (runner : RunnerId) (command : String) (arguments : List String)
  deriving DecidableEq, Repr

/-- A mode with the settings that its options give. -/
inductive Mode where
  | coordinator (grpcAddress httpAddress : Option String)
  | agent (change : AgentSettings → AgentSettings)
  | vm (runnersPath : Option String) (action : VmAction)

/-- A command line that can be carried out. -/
structure Invocation where
  /-- The path of the settings' file. -/
  config : Option String
  mode : Mode

/-- Why a command line is not carried out. -/
inductive Usage where
  /-- It asks for help. -/
  | help
  /-- It does not follow the grammar. -/
  | refused
  deriving DecidableEq, Repr

/-! ## Options -/

/-- What an option takes as its value. -/
inductive ValueKind where
  | text
  /-- A path is not empty. -/
  | path
  | word32
  /-- One of these words. -/
  | oneOf (words : List String)
  deriving DecidableEq, Repr

/-- An option by the name behind its two dashes. -/
structure OptionRule where
  name : String
  kind : ValueKind
  deriving DecidableEq, Repr

/-- The number of a text of digits behind an optional sign. -/
def signedNumber? (s : String) : Option Int :=
  let magnitude? (ds : List Char) : Option Int :=
    if !ds.isEmpty && ds.all (·.isDigit) then
      some (ds.foldl (fun n c => n * 10 + (c.toNat - '0'.toNat : Nat)) 0)
    else none
  match s.toList with
  | '-' :: ds => (magnitude? ds).map (- ·)
  | '+' :: ds => magnitude? ds
  | ds => magnitude? ds

/-- The number of 32 bits that a value stands for. -/
def word32? (s : String) : Option UInt32 :=
  (signedNumber? s).bind fun n =>
    if 0 ≤ n ∧ n < 4294967296 then some (UInt32.ofNat n.toNat) else none

/-- Whether an option takes the value. -/
def ValueKind.accepts (value : String) : ValueKind → Bool
  | text => true
  | path => value != ""
  | word32 => (word32? value).isSome
  | oneOf words => words.contains value

/-- The options of all levels. -/
def globalOptions : List OptionRule := [⟨"config", .path⟩, ⟨"log-format", .oneOf ["text", "json"]⟩]

/-- Options with their values, in the order of the levels. -/
abbrev Given := List (String × String)

/-- The value that counts: the deepest one. -/
def valueOf? (given : Given) (name : String) : Option String :=
  (given.filter (·.1 == name)).getLast?.map Prod.snd

/-! ## Levels -/

/-- One level of the grammar. -/
structure Level where
  options : List OptionRule
  subcommands : List String
  /-- How many arguments without dashes are taken. -/
  positionals : Nat
  /-- Whether any arguments may follow those. -/
  openEnded : Bool
  deriving DecidableEq, Repr

/-- The options that may stand on a level. -/
def Level.allOptions (l : Level) : List OptionRule := l.options ++ globalOptions

/-- What one level reads: its options, its arguments, and the subcommand with what follows it. -/
structure Reading where
  given : Given
  positionals : List String
  rest : Option (String × List String)
  deriving DecidableEq, Repr

/-- An argument as it looks by itself. -/
inductive Shape where
  | escape
  | long (name : String) (value : Option String)
  | short (flags : List Char)
  | plain
  deriving DecidableEq, Repr

/-- The shape of an argument; a single dash is plain. -/
def Shape.of (argument : String) : Shape :=
  match argument.toList with
  | ['-', '-'] => escape
  | '-' :: '-' :: name =>
    let (key, value) := name.span (· != '=')
    match value with
    | _ :: value => long (String.ofList key) (some (String.ofList value))
    | [] => long (String.ofList key) none
  | '-' :: c :: flags => short (c :: flags)
  | _ => plain

/-- Adds an option unless it stands on the level already or refuses the value. -/
def Reading.giveOption (r : Reading) (rule : OptionRule) (value : String) : Except Usage Reading :=
  if r.given.any (·.1 == rule.name) || !rule.kind.accepts value then .error .refused
  else .ok { r with given := r.given ++ [(rule.name, value)] }

/-- Adds an argument without dashes, if the level still takes one. -/
def Reading.givePositional (l : Level) (r : Reading) (argument : String) : Except Usage Reading :=
  if r.positionals.length < l.positionals ∨ l.openEnded then
    .ok { r with positionals := r.positionals ++ [argument] }
  else .error .refused

/-- Reads the arguments of one level. `escaped` after `--`, or within the open end: all that follows
are arguments without dashes. -/
def Level.read (l : Level) : List String → Bool → Reading → Except Usage Reading
  | [], _, r => .ok r
  | argument :: rest, escaped, r =>
    let atEnd := l.openEnded && l.positionals ≤ r.positionals.length
    let positional : Except Usage Reading := do
      l.read rest (escaped || atEnd) (← r.givePositional l argument)
    if escaped then positional
    else
      match Shape.of argument with
      | .escape => l.read rest true r
      | .long name value =>
        match l.allOptions.find? (·.name == name), value, rest with
        | some rule, some value, rest => do l.read rest false (← r.giveOption rule value)
        | some rule, none, value :: rest =>
          if Shape.of value = .plain then do l.read rest false (← r.giveOption rule value)
          else .error .refused
        | some _, none, [] => .error .refused
        | none, value, _ =>
          if name = "help" then .error (if value.isNone then .help else .refused)
          else if atEnd then positional
          else .error .refused
      | .short flags =>
        if atEnd && flags.any (· != 'h') then positional
        else .error (if flags.head? = some 'h' then .help else .refused)
      | .plain =>
        if l.subcommands.contains argument then .ok { r with rest := some (argument, rest) }
        else positional

/-! ## The grammar -/

def topLevel : Level := ⟨[], ["coordinator", "agent", "vm", "help"], 0, false⟩

def coordinatorLevel : Level := ⟨[⟨"grpc-addr", .text⟩, ⟨"http-addr", .text⟩], [], 0, false⟩

def agentLevel : Level where
  options :=
    [⟨"server-addr", .text⟩, ⟨"hostname", .text⟩, ⟨"max-runners", .word32⟩,
      ⟨"template-path", .path⟩, ⟨"runners-path", .path⟩, ⟨"ssh-key", .path⟩,
      ⟨"ip-notify-addr", .text⟩]
  subcommands := []
  positionals := 0
  openEnded := false

def vmLevel : Level :=
  ⟨[⟨"runners-path", .path⟩], ["list", "stop", "delete", "exec", "help"], 0, false⟩

/-- The level of an action. -/
def actionLevel : String → Level
  | "list" => ⟨[], [], 0, false⟩
  | "exec" => ⟨[], [], 2, true⟩
  | _ => ⟨[], [], 1, false⟩

/-- Reads one level from its beginning. -/
def Level.start (l : Level) (arguments : List String) : Except Usage Reading :=
  l.read arguments false ⟨[], [], none⟩

/-- A request for help names subcommands that exist. -/
def helpAbout (subcommands : List String) : List String → Usage
  | [] => .help
  | word :: _ => if subcommands.contains word then .help else .refused

/-- What the options of the agent change. -/
def agentChange (given : Given) (s : AgentSettings) : AgentSettings :=
  { s with
    serverAddress := (valueOf? given "server-addr").getD s.serverAddress
    hostname := valueOf? given "hostname" <|> s.hostname
    maxRunners := ((valueOf? given "max-runners").bind word32?).getD s.maxRunners
    templatePath := (valueOf? given "template-path").getD s.templatePath
    runnersPath := (valueOf? given "runners-path").getD s.runnersPath
    sshKeyPath := valueOf? given "ssh-key" <|> s.sshKeyPath
    notifyAddress := (valueOf? given "ip-notify-addr").getD s.notifyAddress }

/-- The action that a word and its arguments name. -/
def actionOf (word : String) (arguments : List String) : Except Usage VmAction :=
  match word, arguments with
  | "list", [] => .ok .list
  | "stop", [runner] => .ok (.stop runner)
  | "delete", [runner] => .ok (.delete runner)
  | "exec", runner :: command :: arguments => .ok (.exec runner command arguments)
  | _, _ => .error .refused

/-- Reads a whole command line, without the program's name. -/
def Invocation.parse (arguments : List String) : Except Usage Invocation := do
  let top ← topLevel.start arguments
  match top.rest with
  | none => throw .refused
  | some ("help", rest) => throw (helpAbout topLevel.subcommands rest)
  | some ("coordinator", rest) =>
    let r ← coordinatorLevel.start rest
    let given := top.given ++ r.given
    return ⟨valueOf? given "config",
      .coordinator (valueOf? given "grpc-addr") (valueOf? given "http-addr")⟩
  | some ("agent", rest) =>
    let r ← agentLevel.start rest
    return ⟨valueOf? (top.given ++ r.given) "config", .agent (agentChange r.given)⟩
  | some (_, rest) =>
    let r ← vmLevel.start rest
    match r.rest with
    | none => throw .refused
    | some ("help", rest) => throw (helpAbout vmLevel.subcommands rest)
    | some (word, rest) =>
      let a ← (actionLevel word).start rest
      return ⟨valueOf? (top.given ++ r.given ++ a.given) "config",
        .vm (valueOf? r.given "runners-path") (← actionOf word a.positionals)⟩

end RunnerFleet.CommandLine
