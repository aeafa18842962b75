import ModulatorHealth.Command

/-! The command line. It has levels: the program, a command, an action of that command. Options of
the program may stand at every level, and the innermost level that gives one wins. -/
namespace ModulatorHealth

inductive Usage where
  | help
  | version
  | helpForNothing
  | missingCommand
  | unknownCommand
  | unknownArgument
  | missingOperand
  | repeatedOption
  | badValue
  | unexpectedValue
deriving DecidableEq

namespace CommandLine

inductive Setting where
  | config
  | url
deriving DecidableEq

inductive Flag where
  | verbose
  | json
  | help
  | version
deriving DecidableEq

inductive Named where
  | setting (setting : Setting)
  | flag (flag : Flag)

structure Level where
  commands : List String
  operands : Nat
  json : Bool
  version : Bool

namespace Level

def root : Level := ⟨["check", "get", "set", "params", "dpd"], 0, false, true⟩

def dpd : Level :=
  ⟨["status", "calibrate", "trigger-run", "adapt", "reset", "restore-dump"], 0, false, false⟩

def last (operands : Nat) (json : Bool) : Level := ⟨[], operands, json, false⟩

def ofPath : List String → Level
  | [] => root
  | ["check"] | ["params"] | ["dpd", "status"] => last 0 true
  | ["get"] => last 2 false
  | ["set"] => last 3 false
  | ["dpd", "restore-dump"] => last 1 false
  | ["dpd"] => dpd
  | _ => last 0 false

/-- Wherever there are commands, one that explains them is among them. -/
def isCommand (level : Level) (word : String) : Bool :=
  level.commands.contains word || (word == "help" && !level.commands.isEmpty)

def long? (level : Level) (name : String) : Option Named :=
  match name with
  | "config" => some (.setting .config)
  | "url" => some (.setting .url)
  | "verbose" => some (.flag .verbose)
  | "help" => some (.flag .help)
  | "json" => if level.json then some (.flag .json) else none
  | "version" => if level.version then some (.flag .version) else none
  | _ => none

def short? (level : Level) (letter : Char) : Option Flag :=
  match letter with
  | 'v' => some .verbose
  | 'h' => some .help
  | 'V' => if level.version then some .version else none
  | _ => none

end Level

/-- What is given at a level. The last option stays pending, with its value once that is read, until
something else follows. -/
structure Given where
  config : Option String
  url : Option String
  verbose : Nat
  json : Bool
  operands : List String
  pending : Option (Setting × Option String)

namespace Given

def nothing : Given := ⟨none, none, 0, false, [], none⟩

def isAwaiting (g : Given) : Bool :=
  match g.pending with
  | some (_, none) => true
  | _ => false

def isEmpty (g : Given) : Bool := g.config.isNone && g.url.isNone && g.verbose == 0

def settle (g : Given) : Except Usage Given :=
  match g.pending with
  | none => .ok g
  | some (_, none) => .error .badValue
  | some (.config, some path) =>
    if g.config.isSome then .error .repeatedOption
    else if path = "" then .error .badValue
    else .ok { g with config := some path, pending := none }
  | some (.url, some url) =>
    if g.url.isSome then .error .repeatedOption
    else .ok { g with url := some url, pending := none }

def name (g : Given) (setting : Setting) (value : Option String) : Except Usage Given :=
  g.settle.map fun g => { g with pending := some (setting, value) }

/-- The number of repetitions that count. -/
def mostVerbose : Nat := 255

def raise (g : Given) (flag : Flag) : Except Usage Given := do
  let g ← g.settle
  match flag with
  | .help => .error .help
  | .version => .error .version
  | .verbose => .ok { g with verbose := min (g.verbose + 1) mostVerbose }
  | .json => if g.json then .error .repeatedOption else .ok { g with json := true }

def supply (g : Given) (value : String) : Given :=
  { g with pending := g.pending.map fun option => (option.1, some value) }

def operand (level : Level) (surplus : Usage) (g : Given) (word : String) : Except Usage Given :=
  if g.operands.length < level.operands then
    g.settle.map fun g => { g with operands := g.operands ++ [word] }
  else .error surplus

end Given

namespace Level

def long (level : Level) (g : Given) (text : List Char) : Except Usage Given :=
  let named := level.long? (String.ofList (text.takeWhile (· != '=')))
  match named, text.dropWhile (· != '=') with
  | none, _ => .error .unknownArgument
  | some (.flag _), '=' :: _ => .error .unexpectedValue
  | some (.flag flag), _ => g.raise flag
  | some (.setting setting), '=' :: value =>
    (g.name setting (some (String.ofList value))).bind Given.settle
  | some (.setting setting), _ => g.name setting none

def short (level : Level) (g : Given) (letters : List Char) : Except Usage Given :=
  letters.foldlM (fun g letter =>
    match level.short? letter with
    | some flag => g.raise flag
    | none => .error .unknownArgument) g

/-- An operand for which there is no room is taken for a command, where there are any. -/
def surplus (level : Level) : Usage :=
  if level.commands.isEmpty then .unknownArgument else .unknownCommand

def trailing (level : Level) (g : Given) (words : List String) : Except Usage Given :=
  words.foldlM (fun g word =>
    g.operand level (if level.isCommand word then .unknownArgument else level.surplus) word) g

def scan (level : Level) :
    List String → Given → Except Usage (Given × Option (String × List String))
  | [], g => .ok (g, none)
  | word :: rest, g =>
    if !g.isAwaiting && level.isCommand word then .ok (g, some (word, rest))
    else if word = "--" then (level.trailing g rest).map fun g => (g, none)
    else
      match word.toList with
      | '-' :: '-' :: text => (level.long g text).bind (scan level rest)
      | '-' :: letter :: letters => (level.short g (letter :: letters)).bind (scan level rest)
      | _ =>
        if g.isAwaiting then scan level rest (g.supply word)
        else (g.operand level level.surplus word).bind (scan level rest)

end Level

def helpOn (path : List String) : List String → Usage
  | [] => .help
  | word :: rest =>
    if (Level.ofPath path).isCommand word then
      helpOn (if word = "help" then [word] else path ++ [word]) rest
    else .unknownCommand

def mostLevels : Nat := 3

/-- What is given at each level, outermost first, and the path of commands. An inner level is
checked before the outer ones. -/
def levels : Nat → List String → List String → Except Usage (List Given × List String)
  | 0, _, _ => .error .unknownCommand
  | depth + 1, path, args => do
    let level := Level.ofPath path
    let (given, next) ← level.scan args .nothing
    match next with
    | some ("help", rest) => .error (helpOn path rest)
    | some (command, rest) =>
      let (inner, full) ← levels depth (path ++ [command]) rest
      let given ← given.settle
      .ok (given :: inner, full)
    | none =>
      let given ← given.settle
      if !level.commands.isEmpty then
        .error (if given.isEmpty then .helpForNothing else .missingCommand)
      else if given.operands.length < level.operands then .error .missingOperand
      else .ok ([given], path)

def command? (path : List String) (g : Given) : Option Command :=
  match path, g.operands with
  | ["check"], _ => some (.check g.json)
  | ["get"], [controllable, param] => some (.ask (.get controllable param))
  | ["set"], [controllable, param, value] => some (.ask (.set controllable param value))
  | ["params"], _ => some (.ask (.params g.json))
  | ["dpd", "status"], _ => some (.ask (.dpd (.status g.json)))
  | ["dpd", "calibrate"], _ => some (.ask (.dpd .calibrate))
  | ["dpd", "trigger-run"], _ => some (.ask (.dpd .triggerRun))
  | ["dpd", "adapt"], _ => some (.ask (.dpd .adapt))
  | ["dpd", "reset"], _ => some (.ask (.dpd .reset))
  | ["dpd", "restore-dump"], [id] => some (.ask (.dpd (.restoreDump id)))
  | _, _ => none

end CommandLine

structure CommandLine where
  config : Option String
  url : Option String
  verbose : Nat
  command : Command
deriving DecidableEq

namespace CommandLine

def parse (words : List String) : Except Usage CommandLine := do
  let (given, path) ← levels mostLevels [] (words.drop 1)
  let inward := given.reverse
  match inward.head?.bind (command? path) with
  | none => .error .unknownCommand
  | some command => .ok {
      config := inward.findSome? Given.config
      url := inward.findSome? Given.url
      verbose := ((inward.map Given.verbose).find? (· != 0)).getD 0
      command := command }

end CommandLine
end ModulatorHealth
