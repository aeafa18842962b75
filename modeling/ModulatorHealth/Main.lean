import ModulatorHealth.CommandLine
import ModulatorHealth.Log.Filter
import ModulatorHealth.Program.Live
import ModulatorHealth.Program.Network
import ModulatorHealth.Session
import Std.Time

/-! The program: reads the configuration, talks to the device and prints what there is to say. -/
namespace ModulatorHealth.Program

/-- Help on the program. That on one of its commands is not told apart. -/
def usageLines : List String :=
  ["ODR-DabMod health check and remote control", "",
    "Usage: odrctl [OPTIONS] <COMMAND>", "",
    "Commands:",
    "  check   Run the modulator health check",
    "  get     Read one parameter",
    "  set     Write one parameter",
    "  params  Show the remote control parameter table",
    "  dpd     Digital predistortion engine",
    "  help    Print this message or the help of the given subcommand(s)", "",
    "Options:",
    "      --config <CONFIG>  Config file (default: $ODR_HEALTH_CONFIG or /etc/odr/health.toml)",
    "      --url <URL>        Base URL of the modulator web API, overrides the config file",
    "  -v, --verbose...       More log output on stderr (-v debug, -vv trace)",
    "  -h, --help             Print help",
    "  -V, --version          Print version"]

def usageMessage : Usage → Option String
  | .help | .version | .helpForNothing => none
  | .missingCommand => some "a command is missing"
  | .unknownCommand => some "unknown command"
  | .unknownArgument => some "unexpected argument"
  | .missingOperand => some "an argument is missing"
  | .repeatedOption => some "an option is given twice"
  | .badValue => some "an option needs a value"
  | .unexpectedValue => some "a flag takes no value"

def explain (usage : Usage) : IO UInt32 := do
  match usage, usageMessage usage with
  | .help, _ =>
    IO.print (Terminal.printed usageLines)
    return 0
  | .version, _ =>
    IO.println "odrctl 0.3.0"
    return 0
  | _, some message =>
    IO.eprintln ("error: " ++ message)
    return 2
  | _, none =>
    IO.eprint (Terminal.printed usageLines)
    return 2

def readContent (path : String) : IO ConfigFile.Content := do
  try return .bytes (← IO.FS.readBinFile path)
  catch
    | .noFileOrDirectory _ _ _ => return .absent
    | e => return .refused (toString e)

def logEvents (filter : List Log.Directive) (source : String) (events : List Log.Event) : IO Unit :=
  for event in events do
    if Log.isShown filter source event.level then IO.eprintln event.line

def finish (f : Finished) : IO UInt32 := do
  IO.print (Terminal.printed f.lines)
  if let some failure := f.failure then IO.eprintln (Terminal.errorLine failure.message)
  return f.status.code.toUInt32

def randomNumber : IO Nat := do
  let bytes ← IO.getRandomBytes 16
  return bytes.toList.foldl (fun n b => 256 * n + b.toNat) 0

def now : IO Timestamp := do
  let nanoseconds := (← Std.Time.Timestamp.now).toNanosecondsSinceUnixEpoch.val
  return ⟨nanoseconds.fdiv 1000000000, (nanoseconds.fmod 1000000000).toNat⟩

def check (session : Session) (filter : List Log.Directive) (json : Bool) : IO UInt32 := do
  let startedAt ← now
  IO.print (Terminal.printed (Command.shownLines json session.device []))
  let ask := ask session.device session.requestTimeoutSecs
  let (seen, aggregate) ← runLive ask (!json) (logEvents filter "odr_health") session.checks
  let occasion : Occasion := ⟨← randomNumber, startedAt, ← now⟩
  logEvents filter "odrctl"
    [Command.completionEvent (Command.reportOf session.device occasion aggregate)]
  let finished := Command.concludeCheck json session.device occasion seen aggregate
  let shown := Command.shownLines json session.device seen
  finish { finished with lines := finished.lines.drop shown.length }

def query (session : Session) (query : Query) : IO UInt32 := do
  match Inquiry.ofQuery query with
  | .error f => finish (.ofFailure f)
  | .ok inquiry =>
    let reply ← ask session.device session.requestTimeoutSecs inquiry.call
    finish (.ofLines (inquiry.conclude reply))

def carryOut (line : CommandLine) : IO UInt32 := do
  let environment ← IO.getEnv ConfigFile.environmentVariable
  let content ← readContent (ConfigFile.path line.config environment)
  let (loaded, events) := ConfigFile.load (fun _ => content) line.config environment
  let filter := Log.filterFor line.verbose (← IO.getEnv Log.environmentVariable)
  logEvents filter "odr_health" events
  match Session.start loaded line.url with
  | .error f => finish (.ofFailure f)
  | .ok session =>
    match line.command with
    | .check json => check session filter json
    | .ask q => query session q

end ModulatorHealth.Program

def main (args : List String) : IO UInt32 :=
  match ModulatorHealth.CommandLine.parse ("" :: args) with
  | .error usage => ModulatorHealth.Program.explain usage
  | .ok line => ModulatorHealth.Program.carryOut line
