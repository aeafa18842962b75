import ModulatorHealth.Log
import ModulatorHealth.Text.Split

/-! Which log events are shown. A directive sets how much is shown of the sources whose path begins with
a name; among several, the longest name decides. By default only warnings are shown, unless the
environment says otherwise. Asked once for more, the program shows information too, and of its own
sources what serves for debugging; asked again, everything. Events below the two levels that there are
here are not modelled, so asking more than once shows no more than asking once. -/
namespace ModulatorHealth.Log

def directives : Nat → List String
  | 0 => ["warn"]
  | 1 => ["info", "odr_health=debug", "odrctl=debug"]
  | _ => ["debug", "odr_health=trace", "odrctl=trace"]

def environmentVariable : String := "RUST_LOG"

structure Directive where
  /-- What the path of a source must begin with. -/
  name : String
  /-- How much is shown: nothing, then errors, and so on up to everything. -/
  detail : Nat
deriving DecidableEq

namespace Directive

def everything : Nat := 5

def detail? (word : List Char) : Option Nat :=
  let word := String.ofList (word.map Char.toLower)
  (["off", "error", "warn", "info", "debug", "trace"].idxOf? word).or
    (["0", "1", "2", "3", "4", "5"].idxOf? word)

def isName (word : List Char) : Bool :=
  !word.isEmpty && word.all fun c => c.isAlphanum || c == '_' || c == ':' || c == '-'

/-- A level for all sources, or a name with a level after `=`. Directives on spans are not modelled. -/
def parse? (text : List Char) : Option Directive :=
  match detail? text, Text.splitAtEach (· == '=') text with
  | some detail, _ => some ⟨"", detail⟩
  | none, [name] | none, [name, []] =>
    if isName name then some ⟨String.ofList name, everything⟩ else none
  | none, [name, level] => if isName name then (detail? level).map (⟨String.ofList name, ·⟩) else none
  | none, _ => none

end Directive

/-- The directives of a text. A text without any shows errors only. -/
def filter? (text : String) : Option (List Directive) :=
  let parts := (Text.splitAtEach (· == ',') text.toList).filter (!·.isEmpty)
  if parts.isEmpty then some [⟨"", 1⟩] else parts.mapM Directive.parse?

/-- The filter in force. The environment counts only where it can be read. -/
def filterFor (verbose : Nat) (environment : Option String) : List Directive :=
  let standard := (directives verbose).filterMap fun text => Directive.parse? text.toList
  if verbose = 0 then (environment.bind filter?).getD standard else standard

def Level.detail : Level → Nat
  | .warn => 2
  | .info => 3

def isShown (filter : List Directive) (source : String) (level : Level) : Bool :=
  let fitting := filter.filter fun directive => source.startsWith directive.name
  let best := fitting.foldl (fun (best : Option Directive) directive =>
    match best with
    | some other => if directive.name.length < other.name.length then best else some directive
    | none => some directive) none
  best.any fun directive => level.detail ≤ directive.detail

end ModulatorHealth.Log
