/-! Log events. Two levels are modelled, warnings and information: a user sees warnings by default, and
both with one `-v`, which also shows events of lower levels that are left out here. -/
namespace ModulatorHealth.Log

inductive Level where
  | info
  | warn
deriving DecidableEq

def Level.label : Level → String
  | .info => "INFO"
  | .warn => "WARN"

structure Event where
  level : Level
  fields : List (String × String)
  message : String
deriving DecidableEq

/-- The event on one line: level, fields, message. -/
def Event.line (event : Event) : String :=
  event.fields.foldl (fun text field => text ++ " " ++ field.1 ++ "=" ++ field.2) event.level.label
    ++ ": " ++ event.message

end ModulatorHealth.Log
