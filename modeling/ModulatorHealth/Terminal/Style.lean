/-! Colours of the terminal, and columns. -/
namespace ModulatorHealth.Terminal

inductive Style where
  | red
  | green
  | yellow
  | cyan
  | brightRed
  | brightGreen
  | dimmed
deriving DecidableEq

def Style.codes : Style → String × String
  | .red => ("31", "39")
  | .green => ("32", "39")
  | .yellow => ("33", "39")
  | .cyan => ("36", "39")
  | .brightRed => ("91", "39")
  | .brightGreen => ("92", "39")
  | .dimmed => ("2", "0")

def escape (code : String) : String := "\x1b[" ++ code ++ "m"

def Style.paint (style : Style) (text : String) : String :=
  escape style.codes.1 ++ text ++ escape style.codes.2

def padRight (width : Nat) (text : String) : String :=
  text ++ String.ofList (List.replicate (width - text.length) ' ')

end ModulatorHealth.Terminal
