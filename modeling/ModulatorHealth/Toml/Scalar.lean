import ModulatorHealth.Json.Parser
import ModulatorHealth.Timestamp
import ModulatorHealth.Toml.Value

/-! The parts of a TOML line: blanks, comments, strings, keys, numbers and dates. Each scanner gives
what it read and the text after it. -/
namespace ModulatorHealth.Toml

abbrev Scanner (α : Type) : Type := List Char → Option (α × List Char)

def isSpace (c : Char) : Bool := c == ' ' || c == '\t'

def skipSpaces (cs : List Char) : List Char := cs.dropWhile isSpace

def isPlain (c : Char) : Bool := c == '\t' || (0x20 ≤ c.toNat && c.toNat != 0x7F)

def newline? : List Char → Option (List Char)
  | '\n' :: rest => some rest
  | '\r' :: '\n' :: rest => some rest
  | _ => none

def skipComment : List Char → List Char
  | '#' :: rest => rest.dropWhile isPlain
  | rest => rest

def lineEnd? (cs : List Char) : Option (List Char) :=
  match skipComment (skipSpaces cs) with
  | [] => some []
  | rest => newline? rest

def skipLines : Nat → List Char → List Char
  | 0, cs => cs
  | fuel + 1, cs =>
    let cs := skipSpaces cs
    match newline? cs, newline? (skipComment cs) with
    | some rest, _ => skipLines fuel rest
    | none, some rest => skipLines fuel rest
    | none, none => cs

def skipBlankLines (cs : List Char) : List Char := skipLines cs.length cs

def charOfHex? (digits : List Char) : Option Char := do
  let code ← natOfHex? digits
  if code.isValidChar then some (Char.ofNat code) else none

def escape? : Scanner Char
  | 'b' :: rest => some ('\x08', rest)
  | 'f' :: rest => some ('\x0c', rest)
  | 'n' :: rest => some ('\n', rest)
  | 'r' :: rest => some ('\r', rest)
  | 't' :: rest => some ('\t', rest)
  | '"' :: rest => some ('"', rest)
  | '\\' :: rest => some ('\\', rest)
  | 'u' :: rest =>
    if rest.length < 4 then none else (charOfHex? (rest.take 4)).map fun c => (c, rest.drop 4)
  | 'U' :: rest =>
    if rest.length < 8 then none else (charOfHex? (rest.take 8)).map fun c => (c, rest.drop 8)
  | _ => none

def basicString? : Nat → Scanner (List Char)
  | 0, _ => none
  | fuel + 1, cs =>
    match cs with
    | '"' :: rest => some ([], rest)
    | '\\' :: rest =>
      (escape? rest).bind fun (c, rest) =>
        (basicString? fuel rest).map fun (text, rest) => (c :: text, rest)
    | c :: rest =>
      if isPlain c then (basicString? fuel rest).map fun (text, rest) => (c :: text, rest)
      else none
    | [] => none

def literalString? : Scanner (List Char)
  | '\'' :: rest => some ([], rest)
  | c :: rest =>
    if isPlain c then (literalString? rest).map fun (text, rest) => (c :: text, rest) else none
  | [] => none

/-- Quotes at the end of a string of several lines: up to two of them belong to its text. -/
def closingQuotes (quote : Char) (cs : List Char) : Option (List Char × List Char) :=
  let run := min (cs.takeWhile (· == quote)).length 5
  if run < 3 then none else some (List.replicate (run - 3) quote, cs.drop run)

/-- A basic string of several lines. A backslash at the end of a line takes the blanks after it
away. -/
def longBasicString? : Nat → Scanner (List Char)
  | 0, _ => none
  | fuel + 1, cs =>
    match closingQuotes '"' cs, newline? cs with
    | some closed, _ => some closed
    | none, some rest => (longBasicString? fuel rest).map fun (text, rest) => ('\n' :: text, rest)
    | none, none =>
      match cs with
      | '\\' :: rest =>
        match newline? (skipSpaces rest) with
        | some rest => longBasicString? fuel (skipBreaks rest)
        | none =>
          (escape? rest).bind fun (c, rest) =>
            (longBasicString? fuel rest).map fun (text, rest) => (c :: text, rest)
      | c :: rest =>
        if isPlain c then (longBasicString? fuel rest).map fun (text, rest) => (c :: text, rest)
        else none
      | [] => none
where
  skipBreaks : List Char → List Char
    | '\r' :: '\n' :: rest => skipBreaks rest
    | c :: rest => if isSpace c || c == '\n' then skipBreaks rest else c :: rest
    | [] => []

def longLiteralString? : Nat → Scanner (List Char)
  | 0, _ => none
  | fuel + 1, cs =>
    match closingQuotes '\'' cs, newline? cs with
    | some closed, _ => some closed
    | none, some rest => (longLiteralString? fuel rest).map fun (text, rest) => ('\n' :: text, rest)
    | none, none =>
      match cs with
      | c :: rest =>
        if isPlain c then (longLiteralString? fuel rest).map fun (text, rest) => (c :: text, rest)
        else none
      | [] => none

def skipFirstBreak (cs : List Char) : List Char := (newline? cs).getD cs

def string? (cs : List Char) : Option (String × List Char) :=
  let scanned := match cs with
    | '"' :: '"' :: '"' :: rest => longBasicString? (rest.length + 1) (skipFirstBreak rest)
    | '\'' :: '\'' :: '\'' :: rest => longLiteralString? (rest.length + 1) (skipFirstBreak rest)
    | '"' :: rest => basicString? (rest.length + 1) rest
    | '\'' :: rest => literalString? rest
    | _ => none
  scanned.map fun (text, rest) => (String.ofList text, rest)

def isBareKeyChar (c : Char) : Bool := c.isAlphanum || c == '_' || c == '-'

def keyPart? (cs : List Char) : Option (String × List Char) :=
  match cs with
  | '"' :: rest => (basicString? (rest.length + 1) rest).map fun (text, rest) =>
      (String.ofList text, rest)
  | '\'' :: rest => (literalString? rest).map fun (text, rest) => (String.ofList text, rest)
  | _ =>
    let bare := cs.takeWhile isBareKeyChar
    if bare.isEmpty then none else some (String.ofList bare, cs.dropWhile isBareKeyChar)

def depthLimit : Nat := 80

/-- A key of fewer parts than the limit, between blanks: the parts before the last one, and that. -/
def key? (cs : List Char) : Option ((List String × String) × List Char) :=
  (parts depthLimit cs).bind fun (parts, rest) =>
    parts.getLast?.map fun last => ((parts.dropLast, last), rest)
where
  parts : Nat → Scanner (List String)
    | 0, _ => none
    | fuel + 1, cs =>
      (keyPart? (skipSpaces cs)).bind fun (part, rest) =>
        match skipSpaces rest with
        | '.' :: rest => (parts fuel rest).map fun (more, rest) => (part :: more, rest)
        | rest => if fuel = 0 then none else some ([part], rest)

def digits? (isDigit : Char → Bool) : Nat → Scanner (List Char)
  | 0, _ => none
  | fuel + 1, cs =>
    match cs with
    | c :: rest =>
      if !isDigit c then none
      else
        match rest with
        | '_' :: rest => (digits? isDigit fuel rest).map fun (more, rest) => (c :: more, rest)
        | next :: _ =>
          if isDigit next then (digits? isDigit fuel rest).map fun (more, rest) => (c :: more, rest)
          else some ([c], rest)
        | [] => some ([c], [])
    | [] => none

def decimal? (cs : List Char) : Option (List Char × List Char) :=
  digits? Char.isDigit (cs.length + 1) cs

def signedDigits? (cs : List Char) : Option ((Bool × List Char) × List Char) :=
  let (negative, rest) := takeSign cs
  match rest with
  | '0' :: rest => some ((negative, ['0']), rest)
  | rest => (decimal? rest).map fun (digits, rest) => ((negative, digits), rest)

def int64? (n : Int) : Option Value := if FitsInt64 n then some (.integer n) else none

def based? (base : Nat) (isDigit : Char → Bool) (cs : List Char) : Option (Value × List Char) := do
  let (digits, rest) ← digits? isDigit (cs.length + 1) cs
  let value ← int64? (← natOfDigitsIn? base digits : Nat)
  some (value, rest)

def floatExponent? (cs : List Char) : Option (Option Int × List Char) :=
  match cs with
  | c :: rest =>
    if c = 'e' ∨ c = 'E' then
      let (negative, rest) := takeSign rest
      (decimal? rest).map fun (digits, rest) =>
        let magnitude : Int := natOfDigits digits
        (some (if negative then -magnitude else magnitude), rest)
    else some (none, cs)
  | [] => some (none, [])

def floatFraction? (cs : List Char) : Option (Option (List Char) × List Char) :=
  match cs with
  | '.' :: rest => (decimal? rest).map fun (digits, rest) => (some digits, rest)
  | _ => some (none, cs)

/-- A decimal number. A float must not exceed the doubles, unless it is negative. -/
def decimalNumber? (cs : List Char) : Option (Value × List Char) := do
  let ((negative, whole), rest) ← signedDigits? cs
  let (fraction, rest) ← floatFraction? rest
  let (exponent, rest) ← floatExponent? rest
  if fraction.isNone && exponent.isNone then
    let magnitude : Int := natOfDigits whole
    let value ← int64? (if negative then -magnitude else magnitude)
    some (value, rest)
  else
    let places := fraction.getD []
    let decimal : Decimal :=
      ⟨negative, natOfDigits (whole ++ places), exponent.getD 0 - places.length⟩
    if decimal.toBinary64 = .infinite false then none else some (.float, rest)

def field? (width low high : Nat) (cs : List Char) : Option (Nat × List Char) :=
  let digits := cs.take width
  let value := natOfDigits digits
  if digits.length = width ∧ digits.all Char.isDigit ∧ low ≤ value ∧ value ≤ high then
    some (value, cs.drop width)
  else none

def exactly? (c : Char) : List Char → Option (List Char)
  | first :: rest => if first = c then some rest else none
  | [] => none

def date? (cs : List Char) : Option (List Char) := do
  let (year, rest) ← field? 4 0 9999 cs
  let rest ← exactly? '-' rest
  let (month, rest) ← field? 2 1 12 rest
  let rest ← exactly? '-' rest
  let (_, rest) ← field? 2 1 (Timestamp.daysInMonth year month) rest
  some rest

def secondFraction? : List Char → List Char
  | '.' :: c :: rest => if c.isDigit then rest.dropWhile Char.isDigit else '.' :: c :: rest
  | rest => rest

def time? (cs : List Char) : Option (List Char) := do
  let (_, rest) ← field? 2 0 23 cs
  let rest ← exactly? ':' rest
  let (_, rest) ← field? 2 0 59 rest
  let rest ← exactly? ':' rest
  let (_, rest) ← field? 2 0 60 rest
  some (secondFraction? rest)

def offset? (cs : List Char) : Option (List Char) :=
  match cs with
  | 'Z' :: rest | 'z' :: rest => some rest
  | '+' :: rest | '-' :: rest => do
    let (_, rest) ← field? 2 0 23 rest
    let rest ← exactly? ':' rest
    let (_, rest) ← field? 2 0 59 rest
    some rest
  | _ => some cs

def startsTime (cs : List Char) : Bool :=
  match cs with
  | a :: b :: ':' :: _ => a.isDigit && b.isDigit
  | _ => false

def startsDate (cs : List Char) : Bool :=
  (cs.take 4).length == 4 && (cs.take 4).all Char.isDigit && (cs.drop 4).head? == some '-'

def dateTime? (cs : List Char) : Option (List Char) := do
  let rest ← date? cs
  match rest with
  | 'T' :: after | 't' :: after | ' ' :: after =>
    if startsTime after then
      let rest ← time? after
      offset? rest
    else some rest
  | _ => some rest

def number? (cs : List Char) : Option (Value × List Char) :=
  if startsDate cs then (dateTime? cs).map fun rest => (.datetime, rest)
  else if startsTime cs then (time? cs).map fun rest => (.datetime, rest)
  else
    match (takeSign cs).2, cs with
    | 'i' :: 'n' :: 'f' :: rest, _ => some (.float, rest)
    | 'n' :: 'a' :: 'n' :: rest, _ => some (.float, rest)
    | _, '0' :: 'x' :: rest => based? 16 isHexDigit rest
    | _, '0' :: 'o' :: rest => based? 8 (fun c => '0' ≤ c && c ≤ '7') rest
    | _, '0' :: 'b' :: rest => based? 2 (fun c => c == '0' || c == '1') rest
    | _, _ => decimalNumber? cs

end ModulatorHealth.Toml
