import ModulatorHealth.Http.Host

/-! URLs of the web: reading one from text as a browser does, and writing what a request needs of
it. Only `http` and `https` URLs are of use here. -/
namespace ModulatorHealth.Http

structure Url where
  secure : Bool
  host : Host
  port : Option Nat
  path : String
  query : Option String
  fragment : Option String
deriving DecidableEq

namespace Url

def hexUpper (n : Nat) : Char := (Nat.digitChar (n % 16)).toUpper

def escapeByte (b : UInt8) : List Char := ['%', hexUpper (b.toNat / 16), hexUpper b.toNat]

def escapeUnless (isSafe : Char → Bool) (c : Char) : List Char :=
  if isSafe c then [c] else (String.singleton c).toUTF8.toList.flatMap escapeByte

def isSafeBut (excluded : List Char) (c : Char) : Bool :=
  0x20 < c.toNat && c.toNat < 0x7F && !excluded.contains c

def isSafeInPath : Char → Bool := isSafeBut ['"', '#', '<', '>', '?', '\x60', '{', '}']

def isSafeInQuery : Char → Bool := isSafeBut ['"', '#', '<', '>', '\'']

def isSafeInFragment : Char → Bool := isSafeBut ['"', '<', '>', '\x60']

def formText (s : String) : List Char :=
  s.toList.flatMap fun c =>
    if c = ' ' then ['+'] else escapeUnless (fun c => c.isAlphanum || "*-._".toList.contains c) c

def formQuery (pairs : List (String × String)) : String :=
  String.ofList <| ['&'].intercalate <| pairs.map fun (name, value) =>
    formText name ++ '=' :: formText value

def port? (usual : Nat) (cs : List Char) : Option (Option Nat) :=
  let port := natOfDigits cs
  if cs.isEmpty then some none
  else if !cs.all Char.isDigit || 65535 < port then none
  else some (if port = usual then none else some port)

/-- Splits at the colon before the port, where brackets hide colons. -/
def atPort : Bool → List Char → List Char × List Char
  | _, [] => ([], [])
  | hidden, c :: rest =>
    if c = ':' && !hidden then ([], rest)
    else
      let (host, port) := atPort (if c = '[' then true else if c = ']' then false else hidden) rest
      (c :: host, port)

def isSlash (c : Char) : Bool := c == '/' || c == '\\'

def isDots : Nat → List Char → Bool
  | 0, cs => cs.isEmpty
  | n + 1, '.' :: rest => isDots n rest
  | n + 1, '%' :: '2' :: e :: rest => (e == 'e' || e == 'E') && isDots n rest
  | _ + 1, _ => false

/-- The parts of a path, in reverse, with one more. A last part of dots leaves an empty one. -/
def addPart (isLast : Bool) (parts : List (List Char)) (part : List Char) : List (List Char) :=
  if isDots 2 part then (if isLast then [] :: parts.drop 1 else parts.drop 1)
  else if isDots 1 part then (if isLast then [] :: parts else parts)
  else part.flatMap (escapeUnless isSafeInPath) :: parts

def normalized (reversed : List (List Char)) : List (List Char) → List (List Char)
  | [] => reversed.reverse
  | [part] => (addPart true reversed part).reverse
  | part :: rest => normalized (addPart false reversed part) rest

def pathText (cs : List Char) : String :=
  let parts := match cs with
    | [] => [[]]
    | _ :: rest => Text.splitAtEach isSlash rest
  String.ofList ((normalized [] parts).flatMap ('/' :: ·))

/-- White space around a URL and line breaks within do not count. -/
def cleaned (text : String) : List Char :=
  let isOuter (c : Char) : Bool := c.toNat ≤ 0x20
  (((text.toList.dropWhile isOuter).reverse.dropWhile isOuter).reverse).filter fun c =>
    c != '\t' && c != '\n' && c != '\r'

def scheme? (cs : List Char) : Option (Bool × List Char) :=
  match cs.dropWhile (· != ':') with
  | ':' :: rest =>
    let name := String.ofList ((cs.takeWhile (· != ':')).map Char.toLower)
    if name = "http" then some (false, rest)
    else if name = "https" then some (true, rest)
    else none
  | _ => none

def atMark (mark : Char) (isSafe : Char → Bool) (cs : List Char) : List Char × Option String :=
  (cs.takeWhile (· != mark),
    match cs.dropWhile (· != mark) with
    | _ :: rest => some (String.ofList (rest.flatMap (escapeUnless isSafe)))
    | [] => none)

def parse? (text : String) : Option Url := do
  let (secure, rest) ← scheme? (cleaned text)
  let rest := rest.dropWhile isSlash
  let isEnd (c : Char) : Bool := isSlash c || c == '?' || c == '#'
  let authority := rest.takeWhile (!isEnd ·)
  let address := (authority.reverse.takeWhile (· != '@')).reverse
  let (host, port) := atPort false address
  let host ← Host.parse? host
  let port ← port? (if secure then 443 else 80) port
  let (rest, fragment) := atMark '#' isSafeInFragment (rest.dropWhile (!isEnd ·))
  let (path, query) := atMark '?' isSafeInQuery rest
  some ⟨secure, host, port, pathText path, query, fragment⟩

def withQuery (url : Url) (pairs : List (String × String)) : Url :=
  if pairs.isEmpty then url
  else
    match url.query with
    | none | some "" => { url with query := some (formQuery pairs) }
    | some query => { url with query := some (query ++ "&" ++ formQuery pairs) }

def target (url : Url) : String :=
  match url.query with
  | some query => url.path ++ "?" ++ query
  | none => url.path

def authority (url : Url) : String :=
  match url.port with
  | some port => url.host.text ++ ":" ++ toString port
  | none => url.host.text

def text (url : Url) : String :=
  (if url.secure then "https" else "http") ++ "://" ++ url.authority ++ url.target
    ++ url.fragment.elim "" ("#" ++ ·)

def maxLength : Nat := 65534

end Url
end ModulatorHealth.Http
