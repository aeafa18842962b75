import ModulatorHealth.Http.Message
import ModulatorHealth.Text.Blank

/-! Messages of HTTP/1.1 as bytes. A connection carries one request and its response, so a body
without a length ends with the connection. -/
namespace ModulatorHealth.Http

def crlf : String := "\r\n"

def headerText (name value : String) : String := name ++ ": " ++ value ++ crlf

def Request.bodyText (r : Request) : String :=
  match r.body with
  | none => crlf
  | some body =>
    headerText "content-type" "application/json"
      ++ headerText "content-length" (toString body.utf8ByteSize) ++ crlf ++ body

def Request.text (r : Request) : String :=
  r.method.name ++ " " ++ r.url.target ++ " HTTP/1.1" ++ crlf
    ++ headerText "host" r.url.authority ++ headerText "accept" "*/*"
    ++ headerText "connection" "close" ++ r.bodyText

namespace Response

def takeLine? : List UInt8 → Option (List UInt8 × List UInt8)
  | 13 :: 10 :: rest => some ([], rest)
  | b :: rest => (takeLine? rest).map fun (line, rest) => (b :: line, rest)
  | [] => none

def asciiText (bytes : List UInt8) : String := String.ofList (bytes.map fun b => Char.ofNat b.toNat)

def header (line : List UInt8) : String × String :=
  let cs := (asciiText line).toList
  (String.ofList ((cs.takeWhile (· != ':')).map Char.toLower),
    Text.trimmed (String.ofList ((cs.dropWhile (· != ':')).drop 1)))

def takeHeaders? : Nat → List UInt8 → Option (List (String × String) × List UInt8)
  | 0, _ => none
  | fuel + 1, bytes =>
    (takeLine? bytes).bind fun (line, rest) =>
      if line.isEmpty then some ([], rest)
      else (takeHeaders? fuel rest).map fun (headers, rest) => (header line :: headers, rest)

/-- The size in front of a chunk, which an extension may follow. -/
def chunkSize? (line : List UInt8) : Option Nat :=
  let digits := (asciiText line).toList.takeWhile isHexDigit
  if digits.isEmpty then none
  else natOfHex? digits

def chunks? : Nat → List UInt8 → Option (List UInt8)
  | 0, _ => none
  | fuel + 1, bytes => do
    let (line, rest) ← takeLine? bytes
    let size ← chunkSize? line
    if size = 0 then some []
    else if rest.length < size + 2 then none
    else
      let more ← chunks? fuel (rest.drop (size + 2))
      some (rest.take size ++ more)

/-- The body in the bytes after the headers; none if it is incomplete. -/
def body? (status : Nat) (headers : List (String × String)) (bytes : List UInt8) :
    Option (List UInt8) :=
  if status = 204 ∨ status = 304 then some []
  else if ((headers.lookup "transfer-encoding").map Text.trimmed) = some "chunked" then
    chunks? (bytes.length + 1) bytes
  else
    match (headers.lookup "content-length").bind String.toNat? with
    | some length => if bytes.length < length then none else some (bytes.take length)
    | none => some bytes

def status? (line : List UInt8) : Option Nat :=
  let cs := (asciiText line).toList
  let digits := ((cs.dropWhile (· != ' ')).drop 1).takeWhile Char.isDigit
  if cs.take 5 = "HTTP/".toList ∧ digits.length = 3 then some (natOfDigits digits) else none

def parse? (bytes : List UInt8) : Option Response := do
  let (line, rest) ← takeLine? bytes
  let status ← status? line
  let (headers, rest) ← takeHeaders? (rest.length + 1) rest
  some ⟨status, headers.lookup "content-type", body? status headers rest⟩

end Response
end ModulatorHealth.Http
