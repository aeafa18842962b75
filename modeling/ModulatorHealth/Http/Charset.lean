import ModulatorHealth.Text.Split

/-! Text from bytes. Malformed bytes become replacement characters, and a byte order mark decides
over the name of the character set. -/
namespace ModulatorHealth.Http

inductive Charset where
  | utf8
  | utf16 (bigEndian : Bool)
  | windows1252
deriving DecidableEq

namespace Charset

def replacement : Char := '\ufffd'

/-- The length of the UTF-8 sequence that a byte begins, the bounds of its second byte, and the bits
that the byte contributes. -/
def lead? (b : Nat) : Option (Nat × Nat × Nat × Nat) :=
  if 0xC2 ≤ b ∧ b ≤ 0xDF then some (2, 0x80, 0xBF, b - 0xC0)
  else if b = 0xE0 then some (3, 0xA0, 0xBF, 0)
  else if b = 0xED then some (3, 0x80, 0x9F, 0xD)
  else if 0xE1 ≤ b ∧ b ≤ 0xEF then some (3, 0x80, 0xBF, b - 0xE0)
  else if b = 0xF0 then some (4, 0x90, 0xBF, 0)
  else if b = 0xF4 then some (4, 0x80, 0x8F, 4)
  else if 0xF1 ≤ b ∧ b ≤ 0xF3 then some (4, 0x80, 0xBF, b - 0xF0)
  else none

structure Awaited where
  remaining : Nat
  low : Nat
  high : Nat
  value : Nat

def begin (b : Nat) : List Char × Option Awaited :=
  if b < 0x80 then ([Char.ofNat b], none)
  else
    match lead? b with
    | some (length, low, high, value) => ([], some ⟨length - 1, low, high, value⟩)
    | none => ([replacement], none)

/-- One byte: the characters that it completes, and what is waited for after it. A byte that does
not continue a sequence ends it and begins anew. -/
def feed (state : Option Awaited) (b : Nat) : List Char × Option Awaited :=
  match state with
  | none => begin b
  | some a =>
    if a.low ≤ b ∧ b ≤ a.high then
      let value := 0x40 * a.value + (b - 0x80)
      if a.remaining ≤ 1 then ([Char.ofNat value], none)
      else ([], some ⟨a.remaining - 1, 0x80, 0xBF, value⟩)
    else
      let (chars, state) := begin b
      (replacement :: chars, state)

def decodeUtf8 (state : Option Awaited) : List UInt8 → List Char
  | [] => if state.isSome then [replacement] else []
  | b :: rest =>
    let (chars, state) := feed state b.toNat
    chars ++ decodeUtf8 state rest

def units (bigEndian : Bool) : List UInt8 → List Nat
  | a :: b :: rest =>
    (if bigEndian then 0x100 * a.toNat + b.toNat else 0x100 * b.toNat + a.toNat)
      :: units bigEndian rest
  | [_] => [0xD800]
  | [] => []

def decodeUnits : List Nat → List Char
  | [] => []
  | unit :: rest =>
    if 0xD800 ≤ unit ∧ unit < 0xDC00 then
      match rest with
      | low :: more =>
        if 0xDC00 ≤ low ∧ low < 0xE000 then
          Char.ofNat (0x10000 + (unit - 0xD800) * 0x400 + (low - 0xDC00)) :: decodeUnits more
        else replacement :: decodeUnits (low :: more)
      | [] => [replacement]
    else if 0xDC00 ≤ unit ∧ unit < 0xE000 then replacement :: decodeUnits rest
    else Char.ofNat unit :: decodeUnits rest

def windows1252Table : List Nat :=
  [0x20AC, 0x81, 0x201A, 0x192, 0x201E, 0x2026, 0x2020, 0x2021, 0x2C6, 0x2030, 0x160, 0x2039,
    0x152, 0x8D, 0x17D, 0x8F, 0x90, 0x2018, 0x2019, 0x201C, 0x201D, 0x2022, 0x2013, 0x2014, 0x2DC,
    0x2122, 0x161, 0x203A, 0x153, 0x9D, 0x17E, 0x178]

def windows1252Char (b : UInt8) : Char :=
  Char.ofNat ((windows1252Table[b.toNat - 0x80]?.filter fun _ => 0x80 ≤ b.toNat).getD b.toNat)

def decode : Charset → List UInt8 → List Char
  | .utf8, bytes => decodeUtf8 none bytes
  | .utf16 bigEndian, bytes => decodeUnits (units bigEndian bytes)
  | .windows1252, bytes => bytes.map windows1252Char

def text (charset : Charset) (bytes : List UInt8) : String :=
  String.ofList <| match bytes with
    | 0xEF :: 0xBB :: 0xBF :: rest => utf8.decode rest
    | 0xFE :: 0xFF :: rest => (utf16 true).decode rest
    | 0xFF :: 0xFE :: rest => (utf16 false).decode rest
    | _ => charset.decode bytes

/-- A character set by its label. UTF-8, UTF-16 and windows-1252 are known here. There are more single-byte
and East Asian character sets that a client may decode; they are not modelled, and their labels count as
none, so that such a body is read as UTF-8. -/
def named? (name : String) : Option Charset :=
  if ["utf-8", "utf8", "unicode-1-1-utf-8", "unicode11utf8", "unicode20utf8",
      "x-unicode20utf8"].contains name then some .utf8
  else if ["utf-16", "utf-16le", "unicode", "ucs-2", "iso-10646-ucs-2", "csunicode",
      "unicodefeff"].contains name then some (.utf16 false)
  else if ["utf-16be", "unicodefffe"].contains name then some (.utf16 true)
  else if ["iso-8859-1", "iso8859-1", "iso88591", "iso_8859-1", "iso_8859-1:1987", "iso-ir-100",
      "latin1", "l1", "csisolatin1", "us-ascii", "ascii", "ansi_x3.4-1968", "windows-1252", "cp1252",
      "x-cp1252", "cp819", "ibm819"].contains name then some .windows1252
  else none

def parameter? (contentType : String) : Option String :=
  ((Text.splitAtEach (· == ';') contentType.toList).drop 1).findSome? fun part =>
    let cs := part.filter fun c => c != ' ' && c != '\t' && c != '"'
    let name := String.ofList ((cs.takeWhile (· != '=')).map Char.toLower)
    if name = "charset" then
      some (String.ofList (((cs.dropWhile (· != '=')).drop 1).map Char.toLower))
    else none

/-- The character set of a content type; UTF-8 unless another one is named. -/
def ofContentType (contentType : Option String) : Charset :=
  ((contentType.bind parameter?).bind named?).getD .utf8

end Charset
end ModulatorHealth.Http
