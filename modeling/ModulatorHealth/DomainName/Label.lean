import ModulatorHealth.DomainName.Mapping
import ModulatorHealth.DomainName.Punycode
import ModulatorHealth.Unicode.BidiClass
import ModulatorHealth.Unicode.Composition
import ModulatorHealth.Unicode.JoiningType

/-! The labels of a domain name: which texts can be one, and how one is written in ASCII. -/
namespace ModulatorHealth.DomainName

open Unicode

structure Label where
  text : List Char
  ascii : List Char
deriving DecidableEq

def isForbidden (c : Char) : Bool :=
  c.toNat ≤ 0x20 || c.toNat == 0x7F || "%#/:<>?@[\\]^|".toList.contains c

def zeroWidthNonJoiner : Char := '\u200c'

def zeroWidthJoiner : Char := '\u200d'

/-- Holds if the next character that is not transparent joins in one of some ways. -/
def joins (types : List JoiningType) (cs : List Char) : Bool :=
  match cs.find? fun c => JoiningType.of c != .transparent with
  | some c => types.contains (.of c)
  | none => false

/-- A joiner stands after a virama. A non-joiner may also stand where the characters around it would
join each other. The characters before it are given in reverse. -/
def fitsJoiner (before : List Char) (c : Char) (after : List Char) : Bool :=
  (before.head?.any fun previous => combiningClass previous == viramaClass)
    || (c == zeroWidthNonJoiner && joins [.left, .dual] before && joins [.right, .dual] after)

def fitsJoiners (before : List Char) : List Char → Bool
  | [] => true
  | c :: after =>
    (!(c == zeroWidthJoiner || c == zeroWidthNonJoiner) || fitsJoiner before c after)
      && fitsJoiners (c :: before) after

def maxTextLength : Nat := 1000

def maxEncodedLength : Nat := 2000

def isLabelText (cs : List Char) : Bool :=
  !cs.any isForbidden && !cs.head?.any isMark && fitsJoiners [] cs
    && (cs.all Punycode.isBasic || cs.length ≤ maxTextLength)

/-- Holds of the texts that replacing and composing their characters would not change. -/
def isSettled (cs : List Char) : Bool :=
  cs.all (fun c => Mapping.of c == .valid) && normalForm cs == cs

def encodingMark : List Char := "xn--".toList

namespace Label

/-- The label that an encoding stands for. It has to need the encoding. -/
def ofEncoded? (encoded : List Char) : Option Label := do
  if !encoded.all Punycode.isBasic || encoded.isEmpty || encoded.getLast? == some '-'
      || maxEncodedLength < encoded.length then none
  else
    let text ← Punycode.decode? encoded
    if isSettled text && !text.contains '.' && isLabelText text then
      some ⟨text, encodingMark ++ encoded⟩
    else none

def ofText? (cs : List Char) : Option Label :=
  if cs.take encodingMark.length = encodingMark then ofEncoded? (cs.drop encodingMark.length)
  else if !isLabelText cs then none
  else if cs.all Punycode.isBasic then some ⟨cs, cs⟩
  else some ⟨cs, encodingMark ++ Punycode.encode cs⟩

def isRightToLeft (label : Label) : Bool :=
  label.text.any fun c => [.rightToLeft, .arabicLetter, .arabicNumber].contains (BidiClass.of c)

def neutralClasses : List BidiClass :=
  [.europeanNumber, .europeanSeparator, .commonSeparator, .europeanTerminator, .otherNeutral,
    .boundaryNeutral, .nonspacingMark]

/-- In a name of which something is read from right to left, each label begins with a letter and
keeps to one direction; marks apart, it ends with a letter of that direction or a number. Numbers of
two kinds do not mix. -/
def keepsDirection (label : Label) : Bool :=
  match label.text with
  | [] => true
  | first :: rest =>
    let classes := ((rest.map BidiClass.of).reverse.dropWhile (· == .nonspacingMark)).reverse
    match BidiClass.of first with
    | .leftToRight =>
      classes.all (fun k => k == .leftToRight || neutralClasses.contains k)
        && classes.getLast?.all [.leftToRight, .europeanNumber].contains
    | .rightToLeft | .arabicLetter =>
      let letters : List BidiClass := [.rightToLeft, .arabicLetter, .arabicNumber]
      classes.all (fun k => letters.contains k || neutralClasses.contains k)
        && classes.getLast?.all (fun k => letters.contains k || k == .europeanNumber)
        && !(classes.contains .europeanNumber && classes.contains .arabicNumber)
    | _ => false

end Label

def labels? (cs : List Char) : Option (List Label) := do
  let mapped ← mapped? cs
  let labels ← (Text.splitAtEach (· == '.') (normalForm mapped)).mapM Label.ofText?
  if labels.any Label.isRightToLeft && !labels.all Label.keepsDirection then none else some labels

def toAscii? (cs : List Char) : Option (List Char) :=
  (labels? cs).map fun labels => ['.'].intercalate (labels.map Label.ascii)

end ModulatorHealth.DomainName
