/-! Splitting a text at separators. -/
namespace ModulatorHealth.Text

/-- The parts between the characters of a kind: one more than there are such characters. -/
def splitAtEach (isSeparator : Char → Bool) : List Char → List (List Char)
  | [] => [[]]
  | c :: rest =>
    if isSeparator c then [] :: splitAtEach isSeparator rest
    else
      match splitAtEach isSeparator rest with
      | part :: parts => (c :: part) :: parts
      | [] => [[c]]

end ModulatorHealth.Text
