import CloudApi.Text.Case
import CloudApi.Text.Split

/-! # Symbols of wire texts

The symbol of a wire text is made from its parts between points, hyphens and colons: the first
part starts with a small letter, every other one with a capital, and nothing stands between
them. -/

namespace CloudApi.Ec2

/-- A character that separates the parts of a wire text. -/
def isSeparator (c : Char) : Bool := c = '.' || c = '-' || c = ':'

/-- The parts of a wire text that are not empty. -/
def parts (cs : List Char) : List (List Char) :=
  (Text.pieces isSeparator cs).filter (· ≠ [])

/-- A part with its first character changed. -/
def changeFirst (f : Char → List Char) : List Char → List Char
  | [] => []
  | c :: cs => f c ++ cs

/-- The first part in small and the others in capital beginnings, put together. -/
def camelCase : List (List Char) → List Char
  | [] => []
  | first :: rest => changeFirst Text.small first ++ rest.flatMap (changeFirst Text.capital)

/-- The symbol of a wire text. -/
def toSymbol (s : String) : String := String.ofList (camelCase (parts s.toList))

end CloudApi.Ec2
