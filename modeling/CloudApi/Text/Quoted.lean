import CloudApi.Text.Ranges
import CloudApi.Text.UnseenTable

/-! # Quoted texts

A text is quoted for a reader of diagnostics: it stands between double quotes, the quote and the
backslash are escaped, tab, line feed, carriage return and the null character have a letter of
their own, and a character that would not show is written by its code point, as in `\u{200b}`. -/

namespace CloudApi.Text

/-- The digits of a number in base sixteen, small letters, no leading zeros. -/
def hexDigits (n : Nat) : List Char := Nat.toDigits 16 n

/-- A character beyond ASCII, or a control character, that leaves no mark of its own. -/
def isUnseen (c : Char) : Bool :=
  if 0x20 ≤ c.toNat && c.toNat < 0x7F then false else inRanges unseenRanges c.toNat

/-- The written form of one character inside quotes. -/
def quotedChar (c : Char) : List Char :=
  match c with
  | '\x00' => ['\\', '0']
  | '\t' => ['\\', 't']
  | '\n' => ['\\', 'n']
  | '\r' => ['\\', 'r']
  | '\\' => ['\\', '\\']
  | '"' => ['\\', '"']
  | c => if isUnseen c then ['\\', 'u', '\x7b'] ++ hexDigits c.toNat ++ ['\x7d'] else [c]

/-- The written form of a text, quotes included. -/
def quoted (s : String) : String :=
  String.ofList ('"' :: s.toList.flatMap quotedChar ++ ['"'])

end CloudApi.Text
