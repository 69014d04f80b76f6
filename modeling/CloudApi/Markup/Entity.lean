import CloudApi.Text.Numeral

/-! # References in text

A reference stands between an ampersand and a semicolon.  Five characters have names; any other
character is referred to by its code point, in base ten with at most seven digits or, after an
`x`, in base sixteen with at most six. -/

namespace CloudApi.Markup

/-- The characters that have a name. -/
def namedCharacter? : List Char → Option Char
  | ['l', 't'] => some '<'
  | ['g', 't'] => some '>'
  | ['a', 'm', 'p'] => some '&'
  | ['a', 'p', 'o', 's'] => some '\''
  | ['q', 'u', 'o', 't'] => some '"'
  | _ => none

/-- The character at a code point, if there is one and it is not the null character. -/
def characterAt? (n : Nat) : Option Char :=
  if (0 < n ∧ n < 0xD800) ∨ (0xE000 ≤ n ∧ n ≤ 0x10FFFF) then some (Char.ofNat n) else none

/-- The character that a reference stands for; `reference` is what stands between its marks. -/
def referenced? (reference : List Char) : Option Char :=
  match reference with
  | '#' :: 'x' :: digits =>
    if digits.length ≤ 6 then (Text.valueFrom? Text.hexValue? 16 0 digits).bind characterAt?
    else none
  | '#' :: digits =>
    if digits.length ≤ 7 then (Text.valueFrom? Text.digitValue? 10 0 digits).bind characterAt?
    else none
  | name => namedCharacter? name

/-- Replace the references of a text.  `reference` holds what has been read of an open reference,
last character first. -/
def resolveFrom : Option (List Char) → List Char → Option (List Char)
  | none, [] => some []
  | some _, [] => none
  | none, c :: cs =>
    if c = '&' then resolveFrom (some []) cs else (resolveFrom none cs).map (c :: ·)
  | some reference, c :: cs =>
    if c = '&' then none
    else if c = ';' then do
      let d ← referenced? reference.reverse
      let rest ← resolveFrom none cs
      return d :: rest
    else resolveFrom (some (c :: reference)) cs

/-- A text with its references replaced, or nothing if one is not well formed. -/
def resolve (cs : List Char) : Option (List Char) := resolveFrom none cs

end CloudApi.Markup
