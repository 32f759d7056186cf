import FillFeed.Text.Printable

/-!
# Quoted texts

`quote` writes a text between double quotes so that every character can be told: the quote and
the backslash are escaped, the usual controls have short escapes, and a character that is not
shown (`isShown`) is written by its code point.
-/

namespace FillFeed.Text

/-- A number in lower-case hexadecimal, without leading zeros. -/
def hexNat (n : Nat) : String := String.ofList (Nat.toDigits 16 n)

/-- A number in decimal. -/
def decimalNat (n : Nat) : String := String.ofList (Nat.toDigits 10 n)

/-- One character of a quoted text. -/
def quoteChar (c : Char) : String :=
  match c with
  | '\x00' => "\\0"
  | '\t' => "\\t"
  | '\r' => "\\r"
  | '\n' => "\\n"
  | '"' => "\\\""
  | '\\' => "\\\\"
  | c => if isShown c then String.singleton c else "\\u\x7b" ++ hexNat c.toNat ++ "\x7d"

/-- A text between double quotes, with everything in it that could not be read back escaped. -/
def quote (s : String) : String :=
  "\"" ++ String.join (s.toList.map quoteChar) ++ "\""

end FillFeed.Text
