import FillFeed.Json.Value
import FillFeed.Numeric.Shortest
import FillFeed.Text.Quoted

/-!
# Writing JSON

`Json.write` writes a value without blanks, the members of an object in their order. In strings
the quote, the backslash and the controls are escaped and every other character stands for itself.
-/

namespace FillFeed.Json

/-- Two hexadecimal digits. -/
def hexPair (n : Nat) : List Char := [Nat.digitChar (n / 16), Nat.digitChar (n % 16)]

/-- One character of a string. -/
def escapeChar (c : Char) : List Char :=
  match c with
  | '"' => ['\\', '"']
  | '\\' => ['\\', '\\']
  | '\x08' => ['\\', 'b']
  | '\x0c' => ['\\', 'f']
  | '\n' => ['\\', 'n']
  | '\r' => ['\\', 'r']
  | '\t' => ['\\', 't']
  | c => if c.toNat < 0x20 then '\\' :: 'u' :: '0' :: '0' :: hexPair c.toNat else [c]

/-- A string with its quotes. -/
def stringChars (s : String) : List Char := '"' :: s.toList.flatMap escapeChar ++ ['"']

/-- A number. -/
def numberChars : Number → List Char
  | .int n => (toString n).toList
  | .float x =>
    match x with
    | .finite .. => (x.layout (-5)).toList
    | _ => "null".toList

mutual

/-- The characters of a value. -/
def writeChars : Json → List Char
  | .null => ['n', 'u', 'l', 'l']
  | .bool true => ['t', 'r', 'u', 'e']
  | .bool false => ['f', 'a', 'l', 's', 'e']
  | .number n => numberChars n
  | .string s => stringChars s
  | .array items => '[' :: writeItems items
  | .object members => '\x7b' :: writeMembers members

/-- The characters of the items of an array, and its closing bracket. -/
def writeItems : List Json → List Char
  | [] => [']']
  | [v] => writeChars v ++ [']']
  | v :: vs => writeChars v ++ ',' :: writeItems vs

/-- The characters of the members of an object, and its closing bracket. -/
def writeMembers : List (String × Json) → List Char
  | [] => ['\x7d']
  | [(name, v)] => stringChars name ++ ':' :: writeChars v ++ ['\x7d']
  | (name, v) :: ms => stringChars name ++ ':' :: writeChars v ++ ',' :: writeMembers ms

end

/-- The text of a value. -/
def write (v : Json) : String := String.ofList (writeChars v)

/-- A text that may be absent, as a string or null. -/
def ofText? : Option String → Json
  | some s => .string s
  | none => .null

end FillFeed.Json
