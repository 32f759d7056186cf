import FillFeed.Text.Digits
import FillFeed.Numeric.Power

/-!
# Patterns

`Pattern.isWellFormed` says which texts are regular expressions: groups close, repetitions have
something to repeat, classes and escapes are complete. Escapes that stand for Unicode properties or
for boundaries of words are not supported, nor are characters whose case is to be ignored. A brace
is never closed, because no pattern that is read here holds a closing one.
-/

namespace FillFeed.Log.Pattern

/-- The code point that hexadecimal digits stand for. -/
def hex? (digits : List Char) : Option Nat :=
  digits.foldlM (fun n c => (hexDigit? c).map (n * 16 + ·)) 0
where
  /-- The value of a hexadecimal digit. -/
  hexDigit? (c : Char) : Option Nat :=
    if '0' ≤ c ∧ c ≤ '9' then some (c.toNat - '0'.toNat)
    else if 'a' ≤ c ∧ c ≤ 'f' then some (c.toNat - 'a'.toNat + 10)
    else if 'A' ≤ c ∧ c ≤ 'F' then some (c.toNat - 'A'.toNat + 10)
    else none

/-- The character that a number of hexadecimal digits stand for, and what follows them. -/
def codePoint? (count : Nat) (cs : List Char) : Option (Nat × List Char) :=
  if cs.length < count then none
  else match hex? (cs.take count) with
    | some n => if n.isValidChar then some (n, cs.drop count) else none
    | none => none

/-- What an escape stands for, after its backslash, and what follows it: a character, or a place in
the text. -/
def escape? : List Char → Option (Option Nat × List Char)
  | [] => none
  | c :: cs =>
    match c with
    | 'x' => (codePoint? 2 cs).map fun (n, rest) => (some n, rest)
    | 'u' => (codePoint? 4 cs).map fun (n, rest) => (some n, rest)
    | 'U' => (codePoint? 8 cs).map fun (n, rest) => (some n, rest)
    | 'a' => some (some 7, cs)
    | 't' => some (some 9, cs)
    | 'n' => some (some 10, cs)
    | 'v' => some (some 11, cs)
    | 'f' => some (some 12, cs)
    | 'r' => some (some 13, cs)
    | 'A' | 'z' => some (none, cs)
    | '<' | '>' => none
    | c => if c.toNat < 0x80 ∧ !c.isAlphanum then some (some c.toNat, cs) else none

/-- A character of a class, and what follows it. -/
def classItem? : List Char → Option (Option Nat × List Char)
  | [] => none
  | '\\' :: cs => escape? cs
  | c :: cs => some (some c.toNat, cs)

/-- The names of the classes of ASCII characters. -/
def classNames : List String :=
  ["alnum", "alpha", "ascii", "blank", "cntrl", "digit", "graph", "lower", "print", "punct",
   "space", "upper", "word", "xdigit"]

/-- What follows a named class, after its first bracket. -/
def namedClass? : List Char → Option (List Char)
  | ':' :: cs =>
    let body := if cs.head? = some '^' then cs.drop 1 else cs
    let name := body.takeWhile (· ≠ ':')
    match body.drop name.length with
    | ':' :: ']' :: rest => if classNames.contains (String.ofList name) then some rest else none
    | _ => none
  | _ => none

/-- What follows the beginning of a class, after its bracket: a negation, dashes, or a bracket that
stands for itself. -/
def classBody (cs : List Char) : List Char :=
  let cs := if cs.head? = some '^' then cs.drop 1 else cs
  if cs.head? = some ']' then cs.drop 1 else cs.dropWhile (· = '-')

/-- What follows the classes that are open, of which there are `depth`. -/
def class? : (fuel depth : Nat) → List Char → Option (List Char)
  | 0, _, _ => none
  | _, _, [] => none
  | fuel + 1, depth, '[' :: cs =>
    match namedClass? cs with
    | some rest => class? fuel depth rest
    | none => class? fuel (depth + 1) (classBody cs)
  | fuel + 1, depth, ']' :: cs => if depth ≤ 1 then some cs else class? fuel (depth - 1) cs
  | fuel + 1, depth, '&' :: '&' :: cs => class? fuel depth cs
  | fuel + 1, depth, '-' :: '-' :: cs => class? fuel depth cs
  | fuel + 1, depth, '~' :: '~' :: cs => class? fuel depth cs
  | fuel + 1, depth, cs =>
    match classItem? cs with
    | none => none
    | some (first, rest) =>
      match first, rest with
      | none, _ => none
      | some _, '-' :: ']' :: _ => class? fuel depth rest
      | some _, '-' :: '-' :: _ => class? fuel depth rest
      | some low, '-' :: rest =>
        match classItem? rest with
        | some (some high, rest) => if low ≤ high then class? fuel depth rest else none
        | _ => none
      | some _, _ => class? fuel depth rest

/-- Whether flags are well-formed: each at most once, and something after the one sign that turns
flags off. -/
def areFlags (flags : List Char) : Bool :=
  flags.all (fun c => "imsUuRx-".toList.contains c && flags.count c = 1) &&
    flags.getLast? ≠ some '-'

/-- Whether a group can have a name. -/
def isGroupName : List Char → Bool
  | [] => false
  | c :: cs =>
    (c.isAlpha || c = '_' || 0x80 ≤ c.toNat) &&
      cs.all fun c => c.isAlphanum || "_.[]".toList.contains c || 0x80 ≤ c.toNat

/-- Whether flags make case be ignored, if they are about that. -/
def ignoresCase? (flags : List Char) : Option Bool :=
  if (flags.takeWhile (· ≠ '-')).contains 'i' then some true
  else if flags.contains 'i' then some false
  else none

/-- The beginning of a group: whether a group is open then, because flags can stand alone; whether
they make case be ignored; and what follows. -/
structure Opening where
  isOpen : Bool
  ignoresCase : Option Bool
  rest : List Char

/-- The beginning of a group, after its bracket. -/
def group? : List Char → Option Opening
  | '?' :: 'P' :: '<' :: cs | '?' :: '<' :: cs =>
    let name := cs.takeWhile (· ≠ '>')
    if isGroupName name ∧ name.length < cs.length then
      some ⟨true, none, cs.drop (name.length + 1)⟩
    else none
  | '?' :: cs =>
    let flags := cs.takeWhile fun c => c ≠ ':' && c ≠ ')'
    match cs.drop flags.length with
    | ':' :: rest => if areFlags flags then some ⟨true, ignoresCase? flags, rest⟩ else none
    | ')' :: rest =>
      if flags ≠ [] ∧ areFlags flags then some ⟨false, ignoresCase? flags, rest⟩ else none
    | _ => none
  | cs => some ⟨true, none, cs⟩

/-- Whether the rest of a pattern is well-formed: `outer` says of each open group whether case is
ignored outside of it and `ignored` whether it is here, and `repeats` whether there is something to
repeat. -/
def scan : (fuel : Nat) → (outer : List Bool) → (ignored repeats : Bool) → List Char → Bool
  | _, outer, _, _, [] => outer = []
  | 0, _, _, _, _ => false
  | fuel + 1, outer, ignored, repeats, c :: cs =>
    match c with
    | '(' =>
      match group? cs with
      | none => false
      | some o =>
        scan fuel (if o.isOpen then ignored :: outer else outer) (o.ignoresCase.getD ignored) false
          o.rest
    | ')' =>
      match outer with
      | [] => false
      | ignored :: outer => scan fuel outer ignored true cs
    | '|' => scan fuel outer ignored false cs
    | '[' =>
      match class? (cs.length + 1) 1 (classBody cs) with
      | none => false
      | some rest => !ignored && scan fuel outer ignored true rest
    | '?' | '*' | '+' =>
      repeats && scan fuel outer ignored true (if cs.head? = some '?' then cs.drop 1 else cs)
    | '\x7b' => false
    | '\\' =>
      match escape? cs with
      | none => false
      | some (place, rest) => !(ignored && place.isSome) && scan fuel outer ignored true rest
    | '.' | '^' | '$' => scan fuel outer ignored true cs
    | _ => !ignored && scan fuel outer ignored true cs

/-- Whether a text is a regular expression. -/
def isWellFormed (cs : List Char) : Bool := scan cs.length [] false false cs

end FillFeed.Log.Pattern
