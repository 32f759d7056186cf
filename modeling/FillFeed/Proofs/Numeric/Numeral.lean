import Mathlib
import FillFeed.Proofs.Numeric.Written

/-!
# Numbers as they are reported

A `Numeral` is a number in decimal notation: perhaps a sign, digits, and perhaps a point with more
digits behind it. Its value is a rational number that owes nothing to the reader of decimals. Where
there are digits, no more than 28 of them behind the point, and together they make up less than
2^96, the reader finds exactly this number, with as many fraction digits (`read?_toChars`). Commas
may be spelled anywhere in it, but no blanks (`solid_of_spelled`).
-/

namespace FillFeed

open Text

/-- What may stand in front of a number. -/
inductive Sign where
  | none
  | plus
  | minus

/-- The characters of a sign. -/
def Sign.toChars : Sign → List Char
  | .none => []
  | .plus => ['+']
  | .minus => ['-']

/-- A sign is not blank. -/
lemma Sign.solid (s : Sign) : ∀ c ∈ s.toChars, isBlank c = false := by
  cases s <;> simp [toChars, isBlank]

/-- A number in decimal notation, with the digits behind its point if it has one. -/
structure Numeral where
  sign : Sign
  whole : List (Fin 10)
  fraction : Option (List (Fin 10))

namespace Numeral

/-- The characters of digits. -/
def digitChars (ds : List (Fin 10)) : List Char := ds.map fun d => Nat.digitChar d.val

/-- The digits of a number with its point. -/
def bodyChars (n : Numeral) : List Char :=
  digitChars n.whole ++ n.fraction.elim [] fun ds => '.' :: digitChars ds

/-- The characters of a number. -/
def toChars (n : Numeral) : List Char := n.sign.toChars ++ n.bodyChars

/-- All digits of a number. -/
def digits (n : Numeral) : List (Fin 10) := n.whole ++ n.fraction.getD []

/-- The number of digits behind the point. -/
def scale (n : Numeral) : ℕ := (n.fraction.getD []).length

/-- What the digits make up without the point. -/
def mantissa (n : Numeral) : ℕ := Nat.ofDigits 10 (n.digits.reverse.map Fin.val)

/-- The number that is denoted. -/
def value (n : Numeral) : ℚ :=
  match n.sign with
  | .minus => -(n.mantissa / 10 ^ n.scale)
  | _ => n.mantissa / 10 ^ n.scale

/-- A number that can be read without rounding. -/
structure Exact (n : Numeral) : Prop where
  digits_ne_nil : n.digits ≠ []
  scale_le : n.scale ≤ 28
  mantissa_lt : n.mantissa < 2 ^ 96

/-- A text spells a number when the number is left without the commas. -/
def Spelled (n : Numeral) (cs : List Char) : Prop := cs.filter (· != ',') = n.toChars

/-- The character of a digit is read as this digit. -/
lemma digit?_digitChar (d : Fin 10) : digit? (Nat.digitChar d) = some d.val := by
  decide +revert

/-- The characters of digits are digits, with these values. -/
lemma digits_digitChars (ds : List (Fin 10)) : Digits (digitChars ds) (ds.map Fin.val) := by
  induction ds with
  | nil => exact .nil
  | cons d ds ih => exact .cons (digit?_digitChar d) ih

/-- The reader and the positional notation agree about what digits make up. -/
lemma natOfDigits_val (n : Numeral) : natOfDigits (n.digits.map Fin.val) = n.mantissa := by
  rw [mantissa, Nat.ofDigits_eq_foldr, List.map_reverse, List.foldr_reverse, natOfDigits, extendNat]
  congr 1
  funext m d
  simp [Nat.mul_comm, Nat.add_comm]

/-- The decimal that a number is. -/
def toDecimal (n : Numeral) (exact : n.Exact) : Decimal :=
  ⟨n.sign matches .minus, n.mantissa, n.scale, exact.mantissa_lt, exact.scale_le⟩

/-- The decimal that a number is has the value that is denoted. -/
lemma value_toDecimal (n : Numeral) (exact : n.Exact) : (n.toDecimal exact).value = n.value := by
  rw [Decimal.value, value]
  cases sign : n.sign <;> simp [toDecimal, sign, Decimal.magnitude]

/-- The digits of a number with its point are read as they are meant. -/
lemma scan_bodyChars (n : Numeral) (exact : n.Exact) (negative : Bool) :
    Decimal.scan negative ⟨0, 0, false, false⟩ n.bodyChars =
      Decimal.make? negative n.mantissa n.scale := by
  have filled : n.digits.map Fin.val ≠ [] := by simpa using exact.digits_ne_nil
  have fits : natOfDigits (n.digits.map Fin.val) < Decimal.mantissaBound := by
    rw [natOfDigits_val]
    exact exact.mantissa_lt
  have room : n.scale ≤ Decimal.maxScale := exact.scale_le
  rw [← natOfDigits_val]
  obtain ⟨sign, whole, _ | fraction⟩ := n
  · have digits : Digits (digitChars whole ++ []) ((whole ++ []).map Fin.val) := by
      simpa using digits_digitChars whole
    exact Decimal.scan_whole digits filled fits
  · have room' : (fraction.map Fin.val).length ≤ Decimal.maxScale := by
      rwa [List.length_map]
    have split : (whole ++ fraction).map Fin.val = whole.map Fin.val ++ fraction.map Fin.val :=
      List.map_append
    have read := @Decimal.scan_point negative _ _ _ _ (digits_digitChars whole)
      (digits_digitChars fraction) (split ▸ filled) (split ▸ fits) room'
    rwa [← split, List.length_map] at read

/-- Neither a digit nor the point is a sign. -/
lemma head_bodyChars (n : Numeral) : ∀ c ∈ n.bodyChars.head?, c ≠ '-' ∧ c ≠ '+' := by
  obtain ⟨sign, _ | ⟨d, whole⟩, _ | fraction⟩ := n
  · rintro c ⟨⟩
  · rintro c ⟨⟩
    decide
  all_goals
    rintro c ⟨⟩
    exact ⟨ne_of_digit? (digit?_digitChar d) (by decide),
      ne_of_digit? (digit?_digitChar d) (by decide)⟩

/-- A number is read as the decimal that it is, without its sign if it is zero. -/
lemma read?_toChars (n : Numeral) (exact : n.Exact) :
    Decimal.read? (String.ofList n.toChars) = some (n.toDecimal exact).dropZeroSign := by
  have plain : Decimal.plain? n.toChars = some (n.toDecimal exact).dropZeroSign := by
    rw [← Decimal.make?_eq, toDecimal, ← n.scan_bodyChars exact, toChars]
    cases n.sign with
    | plus => rfl
    | minus => rfl
    | none => exact Decimal.plain?_unsigned n.head_bodyChars
  rw [Decimal.read?, String.toList_ofList, plain]

/-- The characters that a number is spelled with are not blank. -/
lemma solid_of_spelled {n : Numeral} {cs : List Char} (spelled : n.Spelled cs) :
    ∀ c ∈ cs, isBlank c = false := by
  intro c mem
  by_cases comma : c = ','
  · rw [comma]
    decide
  have kept : c ∈ n.toChars := by
    rw [← spelled]
    exact List.mem_filter.2 ⟨mem, bne_iff_ne.2 comma⟩
  rw [toChars, bodyChars, List.mem_append, List.mem_append] at kept
  obtain inSign | inWhole | inFraction := kept
  · exact n.sign.solid c inSign
  · exact (digits_digitChars n.whole).solid c inWhole
  · cases fraction : n.fraction with
    | none => simp [fraction] at inFraction
    | some ds =>
      rw [fraction, Option.elim_some, List.mem_cons] at inFraction
      obtain rfl | inDigits := inFraction
      · decide
      · exact (digits_digitChars ds).solid c inDigits

end Numeral

end FillFeed
