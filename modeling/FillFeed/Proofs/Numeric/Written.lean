import Mathlib
import FillFeed.Numeric.DecimalReader
import FillFeed.Proofs.Numeric.Product
import FillFeed.Proofs.Text.Digits

/-!
# Written decimals read back

A decimal is written with all its fraction digits, so that reading finds its mantissa and its scale
again, whatever they are (`Decimal.read?_toText`): while the digits are read one by one the mantissa
stays below the one that they make up in the end, and never runs over. Only the sign of a zero is
lost on the way.
-/

namespace FillFeed.Decimal

open Text

variable {negative : Bool} {p : Progress} {cs rest : List Char} {ds : List Nat}

/-- Digits that fit are taken one by one. -/
lemma scan_digits (digits : Digits cs ds) (fits : extendNat p.mantissa ds < mantissaBound)
    (room : p.point = true → p.scale + ds.length ≤ maxScale) :
    scan negative p (cs ++ rest) = scan negative ⟨extendNat p.mantissa ds,
      if p.point then p.scale + ds.length else p.scale, p.point, p.digit || !ds.isEmpty⟩ rest := by
  induction digits generalizing p with
  | nil => simp [extendNat]
  | @cons c d cs ds first others ih =>
    -- the mantissa so far is at most the one that comes out
    have so_far : p.mantissa * 10 + d < mantissaBound := by
      have grows := extendNat_eq (p.mantissa * 10 + d) ds
      have whole : extendNat p.mantissa (d :: ds) = extendNat (p.mantissa * 10 + d) ds := rfl
      have positive : 1 ≤ 10 ^ ds.length := Nat.one_le_pow _ _ (by decide)
      nlinarith
    have open_end : ¬((p.point && p.scale == maxScale) = true) := by
      intro full
      obtain ⟨point, last⟩ := Bool.and_eq_true_iff.1 full
      have := room point
      rw [List.length_cons] at this
      have := beq_iff_eq.1 last
      omega
    rw [List.cons_append, scan]
    simp only [first]
    rw [if_neg open_end, if_pos so_far]
    have after := @ih ⟨p.mantissa * 10 + d, if p.point then p.scale + 1 else p.scale, p.point, true⟩
      fits (by
        intro point
        have := room point
        rw [List.length_cons] at this
        simp only at point ⊢
        rw [if_pos point]
        omega)
    rw [after]
    congr 1
    cases p.point <;> simp [extendNat, Nat.add_assoc, Nat.add_comm 1]

/-- Digits are read as the number that they make up. -/
lemma scan_whole (digits : Digits cs ds) (filled : ds ≠ [])
    (fits : natOfDigits ds < mantissaBound) :
    scan negative ⟨0, 0, false, false⟩ cs = make? negative (natOfDigits ds) 0 := by
  have taken := @scan_digits negative ⟨0, 0, false, false⟩ cs [] ds digits fits nofun
  have seen : (false || !ds.isEmpty) = true := by simpa using filled
  rw [List.append_nil, seen] at taken
  rw [taken, scan]
  rfl

/-- Digits with a point among them are read as the number that they make up without the point, with
as many fraction digits as stand behind it. -/
lemma scan_point {ws fs : List Char} {wholes fractions : List Nat} (digits : Digits ws wholes)
    (digits' : Digits fs fractions) (filled : wholes ++ fractions ≠ [])
    (fits : natOfDigits (wholes ++ fractions) < mantissaBound)
    (room : fractions.length ≤ maxScale) :
    scan negative ⟨0, 0, false, false⟩ (ws ++ '.' :: fs) =
      make? negative (natOfDigits (wholes ++ fractions)) fractions.length := by
  have together : extendNat (natOfDigits wholes) fractions = natOfDigits (wholes ++ fractions) :=
    (extendNat_append 0 wholes fractions).symm
  have front_fits : natOfDigits wholes < mantissaBound := by
    have grows := extendNat_eq (natOfDigits wholes) fractions
    have positive : 1 ≤ 10 ^ fractions.length := Nat.one_le_pow _ _ (by decide)
    nlinarith
  have front := @scan_digits negative ⟨0, 0, false, false⟩ ws ('.' :: fs) wholes digits
    front_fits nofun
  have point : scan negative ⟨natOfDigits wholes, 0, false, !wholes.isEmpty⟩ ('.' :: fs) =
      scan negative ⟨natOfDigits wholes, 0, true, !wholes.isEmpty⟩ fs := by
    rw [scan, (by decide : digit? '.' = none)]
    rfl
  have back := @scan_digits negative ⟨natOfDigits wholes, 0, true, !wholes.isEmpty⟩ fs [] fractions
    digits' (together.trans_lt fits) fun _ => by simpa using room
  have seen : (!wholes.isEmpty || !fractions.isEmpty) = true := by
    simpa [Classical.or_iff_not_imp_left] using filled
  rw [List.append_nil] at back
  rw [front, if_neg (by decide), Bool.false_or, ← natOfDigits, point, back, if_pos rfl, seen,
    together, scan, if_pos rfl, Nat.zero_add]

/-- Digits and a point have no sign in front. -/
lemma plain?_unsigned (unsigned : ∀ c ∈ cs.head?, c ≠ '-' ∧ c ≠ '+') :
    plain? cs = scan false ⟨0, 0, false, false⟩ cs := by
  unfold plain?
  split
  · exact absurd rfl (unsigned _ rfl).1
  · exact absurd rfl (unsigned _ rfl).2
  · rfl

/-- A number that begins with a digit has no sign. -/
lemma plain?_digits (digits : Digits cs ds) (some : cs ≠ []) :
    plain? (cs ++ rest) = scan false ⟨0, 0, false, false⟩ (cs ++ rest) := by
  refine plain?_unsigned ?_
  cases digits with
  | nil => exact absurd rfl some
  | cons first =>
    rintro c ⟨⟩
    exact ⟨ne_of_digit? first (by decide), ne_of_digit? first (by decide)⟩

/-- The digits of a decimal with the point between them, without the sign. -/
def bodyChars (d : Decimal) : List Char :=
  if d.scale = 0 then Nat.toDigits 10 d.mantissa
  else Nat.toDigits 10 (d.mantissa / tenPow d.scale) ++
    '.' :: padDigits d.scale (d.mantissa % tenPow d.scale)

/-- A decimal is written with a minus in front if it is negative. -/
lemma toChars_eq (d : Decimal) :
    d.toChars = if d.negative then '-' :: d.bodyChars else d.bodyChars := rfl

/-- The digits of a decimal make up its mantissa, with as many after the point as its scale says. -/
lemma bodyChars_cases (d : Decimal) :
    (d.scale = 0 ∧ d.bodyChars ≠ [] ∧ ∃ ds, Digits d.bodyChars ds ∧ natOfDigits ds = d.mantissa) ∨
      ∃ ws wholes fs fractions, d.bodyChars = ws ++ '.' :: fs ∧ ws ≠ [] ∧ Digits ws wholes ∧
        Digits fs fractions ∧ fractions.length = d.scale ∧
          extendNat (natOfDigits wholes) fractions = d.mantissa := by
  unfold bodyChars
  split
  · rename_i whole
    exact .inl ⟨whole, Nat.toDigits_ne_nil, digits_toDigits d.mantissa⟩
  · rename_i broken
    obtain ⟨wholes, digits, value⟩ := digits_toDigits (d.mantissa / tenPow d.scale)
    obtain ⟨fractions, digits', value', length⟩ :=
      digits_padDigits d.scale (d.mantissa % tenPow d.scale)
    have scale : fractions.length = d.scale :=
      length (Nat.pos_of_ne_zero broken) (Nat.mod_lt _ (Nat.pow_pos (by decide)))
    refine .inr ⟨_, wholes, _, fractions, rfl, Nat.toDigits_ne_nil, digits, digits', scale, ?_⟩
    rw [extendNat_eq, value, value', scale]
    exact Nat.div_add_mod' d.mantissa (tenPow d.scale)

/-- The digits of a decimal are read as its mantissa and its scale. -/
lemma scan_bodyChars (d : Decimal) (negative : Bool) :
    scan negative ⟨0, 0, false, false⟩ d.bodyChars = make? negative d.mantissa d.scale := by
  have filled {cs : List Char} {ds : List Nat} (some : cs ≠ []) (digits : Digits cs ds) :
      ds ≠ [] := by
    rintro rfl
    exact some (List.length_eq_zero_iff.1 digits.length_eq)
  obtain ⟨scale, some, ds, digits, value⟩ |
    ⟨ws, wholes, fs, fractions, e, some, digits, digits', scale, value⟩ := d.bodyChars_cases
  · rw [scan_whole digits (filled some digits) (value.trans_lt d.mantissa_lt), value, scale]
  · have whole : natOfDigits (wholes ++ fractions) = d.mantissa :=
      (extendNat_append 0 wholes fractions).trans value
    have back : wholes ++ fractions ≠ [] := List.append_ne_nil_of_left_ne_nil (filled some digits) _
    have fits := whole.trans_lt d.mantissa_lt
    have room := scale.trans_le d.scale_le
    rw [e, scan_point digits digits' back fits room, whole, scale]

/-- The number with its sign. -/
def value (d : Decimal) : ℚ := if d.negative then -d.magnitude else d.magnitude

/-- The same number with as many fraction digits. -/
def Alike (a b : Decimal) : Prop := a.value = b.value ∧ a.scale = b.scale

/-- A zero is the same number with and without its sign, and any other number keeps its sign. -/
lemma dropZeroSign_alike (d : Decimal) : d.dropZeroSign.Alike d := by
  refine ⟨?_, rfl⟩
  by_cases zero : d.mantissa = 0
  · have nothing : d.magnitude = 0 := by rw [magnitude, zero, Nat.cast_zero, zero_div]
    have nothing' : d.dropZeroSign.magnitude = 0 := nothing
    rw [value, value, nothing, nothing', neg_zero, ite_self, ite_self]
  · have same : d.dropZeroSign = d := by
      rw [dropZeroSign, bne_iff_ne.2 zero, Bool.and_true]
    rw [same]

/-- A decimal is made again of its parts, unless it is zero with a sign, which is dropped. -/
lemma make?_eq (d : Decimal) : make? d.negative d.mantissa d.scale = some d.dropZeroSign := by
  rw [make?, signed?, dif_pos ⟨d.mantissa_lt, d.scale_le⟩]
  rfl

/-- A decimal that was written is read back, without its sign if it is zero. -/
lemma read?_toText (d : Decimal) : read? d.toText = some d.dropZeroSign := by
  have plain : plain? d.toChars = some d.dropZeroSign := by
    rw [toChars_eq, ← make?_eq, ← scan_bodyChars]
    cases d.negative with
    | true => rfl
    | false =>
      obtain ⟨-, some, ds, digits, -⟩ | ⟨ws, wholes, fs, -, e, some, digits, -⟩ := d.bodyChars_cases
      · have unsigned := @plain?_digits _ [] _ digits some
        rwa [List.append_nil] at unsigned
      · rw [e]
        exact plain?_digits digits some
  rw [read?, toText, String.toList_ofList, plain]

end FillFeed.Decimal
