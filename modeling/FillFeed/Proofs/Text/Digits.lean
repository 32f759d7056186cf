import Mathlib
import FillFeed.Fill.TimeOfDay
import FillFeed.Numeric.Decimal

/-!
# Digits that denote a number

The digits that a number is written with denote this number (`digits_toDigits`), and they still do
with zeros put in front of them (`digits_padDigits`). `Text.Digits` relates the characters to the
values of the digits, so that whoever reads digits one by one follows it by induction.
-/

namespace FillFeed

namespace Text

/-- Characters that are digits, and their values. -/
def Digits (cs : List Char) (ds : List Nat) : Prop :=
  List.Forall₂ (fun c d => digit? c = some d) cs ds

variable {cs cs' rest : List Char} {ds ds' : List Nat}

/-- Digits behind digits are digits. -/
lemma Digits.append (first : Digits cs ds) (second : Digits cs' ds') :
    Digits (cs ++ cs') (ds ++ ds') :=
  List.rel_append first second

/-- There are as many values as digits. -/
lemma Digits.length_eq (digits : Digits cs ds) : cs.length = ds.length :=
  List.Forall₂.length_eq digits

/-- The value of a digit is how far its code point is from that of zero. -/
lemma digit?_of_isDigit {c : Char} (digit : c.isDigit = true) :
    digit? c = some (c.toNat - '0'.toNat) := by
  rw [digit?, if_pos]
  simpa [Char.isDigit, Char.le_def] using digit

/-- A digit is neither blank nor one of the marks that stand next to digits. -/
lemma ne_of_digit? {c mark : Char} {d : Nat} (digit : digit? c = some d)
    (other : digit? mark = none) : c ≠ mark := by
  rintro rfl
  cases digit.symm.trans other

/-- A digit is not blank. -/
lemma isBlank_of_digit? {c : Char} {d : Nat} (digit : digit? c = some d) : isBlank c = false := by
  unfold digit? at digit
  split at digit
  · rename_i range
    rw [Char.le_def, Char.le_def, UInt32.le_iff_toNat_le, UInt32.le_iff_toNat_le] at range
    have low : 48 ≤ c.toNat := range.1
    have high : c.toNat ≤ 57 := range.2
    unfold isBlank
    simp only [Bool.or_eq_false_iff, Bool.and_eq_false_imp, decide_eq_true_eq,
      decide_eq_false_iff_not, not_le, beq_eq_false_iff_ne, ne_eq]
    omega
  · cases digit

/-- There are no blanks among digits. -/
lemma Digits.solid (digits : Digits cs ds) : ∀ c ∈ cs, isBlank c = false := by
  induction digits with
  | nil => exact fun c mem => absurd mem List.not_mem_nil
  | cons first others ih => exact List.forall_mem_cons.2 ⟨isBlank_of_digit? first, ih⟩

/-- All digits that stand together are read. -/
lemma spanDigits_digits (digits : Digits cs ds)
    (stops : ∀ c ∈ rest.head?, digit? c = none) : spanDigits (cs ++ rest) = (ds, rest) := by
  induction digits with
  | nil =>
    cases rest with
    | nil => rfl
    | cons c rest => rw [List.nil_append, spanDigits, stops c rfl]
  | @cons c d cs ds first others ih =>
    rw [List.cons_append, spanDigits]
    simp only [first, ih]

/-- The digits after others shift these by as many places. -/
lemma extendNat_append (n : Nat) (ds ds' : List Nat) :
    extendNat n (ds ++ ds') = extendNat (extendNat n ds) ds' := List.foldl_append

/-- A number with more digits behind it is moved up by as many places. -/
lemma extendNat_eq (n : Nat) (ds : List Nat) :
    extendNat n ds = n * 10 ^ ds.length + natOfDigits ds := by
  induction ds using List.reverseRecOn with
  | nil => simp [extendNat, natOfDigits]
  | append_singleton ds d ih =>
    rw [natOfDigits, extendNat_append, extendNat_append, ih]
    simp only [extendNat, List.foldl_cons, List.foldl_nil, natOfDigits, List.length_append,
      List.length_singleton, pow_succ]
    ring

/-- The digits of a number in base ten denote the number. -/
lemma digits_toDigits (n : Nat) : ∃ ds, Digits (Nat.toDigits 10 n) ds ∧ natOfDigits ds = n := by
  have denotes (cs : List Char) (m : Nat) (digits : ∀ c ∈ cs, c.isDigit = true) :
      ∃ ds, Digits cs ds ∧ extendNat m ds = Nat.ofDigitChars 10 cs m := by
    induction cs generalizing m with
    | nil => exact ⟨[], .nil, rfl⟩
    | cons c cs ih =>
      obtain ⟨ds, others, value⟩ := ih (10 * m + (c.toNat - '0'.toNat)) fun c mem =>
        digits c (List.mem_cons_of_mem _ mem)
      have first : digit? c = some (c.toNat - '0'.toNat) :=
        digit?_of_isDigit (digits c List.mem_cons_self)
      refine ⟨_ :: ds, .cons first others, ?_⟩
      rw [extendNat, List.foldl_cons, ← extendNat, Nat.mul_comm m 10, value]
      rfl
  obtain ⟨ds, digits, value⟩ := denotes (Nat.toDigits 10 n) 0 fun c mem =>
    Nat.isDigit_of_mem_toDigits (by decide) le_rfl mem
  exact ⟨ds, digits, value.trans Nat.ofDigitChars_ten_toDigits⟩

/-- Zeros in front of a number do not change it, and fill it up to the width asked for. -/
lemma digits_padDigits (width n : Nat) : ∃ ds, Digits (Decimal.padDigits width n) ds ∧
    natOfDigits ds = n ∧ (0 < width → n < 10 ^ width → ds.length = width) := by
  obtain ⟨ds, digits, value⟩ := digits_toDigits n
  have zeros (k : Nat) : Digits (List.replicate k '0') (List.replicate k 0) := by
    induction k with
    | zero => exact .nil
    | succ k ih => exact .cons (by decide) ih
  refine ⟨_, (zeros (width - (Nat.toDigits 10 n).length)).append digits, ?_, ?_⟩
  · have plain (k : Nat) : extendNat 0 (List.replicate k 0) = 0 := by
      induction k with
      | zero => rfl
      | succ k ih => exact ih
    rw [natOfDigits, extendNat_append, plain]
    exact value
  · intro positive small
    have fits : (Nat.toDigits 10 n).length ≤ width :=
      (Nat.length_toDigits_le_iff (by decide) positive).2 small
    rw [List.length_append, List.length_replicate, ← digits.length_eq]
    omega

end Text

end FillFeed
