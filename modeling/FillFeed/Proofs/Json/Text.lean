import Mathlib
import FillFeed.Json.Reader
import FillFeed.Json.Writer

/-!
# Texts in JSON

A string that was written is read back as it was, whatever characters it has in it
(`pieces_escaped`). Since the reader stops at the closing quote, a written string also cannot run
into what stands behind it, so that a text in which a string was written determines the string
(`stringChars_append_inj`).
-/

namespace FillFeed.Json

/-- The code of a control is read back as the control. -/
lemma ofUnit_hexUnit? {c : Char} (control : c.toNat < 0x20) :
    (hexUnit? '0' '0' (Nat.digitChar (c.toNat / 16)) (Nat.digitChar (c.toNat % 16))).map
      Piece.ofUnit = some (.char c) := by
  have all : ∀ n < 0x20, hexUnit? '0' '0' (Nat.digitChar (n / 16)) (Nat.digitChar (n % 16)) =
      some n := by decide
  rw [all c.toNat control, Option.map_some]
  have low : ¬(0xD800 ≤ c.toNat ∧ c.toNat ≤ 0xDBFF) := by omega
  have high : ¬(0xDC00 ≤ c.toNat ∧ c.toNat ≤ 0xDFFF) := by omega
  rw [Piece.ofUnit, if_neg low, if_neg high, Char.ofNat_toNat]

/-- A character that was written is read back as it was. -/
lemma pieces_escapeChar {c : Char} {cs rest : List Char} {ps : List Piece}
    (tail : pieces cs = some (ps, rest)) :
    pieces (escapeChar c ++ cs) = some (.char c :: ps, rest) := by
  unfold escapeChar
  split
  · simp [pieces, shortEscape?, tail]
  · simp [pieces, shortEscape?, tail]
  · simp [pieces, shortEscape?, tail]
  · simp [pieces, shortEscape?, tail]
  · simp [pieces, shortEscape?, tail]
  · simp [pieces, shortEscape?, tail]
  · simp [pieces, shortEscape?, tail]
  -- no short form: the code of a control, or the character itself
  · rename_i quote backslash _ _ _ _ _
    split
    · rename_i control
      obtain ⟨n, unit, piece⟩ := Option.map_eq_some_iff.1 (ofUnit_hexUnit? control)
      simp [pieces, hexPair, unit, piece, tail]
    · rename_i plain
      rw [List.singleton_append, pieces, if_neg plain, tail]
      · exact quote
      · exact fun _ _ _ _ _ e _ => backslash e
      · exact fun _ _ e _ => backslash e

/-- The characters of a string that was written are read back as they were. -/
lemma pieces_escaped (s rest : List Char) :
    pieces (s.flatMap escapeChar ++ '"' :: rest) = some (s.map .char, rest) := by
  induction s with
  | nil => simp [pieces]
  | cons c s ih =>
    rw [List.flatMap_cons, List.append_assoc]
    exact pieces_escapeChar ih

/-- A text that begins with a string determines the string and what stands behind it. -/
lemma stringChars_append_inj {s s' : String} {rest rest' : List Char}
    (same : stringChars s ++ rest = stringChars s' ++ rest') : s = s' ∧ rest = rest' := by
  have bodies : s.toList.flatMap escapeChar ++ '"' :: rest =
      s'.toList.flatMap escapeChar ++ '"' :: rest' := by simpa [stringChars] using same
  have read := congrArg pieces bodies
  rw [pieces_escaped, pieces_escaped] at read
  obtain ⟨chars, rests⟩ := Prod.mk.inj (Option.some_inj.1 read)
  have inj : Function.Injective Piece.char := fun _ _ e => Piece.char.inj e
  exact ⟨String.toList_injective (inj.list_map chars), rests⟩

end FillFeed.Json
