import Mathlib
import FillFeed.Frame.Payload

/-!
# Fields and the blanks behind them

A frame is trimmed as a whole before it is cut into fields, so its last field loses the blanks at
its end. This changes nothing: the parts of a payload are trimmed one by one, and the blanks at the
end belong to the last of them (`parts_trimEnd`). Fields that were joined are found again
(`split_intercalate`), and so is a word with blanks around it (`trim_eq_iff`).
-/

namespace FillFeed

namespace Text

/-- A text has at least one field, even if there is nothing in it. -/
lemma splitChars_ne_nil (sep : Char) (cs : List Char) : splitChars sep cs ≠ [] := by
  cases cs with
  | nil => simp [splitChars]
  | cons c cs =>
    rw [splitChars]
    split
    · simp
    · split <;> simp

/-- A text without the separator is one field. -/
lemma splitChars_of_not_mem {sep : Char} {cs : List Char} (absent : sep ∉ cs) :
    splitChars sep cs = [cs] := by
  induction cs with
  | nil => rfl
  | cons c cs ih =>
    simp only [List.mem_cons, not_or] at absent
    rw [splitChars, if_neg (Ne.symm absent.1), ih absent.2]

/-- The first field ends at the first separator, and the rest is split on its own. -/
lemma splitChars_append_sep {sep : Char} {cs : List Char} (absent : sep ∉ cs) (rest : List Char) :
    splitChars sep (cs ++ sep :: rest) = cs :: splitChars sep rest := by
  induction cs with
  | nil => simp [splitChars]
  | cons c cs ih =>
    simp only [List.mem_cons, not_or] at absent
    rw [List.cons_append, splitChars, if_neg (Ne.symm absent.1), ih absent.2]

/-- A text without the blanks at its end. -/
def trimEnd (cs : List Char) : List Char := (dropBlanks cs.reverse).reverse

/-- A text is trimmed at its front first. -/
lemma trimChars_eq (cs : List Char) : trimChars cs = trimEnd (dropBlanks cs) := rfl

/-- Blanks behind a text do not matter once its end is trimmed. -/
lemma trimEnd_append_blanks (cs : List Char) {blanks : List Char}
    (blank : ∀ x ∈ blanks, isBlank x = true) : trimEnd (cs ++ blanks) = trimEnd cs := by
  have dropped : dropBlanks (blanks.reverse ++ cs.reverse) = dropBlanks cs.reverse :=
    List.dropWhile_append_of_pos (by simpa using blank)
  rw [trimEnd, List.reverse_append, dropped, trimEnd]

/-- What is trimmed off the end of a text is blanks. -/
lemma exists_blanks_of_trimEnd (cs : List Char) :
    ∃ blanks, (∀ x ∈ blanks, isBlank x = true) ∧ cs = trimEnd cs ++ blanks := by
  refine ⟨(cs.reverse.takeWhile isBlank).reverse, ?_, ?_⟩
  · intro x mem
    exact List.mem_takeWhile_imp (List.mem_reverse.1 mem)
  · rw [trimEnd, dropBlanks, ← List.reverse_append, List.takeWhile_append_dropWhile,
      List.reverse_reverse]

/-- No character is new once the end of a text is trimmed. -/
lemma mem_of_mem_trimEnd {cs : List Char} {x : Char} (mem : x ∈ trimEnd cs) : x ∈ cs := by
  obtain ⟨blanks, -, whole⟩ := exists_blanks_of_trimEnd cs
  rw [whole]
  exact List.mem_append_left blanks mem

/-- A trimmed text stands in the text. -/
lemma trimChars_infix (cs : List Char) : trimChars cs <:+: cs := by
  obtain ⟨blanks, -, whole⟩ := exists_blanks_of_trimEnd (dropBlanks cs)
  have first : trimEnd (dropBlanks cs) <+: dropBlanks cs := by
    conv_rhs => rw [whole]
    exact List.prefix_append _ _
  have second : dropBlanks cs <:+ cs := List.dropWhile_suffix isBlank
  rw [trimChars_eq]
  exact first.isInfix.trans second.isInfix

/-- Only what stands behind a character that is not blank can lose blanks at the end. -/
lemma trimEnd_append_cons (front : List Char) {x : Char} (solid : isBlank x = false)
    (back : List Char) : trimEnd (front ++ x :: back) = front ++ x :: trimEnd back := by
  have kept : dropBlanks (back.reverse ++ x :: front.reverse) =
      dropBlanks back.reverse ++ x :: front.reverse := by
    have head : dropBlanks (x :: front.reverse) = x :: front.reverse := by
      simp [dropBlanks, solid]
    rw [dropBlanks, List.dropWhile_append]
    split
    · rename_i gone
      rw [dropBlanks, List.isEmpty_iff.1 gone, List.nil_append]
      exact head
    · rfl
  simp [trimEnd, kept]

/-- A text without blanks stays as it is when its end is trimmed. -/
lemma trimEnd_of_solid {cs : List Char} (solid : ∀ x ∈ cs, isBlank x = false) :
    trimEnd cs = cs := by
  rw [trimEnd, dropBlanks_of_head, List.reverse_reverse]
  intro x mem
  exact solid x (List.mem_reverse.1 (List.mem_of_head? mem))

/-- Blanks behind a text do not matter once it is trimmed. -/
lemma trimChars_append_blanks (cs : List Char) {blanks : List Char}
    (blank : ∀ x ∈ blanks, isBlank x = true) : trimChars (cs ++ blanks) = trimChars cs := by
  have front : dropBlanks (cs ++ blanks) = dropBlanks cs ++ blanks ∨
      dropBlanks (cs ++ blanks) = [] ∧ dropBlanks cs = [] := by
    rw [dropBlanks, List.dropWhile_append]
    split
    · rename_i gone
      exact .inr ⟨List.dropWhile_eq_nil_iff.2 blank, List.isEmpty_iff.1 gone⟩
    · exact .inl rfl
  obtain kept | ⟨gone, all⟩ := front
  · rw [trimChars_eq, kept, trimEnd_append_blanks (dropBlanks cs) blank, trimChars_eq]
  · rw [trimChars_eq, gone, trimChars_eq, all]

/-- Characters at the end of a text, none of them a separator, belong to its last field. -/
lemma splitChars_append (sep : Char) (cs : List Char) :
    ∃ front last, splitChars sep cs = front ++ [last] ∧
      ∀ more, sep ∉ more → splitChars sep (cs ++ more) = front ++ [last ++ more] := by
  induction cs with
  | nil => exact ⟨[], [], rfl, fun more none => splitChars_of_not_mem none⟩
  | cons c cs ih =>
    obtain ⟨front, last, whole, longer⟩ := ih
    by_cases cut : c = sep
    · refine ⟨[] :: front, last, ?_, ?_⟩
      · rw [splitChars, if_pos cut, whole, List.cons_append]
      · intro more none
        rw [List.cons_append, splitChars, if_pos cut, longer more none, List.cons_append]
    · cases front with
      | nil =>
        refine ⟨[], c :: last, ?_, ?_⟩
        · rw [splitChars, if_neg cut, whole]
          rfl
        · intro more none
          rw [List.cons_append, splitChars, if_neg cut, longer more none]
          rfl
      | cons first front =>
        refine ⟨(c :: first) :: front, last, ?_, ?_⟩
        · rw [splitChars, if_neg cut, whole]
          rfl
        · intro more none
          rw [List.cons_append, splitChars, if_neg cut, longer more none]
          rfl

/-- A text wraps a word when there is nothing but blanks around it. -/
def Wraps (s : String) (word : List Char) : Prop :=
  ∃ before after, (∀ c ∈ before ++ after, isBlank c = true) ∧ s.toList = before ++ word ++ after

/-- Trimming takes a text without blanks at its ends out of the blanks around it, and there is only
one such text. -/
lemma trim_eq_iff {s t : String} : trim s = t ↔ Wraps s t.toList ∧ Trimmed t.toList := by
  constructor
  · rintro rfl
    rw [toList_trim]
    obtain ⟨after, blank, whole⟩ := exists_blanks_of_trimEnd (dropBlanks s.toList)
    refine ⟨⟨s.toList.takeWhile isBlank, after, ?_, ?_⟩, trimmed_trimChars s.toList⟩
    · exact List.forall_mem_append.2 ⟨fun c mem => List.mem_takeWhile_imp mem, blank⟩
    · rw [trimChars_eq, List.append_assoc, ← whole, dropBlanks, List.takeWhile_append_dropWhile]
  · rintro ⟨⟨before, after, blank, whole⟩, trimmed⟩
    rw [List.forall_mem_append] at blank
    have front : dropBlanks (before ++ t.toList) = dropBlanks t.toList :=
      List.dropWhile_append_of_pos blank.1
    rw [← String.toList_inj, toList_trim, whole, trimChars_append_blanks _ blank.2, trimChars_eq,
      front, ← trimChars_eq, trimChars_of_trimmed trimmed]

/-- A text that wraps a word without blanks is trimmed to this word. -/
lemma trim_of_wraps {s : String} {word : List Char} (wraps : Wraps s word)
    (solid : ∀ c ∈ word, isBlank c = false) : trim s = String.ofList word := by
  rw [trim_eq_iff, String.toList_ofList]
  exact ⟨wraps, fun c mem => solid c (List.mem_of_head? mem),
    fun c mem => solid c (List.mem_of_getLast? mem)⟩

/-- Splitting finds the texts that were joined. -/
lemma split_intercalate {sep : Char} {texts : List String} (some : texts ≠ [])
    (apart : ∀ t ∈ texts, sep ∉ t.toList) :
    split sep ((String.singleton sep).intercalate texts) = texts := by
  induction texts with
  | nil => exact absurd rfl some
  | cons t texts ih =>
    rw [List.forall_mem_cons] at apart
    cases texts with
    | nil =>
      rw [String.intercalate_singleton, split, splitChars_of_not_mem apart.1, List.map_singleton,
        String.ofList_toList]
    | cons u texts =>
      have others := ih (List.cons_ne_nil _ _) apart.2
      rw [split] at others
      rw [String.intercalate_cons_cons, split, String.toList_append, String.toList_append,
        String.toList_singleton, List.append_assoc, List.singleton_append,
        splitChars_append_sep apart.1, List.map_cons, others, String.ofList_toList]

/-- What is in none of the texts and is not between them is not in the text that joins them. -/
lemma not_mem_intercalate {c : Char} {between : String} {texts : List String}
    (other : c ∉ between.toList) (apart : ∀ t ∈ texts, c ∉ t.toList) :
    c ∉ (between.intercalate texts).toList := by
  induction texts with
  | nil => simp
  | cons t texts ih =>
    rw [List.forall_mem_cons] at apart
    cases texts with
    | nil => simpa using apart.1
    | cons u texts =>
      rw [String.intercalate_cons_cons, String.toList_append, String.toList_append,
        List.mem_append, List.mem_append, not_or, not_or]
      exact ⟨⟨apart.1, other⟩, ih apart.2⟩

end Text

namespace Payload

open Text

/-- The parts of a payload do not depend on the blanks at its end. -/
lemma parts_trimEnd (payload : String) :
    parts (String.ofList (trimEnd payload.toList)) = parts payload := by
  obtain ⟨blanks, blank, whole⟩ := exists_blanks_of_trimEnd payload.toList
  have none : separator ∉ blanks := fun mem => absurd (blank _ mem) (by decide)
  obtain ⟨front, last, short, longer⟩ := splitChars_append separator (trimEnd payload.toList)
  have long := longer blanks none
  rw [← whole] at long
  have final : trim (String.ofList (last ++ blanks)) = trim (String.ofList last) := by
    rw [trim, String.toList_ofList, trimChars_append_blanks last blank, trim, String.toList_ofList]
  simp only [parts, split, String.toList_ofList, short, long, List.map_append, List.map_cons,
    List.map_nil, final]

/-- Blanks at the end of a payload do not matter. -/
lemma fill?_trimEnd (streamId : String) (market : Market) (symbol : Option String)
    (payload : String) :
    fill? streamId market symbol (String.ofList (trimEnd payload.toList)) =
      fill? streamId market symbol payload := by
  rw [fill?, parts_trimEnd, fill?]

end Payload

end FillFeed
