import Mathlib
import FillFeed.Settings.Lookup
import FillFeed.Proofs.Frame.Fields
import FillFeed.Proofs.Text.Uppercase

/-!
# Lists of codes

A list of codes is cut at its commas, and each entry that is not blank gives the upper-case form of
what is left of it without the blanks around it (`mem_codeList_iff`). Such a code is trimmed and in
upper case (`upper_of_mem_codeList`). Blanks around the whole list do not matter, although they are
taken off before it is cut (`codeList_trim`).
-/

namespace FillFeed

namespace Text

/-- Blanks in front of a text belong to its first field, where trimming takes them off. -/
lemma splitChars_dropBlanks {sep : Char} (solid : isBlank sep = false) (cs : List Char) :
    (splitChars sep (dropBlanks cs)).map trimChars = (splitChars sep cs).map trimChars := by
  induction cs with
  | nil => rfl
  | cons c cs ih =>
    cases blank : isBlank c with
    | false => rw [dropBlanks_of_head (by simpa using blank)]
    | true =>
      have dropped (rest : List Char) : dropBlanks (c :: rest) = dropBlanks rest :=
        List.dropWhile_cons_of_pos blank
      have kept : c ≠ sep := by
        rintro rfl
        cases blank.symm.trans solid
      rw [dropped, ih, splitChars, if_neg kept]
      cases fields : splitChars sep cs with
      | nil => exact absurd fields (splitChars_ne_nil sep cs)
      | cons field fields =>
        rw [List.map_cons, List.map_cons, trimChars, ← dropped field, ← trimChars]

/-- Blanks behind a text belong to its last field, where trimming takes them off. -/
lemma splitChars_trimEnd {sep : Char} (solid : isBlank sep = false) (cs : List Char) :
    (splitChars sep (trimEnd cs)).map trimChars = (splitChars sep cs).map trimChars := by
  obtain ⟨blanks, blank, whole⟩ := exists_blanks_of_trimEnd cs
  have none : sep ∉ blanks := by
    intro mem
    cases (blank sep mem).symm.trans solid
  obtain ⟨front, last, short, longer⟩ := splitChars_append sep (trimEnd cs)
  have long := longer blanks none
  rw [← whole] at long
  rw [short, long, List.map_append, List.map_append, List.map_singleton, List.map_singleton,
    trimChars_append_blanks last blank]

/-- The fields of a text, each of them trimmed, do not depend on the blanks around the text. -/
lemma split_trim {sep : Char} (solid : isBlank sep = false) (s : String) :
    (split sep (trim s)).map trim = (split sep s).map trim := by
  have chars (t : String) : (split sep t).map trim =
      ((splitChars sep t.toList).map trimChars).map String.ofList := by
    simp [split, trim, Function.comp_def]
  rw [chars, chars, toList_trim, trimChars_eq, splitChars_trimEnd solid,
    splitChars_dropBlanks solid]

end Text

namespace Settings

open Text

variable {list code : String}

/-- Blanks around a list do not matter. -/
lemma codeList_trim (list : String) : codeList (trim list) = codeList list := by
  rw [codeList, split_trim (by decide), codeList]

/-- A code is in a list if and only if it is the upper-case form of an entry with something left of
it. -/
lemma mem_codeList_iff : code ∈ codeList list ↔
    ∃ entry ∈ split ',' list, trim entry ≠ "" ∧ code = uppercase (trim entry) := by
  simp only [codeList, List.mem_map, List.mem_filter, bne_iff_ne]
  constructor
  · rintro ⟨_, ⟨⟨entry, listed, rfl⟩, filled⟩, rfl⟩
    exact ⟨entry, listed, filled, rfl⟩
  · rintro ⟨entry, listed, filled, rfl⟩
    exact ⟨_, ⟨⟨entry, listed, rfl⟩, filled⟩, rfl⟩

/-- The codes of a list are trimmed texts in upper case, and none of them is empty. -/
lemma upper_of_mem_codeList (mem : code ∈ codeList list) :
    (code ≠ "" ∧ trim code = code) ∧ uppercase code = code := by
  obtain ⟨entry, -, filled, rfl⟩ := mem_codeList_iff.1 mem
  exact ⟨⟨uppercase_eq_empty_iff.not.2 filled, trim_uppercase (trim_idem entry)⟩, uppercase_idem _⟩

end Settings

end FillFeed
