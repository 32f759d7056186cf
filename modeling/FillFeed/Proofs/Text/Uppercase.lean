import Mathlib
import FillFeed.Text.Blank
import FillFeed.Text.Uppercase

/-!
# Upper-case texts

The characters that upper-case forms are made of are the code points in `formRuns`. None of them has
another upper-case form and none of them is blank, since these runs lie apart from all others
(`formRuns_apart`). So a text in upper case stays as it is (`uppercase_idem`), and upper-casing a
text that is trimmed and not empty gives such a text again (`trim_uppercase`).
-/

namespace FillFeed.Text

/-- The code points that a run leads to. -/
def CaseRun.image (run : CaseRun) : CaseRun :=
  ⟨(run.first + run.offset).toNat, (run.last + run.offset).toNat, run.stride, 0⟩

/-- A single code point as a run. -/
def CaseRun.point (n : Nat) : CaseRun := ⟨n, n, 1, 0⟩

/-- Whether all code points of a run are even or all of them are odd. -/
def CaseRun.hasParity (run : CaseRun) : Bool := run.stride == 2 || run.first == run.last

/-- Whether one of two runs ends before the other begins, or one is even and the other odd. -/
def CaseRun.apart (run other : CaseRun) : Bool :=
  run.last.blt other.first || other.last.blt run.first ||
    (run.hasParity && other.hasParity && run.first % 2 != other.first % 2)

/-- Whether all of a run are code points. -/
def CaseRun.isValid (run : CaseRun) : Bool :=
  run.last < 0xD800 || (0xDFFF < run.first && run.last < 0x110000)

/-- The code points with an upper-case form other than themselves. -/
def changedRuns : List CaseRun := caseRuns ++ caseExpansions.map fun e => .point e.1

/-- The code points that such upper-case forms are made of. -/
def formRuns : List CaseRun :=
  caseRuns.map .image ++ caseExpansions.flatMap fun e => e.2.map .point

/-- The blank code points. -/
def blankRuns : List CaseRun :=
  [⟨0x9, 0xD, 1, 0⟩, .point 0x20, .point 0x85, .point 0xA0, .point 0x1680, ⟨0x2000, 0x200A, 1, 0⟩,
    .point 0x2028, .point 0x2029, .point 0x202F, .point 0x205F, .point 0x3000]

section

variable {run other : CaseRun} {c d : Char} {n : Nat} {cs : List Char}

/-- A run covers a code point between its ends if the stride leads there. -/
lemma CaseRun.covers_iff : run.covers n = true ↔
    (run.first ≤ n ∧ n ≤ run.last) ∧ (n - run.first) % run.stride = 0 := by
  simp [covers]

/-- The run of a single code point covers it. -/
lemma CaseRun.point_covers (n : Nat) : (point n).covers n = true := by
  simp [covers_iff, point]

/-- The code points of a run that has a parity have it. -/
lemma CaseRun.parity_of_covers (parity : run.hasParity = true) (covers : run.covers n = true) :
    n % 2 = run.first % 2 := by
  rw [hasParity, Bool.or_eq_true, beq_iff_eq, beq_iff_eq] at parity
  obtain ⟨⟨low, high⟩, steps⟩ := covers_iff.1 covers
  obtain two | single := parity
  · rw [two] at steps
    omega
  · have same : n = run.first := by omega
    rw [same]

/-- What one of two runs that are apart covers the other one does not. -/
lemma CaseRun.not_covers_of_apart (apart : run.apart other = true) (covers : run.covers n = true) :
    other.covers n = false := by
  rw [Bool.eq_false_iff]
  intro covered
  obtain ⟨⟨low, high⟩, -⟩ := covers_iff.1 covers
  obtain ⟨⟨low', high'⟩, -⟩ := covers_iff.1 covered
  simp only [CaseRun.apart, Bool.or_eq_true, Bool.and_eq_true, Nat.blt_eq, bne_iff_ne] at apart
  obtain (before | after) | ⟨⟨parity, parity'⟩, differ⟩ := apart
  · omega
  · omega
  · exact differ ((parity_of_covers parity covers).symm.trans (parity_of_covers parity' covered))

/-- No run of the table leads below zero. -/
lemma caseRuns_nonneg : ∀ run ∈ caseRuns, 0 ≤ run.first + run.offset := by decide +kernel

/-- A code point of a run is moved into the image of the run. -/
lemma CaseRun.image_covers (nonneg : 0 ≤ run.first + run.offset) (covers : run.covers n = true) :
    run.image.covers (n + run.offset).toNat = true := by
  obtain ⟨⟨low, high⟩, steps⟩ := covers_iff.1 covers
  have moved : (n + run.offset).toNat - (run.first + run.offset).toNat = n - run.first := by omega
  rw [covers_iff]
  change (_ ∧ _) ∧ ((n + run.offset).toNat - (run.first + run.offset).toNat) % run.stride = 0
  rw [moved]
  exact ⟨⟨by simp only [image]; omega, by simp only [image]; omega⟩, steps⟩

/-- All runs of upper-case forms are code points of characters. -/
lemma formRuns_isValid : ∀ run ∈ formRuns, run.isValid = true := by decide +kernel

/-- No upper-case form is changed again, and none is blank. -/
lemma formRuns_apart :
    (formRuns.all fun run => (changedRuns ++ blankRuns).all run.apart) = true := by decide +kernel

/-- What stands in the tables as part of an upper-case form is the code point of a character. -/
lemma toNat_of_formRuns (mem : run ∈ formRuns) (covers : run.covers n = true) :
    (Char.ofNat n).toNat = n := by
  have valid := formRuns_isValid run mem
  obtain ⟨⟨low, high⟩, -⟩ := CaseRun.covers_iff.1 covers
  simp only [CaseRun.isValid, Bool.or_eq_true, Bool.and_eq_true, decide_eq_true_eq] at valid
  rw [Char.toNat_ofNat, if_pos]
  rw [Nat.isValidChar]
  omega

/-- A character is its own upper-case form, or its form is made of characters of `formRuns`. -/
lemma upperChar_cases (c : Char) : upperChar c = [c] ∨
    (upperChar c ≠ [] ∧ ∀ d ∈ upperChar c, ∃ run ∈ formRuns, run.covers d.toNat = true) := by
  unfold upperChar
  split
  -- the table lists the form, character by character
  · rename_i form expands
    obtain ⟨before, after, split, -⟩ := List.lookup_eq_some_iff.1 expands
    have entry : (c.toNat, form) ∈ caseExpansions := by simp [split]
    refine .inr ⟨?_, ?_⟩
    · have filled : ∀ e ∈ caseExpansions, e.2 ≠ [] := by decide +kernel
      simpa using filled _ entry
    · intro d mem
      obtain ⟨n, part, rfl⟩ := List.mem_map.1 mem
      have run : CaseRun.point n ∈ formRuns :=
        List.mem_append_right _ (List.mem_flatMap.2 ⟨_, entry, List.mem_map.2 ⟨n, part, rfl⟩⟩)
      refine ⟨_, run, ?_⟩
      rw [toNat_of_formRuns run (CaseRun.point_covers n)]
      exact CaseRun.point_covers n
  · split
    -- the form is one character, as far away as the run says
    · rename_i run found
      have entry := List.mem_of_find?_eq_some found
      have covered : run.covers c.toNat = true :=
        List.find?_some (p := fun run : CaseRun => run.covers c.toNat) found
      have covers := CaseRun.image_covers (caseRuns_nonneg run entry) covered
      have image : run.image ∈ formRuns :=
        List.mem_append_left _ (List.mem_map.2 ⟨run, entry, rfl⟩)
      refine .inr ⟨List.cons_ne_nil _ _, ?_⟩
      intro d mem
      rw [List.mem_singleton.1 mem]
      refine ⟨_, image, ?_⟩
      rwa [toNat_of_formRuns image covers]
    · exact .inl rfl

/-- The upper-case form of a character is not empty. -/
lemma upperChar_ne_nil (c : Char) : upperChar c ≠ [] := by
  obtain same | ⟨filled, -⟩ := upperChar_cases c
  · rw [same]
    exact List.cons_ne_nil _ _
  · exact filled

/-- A character of `formRuns` is covered by none of the runs that these lie apart from. -/
lemma not_covers_of_formRuns (mem : run ∈ formRuns) (covers : run.covers n = true)
    (changed : other ∈ changedRuns ++ blankRuns) : other.covers n = false :=
  CaseRun.not_covers_of_apart (List.all_eq_true.1 (List.all_eq_true.1 formRuns_apart run mem) other
    changed) covers

/-- A character that no table changes is its own upper-case form. -/
lemma upperChar_of_not_covers (unchanged : ∀ run ∈ changedRuns, run.covers c.toNat = false) :
    upperChar c = [c] := by
  have unexpanded : caseExpansions.lookup c.toNat = none := by
    rw [List.lookup_eq_none_iff]
    intro e entry
    have apart := unchanged (.point e.1) (List.mem_append_right _ (List.mem_map.2 ⟨e, entry, rfl⟩))
    rw [bne_iff_ne]
    intro same
    rw [← same, CaseRun.point_covers] at apart
    cases apart
  have unmoved : caseRuns.find? (·.covers c.toNat) = none := by
    rw [List.find?_eq_none]
    intro run entry
    rw [unchanged run (List.mem_append_left _ entry)]
    exact Bool.false_ne_true
  rw [upperChar, unexpanded]
  simp only [unmoved]

/-- An upper-case form is made of characters that are upper case. -/
lemma upperChar_of_mem (mem : d ∈ upperChar c) : upperChar d = [d] := by
  obtain same | ⟨-, forms⟩ := upperChar_cases c
  · rw [same, List.mem_singleton] at mem
    rw [mem, same]
  · obtain ⟨run, form, covers⟩ := forms d mem
    exact upperChar_of_not_covers fun other changed =>
      not_covers_of_formRuns form covers (List.mem_append_left _ changed)

/-- The code point of a blank is among the blank ones. -/
lemma exists_blankRun_of_isBlank (blank : isBlank c = true) :
    ∃ run ∈ blankRuns, run.covers c.toNat = true := by
  have any : blankRuns.any (·.covers c.toNat) = true := by
    simp only [isBlank, Bool.or_eq_true, Bool.and_eq_true, decide_eq_true_eq, beq_iff_eq] at blank
    simp only [blankRuns, List.any_cons, List.any_nil, Bool.or_eq_true, CaseRun.covers_iff,
      CaseRun.point]
    omega
  exact List.any_eq_true.1 any

/-- The upper-case form of a character that is not blank has no blanks in it. -/
lemma isBlank_of_mem_upperChar (solid : isBlank c = false) (mem : d ∈ upperChar c) :
    isBlank d = false := by
  obtain same | ⟨-, forms⟩ := upperChar_cases c
  · rw [same, List.mem_singleton] at mem
    rw [mem, solid]
  · obtain ⟨run, form, covers⟩ := forms d mem
    rw [Bool.eq_false_iff]
    intro blank
    obtain ⟨other, among, covered⟩ := exists_blankRun_of_isBlank blank
    rw [not_covers_of_formRuns form covers (List.mem_append_right _ among)] at covered
    cases covered

/-- A text is changed to upper case character by character. -/
lemma toList_uppercase (s : String) : (uppercase s).toList = s.toList.flatMap upperChar := by
  simp [uppercase]

/-- A text in upper case stays as it is. -/
theorem uppercase_idem (s : String) : uppercase (uppercase s) = uppercase s := by
  rw [← String.toList_inj, toList_uppercase, toList_uppercase, List.flatMap_assoc]
  refine List.flatMap_congr fun c _ => ?_
  calc (upperChar c).flatMap upperChar = (upperChar c).flatMap fun d => [d] :=
        List.flatMap_congr fun _ mem => upperChar_of_mem mem
    _ = upperChar c := List.flatMap_singleton' _

/-- Upper-casing leaves the ends of a trimmed text free of blanks. -/
lemma Trimmed.flatMap_upperChar (trimmed : Trimmed cs) : Trimmed (cs.flatMap upperChar) := by
  constructor
  · intro d first
    cases cs with
    | nil => cases first
    | cons c cs =>
      rw [List.flatMap_cons, List.head?_append_of_ne_nil _ (upperChar_ne_nil c)] at first
      exact isBlank_of_mem_upperChar (trimmed.1 c rfl) (List.mem_of_mem_head? first)
  · intro d last
    induction cs using List.reverseRecOn with
    | nil => cases last
    | append_singleton cs c _ =>
      rw [List.flatMap_append, List.flatMap_singleton,
        List.getLast?_append_of_ne_nil _ (upperChar_ne_nil c)] at last
      exact isBlank_of_mem_upperChar (trimmed.2 c (by simp)) (List.mem_of_mem_getLast? last)

/-- Upper-casing a trimmed text gives a trimmed text. -/
lemma trim_uppercase {s : String} (trimmed : trim s = s) : trim (uppercase s) = uppercase s := by
  have ends : Trimmed s.toList := by
    rw [← trimmed, toList_trim]
    exact trimmed_trimChars _
  rw [← String.toList_inj, toList_trim, toList_uppercase]
  exact trimChars_of_trimmed ends.flatMap_upperChar

/-- Upper-casing leaves nothing of a text only if there is nothing in it. -/
lemma uppercase_eq_empty_iff {s : String} : uppercase s = "" ↔ s = "" := by
  rw [← String.toList_inj, toList_uppercase, ← String.toList_inj]
  change _ = [] ↔ _ = []
  rw [List.flatMap_eq_nil_iff, List.eq_nil_iff_forall_not_mem]
  exact forall₂_congr fun c _ => iff_of_false (upperChar_ne_nil c) (by simp)

end

end FillFeed.Text
