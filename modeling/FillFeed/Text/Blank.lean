/-!
# Blank characters

`isBlank` is the Unicode property `White_Space`, and `trim` takes the blanks off both ends of a
text. `trimChars` is the same function on lists of characters, where the lemmas live:
`trimChars_idem` says that a trimmed text stays as it is.
-/

namespace FillFeed.Text

/-- The characters of the Unicode property `White_Space`. -/
def isBlank (c : Char) : Bool :=
  let n := c.toNat
  (0x9 ≤ n && n ≤ 0xD) || n == 0x20 || n == 0x85 || n == 0xA0 || n == 0x1680 ||
    (0x2000 ≤ n && n ≤ 0x200A) || n == 0x2028 || n == 0x2029 || n == 0x202F ||
    n == 0x205F || n == 0x3000

/-- A text without its leading blanks. -/
def dropBlanks (cs : List Char) : List Char := cs.dropWhile isBlank

/-- A text without the blanks at its two ends. -/
def trimChars (cs : List Char) : List Char := (dropBlanks (dropBlanks cs).reverse).reverse

/-- A text without the blanks at its two ends. -/
def trim (s : String) : String := String.ofList (trimChars s.toList)

/-- The characters of a trimmed text are its characters, trimmed. -/
@[simp] theorem toList_trim (s : String) : (trim s).toList = trimChars s.toList := by
  simp [trim]

/-- A text without blanks at its ends: it starts and ends with none. -/
def Trimmed (cs : List Char) : Prop :=
  (∀ c ∈ cs.head?, isBlank c = false) ∧ (∀ c ∈ cs.getLast?, isBlank c = false)

/-- A text that begins with no blank has none to drop. -/
theorem dropBlanks_of_head {cs : List Char} (h : ∀ c ∈ cs.head?, isBlank c = false) :
    dropBlanks cs = cs := by
  cases cs with
  | nil => rfl
  | cons c cs =>
    have hc : isBlank c = false := h c rfl
    simp [dropBlanks, hc]

/-- What is left when blanks are dropped does not begin with one. -/
theorem head_dropBlanks (cs : List Char) : ∀ c ∈ (dropBlanks cs).head?, isBlank c = false := by
  induction cs with
  | nil => simp [dropBlanks]
  | cons c cs ih =>
    cases h : isBlank c with
    | true => simpa [dropBlanks, h] using ih
    | false => simp [dropBlanks, h]

/-- Dropping blanks at the beginning brings none to the end. -/
theorem getLast?_dropBlanks {cs : List Char} (h : ∀ c ∈ cs.getLast?, isBlank c = false) :
    ∀ c ∈ (dropBlanks cs).getLast?, isBlank c = false := by
  induction cs with
  | nil => simp [dropBlanks]
  | cons c cs ih =>
    cases hb : isBlank c with
    | false => simpa [dropBlanks, hb] using h
    | true =>
      have hne : cs ≠ [] := by
        rintro rfl
        simp [hb] at h
      have : dropBlanks (c :: cs) = dropBlanks cs := by simp [dropBlanks, hb]
      rw [this]
      refine ih fun d hd => h d ?_
      rw [List.getLast?_cons]
      rw [Option.mem_def] at hd
      simp [hd]

/-- What trimming leaves has no blank at either end. -/
theorem trimmed_trimChars (cs : List Char) : Trimmed (trimChars cs) := by
  constructor
  · intro c hc
    rw [trimChars, List.head?_reverse] at hc
    refine getLast?_dropBlanks ?_ c hc
    intro d hd
    rw [List.getLast?_reverse] at hd
    exact head_dropBlanks cs d hd
  · intro c hc
    rw [trimChars, List.getLast?_reverse] at hc
    exact head_dropBlanks _ c hc

/-- A text without blanks at its ends stays as it is. -/
theorem trimChars_of_trimmed {cs : List Char} (h : Trimmed cs) : trimChars cs = cs := by
  rw [trimChars, dropBlanks_of_head h.1, dropBlanks_of_head, List.reverse_reverse]
  rw [List.head?_reverse]
  exact h.2

/-- Trimming twice is trimming once. -/
theorem trimChars_idem (cs : List Char) : trimChars (trimChars cs) = trimChars cs :=
  trimChars_of_trimmed (trimmed_trimChars cs)

/-- A text that is trimmed stays as it is. -/
theorem trim_idem (s : String) : trim (trim s) = trim s := by
  simp [trim, trimChars_idem]

end FillFeed.Text
