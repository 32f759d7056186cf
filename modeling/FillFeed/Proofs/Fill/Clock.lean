import Mathlib
import FillFeed.Fill.Timestamp
import FillFeed.Proofs.Text.Digits

/-!
# Written times read back

A time of day is written with two digits for each of its parts and three, six or nine for the
fraction of its second, whichever are needed; reading takes the parts one after the other and finds
the time again (`TimeOfDay.read?_toText`), also in a leap second. So does the reader of moments for
every date that exists (`Timestamp.read?_toText`).
-/

namespace FillFeed.TimeOfDay

open Text

variable {cs rest : List Char} {ds : List Nat}

/-- As many digits as may be read are read, or all that stand together. -/
lemma upTo_digits {most : Nat} (digits : Digits cs ds) (fits : ds.length ≤ most)
    (stops : ds.length = most ∨ ∀ c ∈ rest.head?, digit? c = none) :
    upTo most (cs ++ rest) = (ds, rest) := by
  induction digits generalizing most with
  | nil =>
    cases most with
    | zero => rfl
    | succ most =>
      obtain full | stops := stops
      · cases full
      · cases rest with
        | nil => rfl
        | cons c rest =>
          rw [List.nil_append, upTo, stops c rfl]
  | @cons c d cs ds first others ih =>
    cases most with
    | zero => exact absurd fits (Nat.not_succ_le_zero _)
    | succ most =>
      have later := ih (Nat.le_of_succ_le_succ fits) (stops.imp_left Nat.succ.inj)
      rw [List.cons_append, upTo]
      simp only [first, later]

/-- What begins with a digit begins with no blank. -/
lemma dropBlanks_digits (digits : Digits cs ds) (some : ds ≠ []) :
    dropBlanks (cs ++ rest) = cs ++ rest := by
  refine dropBlanks_of_head ?_
  cases digits with
  | nil => exact absurd rfl some
  | cons first =>
    rintro c ⟨⟩
    exact isBlank_of_digit? first

/-- A number of two digits is read, whatever stands behind it. -/
lemma number?_padded {n : Nat} (small : n < 100) :
    number? (padded 2 n ++ rest) = some (n, rest) := by
  obtain ⟨ds, digits, value, length⟩ := digits_padDigits 2 n
  have two : ds.length = 2 := length (by decide) small
  have some : ds ≠ [] := by
    rintro rfl
    cases two
  have digits : Digits (padded 2 n) ds := digits
  rw [number?, dropBlanks_digits digits some, upTo_digits digits two.le (.inl two)]
  split
  · rename_i e
    exact absurd (congrArg Prod.fst e) some
  · rename_i e
    cases e
    rw [value]

/-- A mark that stands first is read, if it is not blank. -/
lemma mark?_cons {c : Char} (solid : isBlank c = false) : mark? c (c :: rest) = some rest := by
  have stays : dropBlanks (c :: rest) = c :: rest := dropBlanks_of_head (by simpa using solid)
  rw [mark?, stays]
  simp

/-- A fraction of at most nine digits is read to the nanosecond. -/
lemma fraction?_padded {width n : Nat} (positive : 0 < width) (short : width ≤ 9)
    (small : n < 10 ^ width) (stops : ∀ c ∈ rest.head?, digit? c = none) :
    fraction? ('.' :: (padded width n ++ rest)) = some (n * tenPow (9 - width), rest) := by
  obtain ⟨ds, digits, value, length⟩ := digits_padDigits width n
  have digits : Digits (padded width n) ds := digits
  have width_eq : ds.length = width := length positive small
  have taken : upTo 9 (padded width n ++ rest) = (ds, rest) :=
    upTo_digits digits (width_eq.trans_le short) (.inr stops)
  have nothing : spanDigits rest = ([], rest) := spanDigits_digits .nil stops
  rw [fraction?, taken]
  split
  · rename_i e
    cases congrArg Prod.fst e
    exact absurd width_eq positive.ne
  · rename_i e
    cases e
    rw [value, width_eq, nothing]

/-- The fraction of a second is read from as many digits as it was written with. -/
lemma fraction?_fractionChars {nanos : Nat} (small : nanos < 1000000000)
    (stops : ∀ c ∈ rest.head?, digit? c = none ∧ c ≠ '.') :
    fraction? (fractionChars nanos ++ rest) = some (nanos, rest) := by
  have ends : ∀ c ∈ rest.head?, digit? c = none := fun c mem => (stops c mem).1
  unfold fractionChars
  split_ifs with none millis micros
  · rw [none, List.nil_append]
    unfold fraction?
    split
    · exact absurd rfl (stops _ rfl).2
    · rfl
  · have scaled : tenPow (9 - 3) = 1000000 := rfl
    have exact : nanos / 1000000 * 1000000 = nanos := by omega
    rw [List.cons_append, fraction?_padded (by decide) (by decide) (by omega) ends, scaled, exact]
  · have scaled : tenPow (9 - 6) = 1000 := rfl
    have exact : nanos / 1000 * 1000 = nanos := by omega
    rw [List.cons_append, fraction?_padded (by decide) (by decide) (by omega) ends, scaled, exact]
  · have scaled : tenPow (9 - 9) = 1 := rfl
    rw [List.cons_append, fraction?_padded (by decide) (by decide) (by omega) ends, scaled,
      Nat.mul_one]

/-- Hours and minutes are read up to what stands behind them. -/
lemma hourMinute?_padded {hour minute : Nat} (hours : hour < 100) (minutes : minute < 100) :
    hourMinute? (padded 2 hour ++ ':' :: (padded 2 minute ++ rest)) =
      some (hour, minute, rest) := by
  have colon : mark? ':' (':' :: (padded 2 minute ++ rest)) = some (padded 2 minute ++ rest) :=
    mark?_cons (by decide)
  simp only [hourMinute?, number?_padded hours, number?_padded minutes, colon, bind,
    Option.bind_some]

/-- Seconds are read with their fraction. -/
lemma seconds?_padded {second nanos : Nat} (seconds : second < 100) (small : nanos < 1000000000)
    (stops : ∀ c ∈ rest.head?, digit? c = none ∧ c ≠ '.') :
    seconds? (':' :: (padded 2 second ++ (fractionChars nanos ++ rest))) =
      some (second, nanos, rest) := by
  have colon : mark? ':' (':' :: (padded 2 second ++ (fractionChars nanos ++ rest))) =
      some (padded 2 second ++ (fractionChars nanos ++ rest)) := mark?_cons (by decide)
  simp only [seconds?, number?_padded seconds, fraction?_fractionChars small stops, colon, bind,
    Option.bind_some]

/-- The parts of a time of day make it again. -/
lemma make?_parts (t : TimeOfDay) : make? t.hour t.minute t.second t.nanos = some t :=
  dif_pos ⟨t.hour_lt, t.minute_lt, t.second_le, t.nanos_lt⟩

/-- Hours, minutes and seconds that stand together are read as the time that has them. -/
lemma ofClock?_padded (t : TimeOfDay) (whole : t.nanos = 0) :
    ofClock? (padded 2 t.hour ++ (padded 2 t.minute ++ padded 2 t.second)) = some t := by
  have hours : t.hour < 100 := t.hour_lt.trans (by decide)
  have minutes : t.minute < 100 := t.minute_lt.trans (by decide)
  have seconds : t.second < 100 := t.second_le.trans_lt (by decide)
  have last : number? (padded 2 t.second) = some (t.second, []) := by
    rw [← List.append_nil (padded 2 t.second)]
    exact number?_padded seconds
  simp only [ofClock?, number?_padded hours, number?_padded minutes, last, bind, Option.bind_some]
  rw [if_pos trivial, ← whole, make?_parts]

/-- The hours and minutes of a time stand at its front. -/
lemma hourMinute?_toChars (t : TimeOfDay) :
    hourMinute? (t.toChars ++ rest) = some (t.hour, t.minute,
      ':' :: (padded 2 t.second ++ (fractionChars t.nanos ++ rest))) := by
  have hours : t.hour < 100 := t.hour_lt.trans (by decide)
  have minutes : t.minute < 100 := t.minute_lt.trans (by decide)
  simp only [toChars, List.append_assoc, List.cons_append, hourMinute?_padded hours minutes]

/-- A time of day that was written is read back. -/
lemma read?_toText (t : TimeOfDay) : read? t.toText = some t := by
  have front := @hourMinute?_toChars [] t
  have back := @seconds?_padded [] _ _ (t.second_le.trans_lt (by decide)) t.nanos_lt nofun
  rw [List.append_nil] at front
  have nothing : dropBlanks [] = [] := rfl
  simp only [read?, toText, String.toList_ofList, front, back, bind, Option.bind_some, nothing,
    if_pos, make?_parts]

end FillFeed.TimeOfDay

namespace FillFeed.Timestamp

open Text TimeOfDay

variable {rest : List Char}

/-- A year is read up to the mark behind it, with or without a sign. -/
lemma year?_yearChars (year : Int) (stops : ∀ c ∈ rest.head?, digit? c = none) :
    year? (Date.yearChars year ++ rest) = some (year, rest) := by
  have written (n : Nat) : ∃ d ds, Digits (padded 4 n) (d :: ds) ∧ natOfDigits (d :: ds) = n ∧
      (n < 10000 → (d :: ds).length = 4) := by
    obtain ⟨ds, digits, value, length⟩ := digits_padDigits 4 n
    have some : padded 4 n ≠ [] := List.append_ne_nil_of_right_ne_nil _ Nat.toDigits_ne_nil
    cases ds with
    | nil => exact absurd (List.forall₂_nil_right_iff.1 digits) some
    | cons d ds => exact ⟨d, ds, digits, value, length (by decide)⟩
  have solid {c : Char} {cs : List Char} (e : isBlank c = false) : dropBlanks (c :: cs) = c :: cs :=
    dropBlanks_of_head (by simpa using e)
  unfold Date.yearChars
  split_ifs with plain past
  · obtain ⟨d, ds, digits, value, length⟩ := written year.toNat
    have four := length (by omega)
    have taken : upTo 4 (padded 4 year.toNat ++ rest) = (d :: ds, rest) :=
      upTo_digits digits four.le (.inl four)
    have front : dropBlanks (padded 4 year.toNat ++ rest) = padded 4 year.toNat ++ rest :=
      dropBlanks_digits digits nofun
    generalize padded 4 year.toNat = cs at digits taken front
    cases digits with
    | @cons c _ cs _ first others =>
      -- a year of four digits begins with neither of the signs
      have minus := ne_of_digit? first (by decide : digit? '-' = none)
      have plus := ne_of_digit? first (by decide : digit? '+' = none)
      rw [List.cons_append] at taken front ⊢
      unfold year?
      split
      · rename_i e
        exact absurd (List.cons.inj (front.symm.trans e)).1 minus
      · rename_i e
        exact absurd (List.cons.inj (front.symm.trans e)).1 plus
      · rw [front, taken]
        simp only [value, Int.toNat_of_nonneg plain.1]
  · obtain ⟨d, ds, digits, value, -⟩ := written year.natAbs
    have taken := spanDigits_digits digits stops
    have exact : -(year.natAbs : Int) = year := by omega
    rw [List.cons_append, year?, solid (by decide)]
    simp only [taken, value, exact]
  · obtain ⟨d, ds, digits, value, -⟩ := written year.toNat
    have taken := spanDigits_digits digits stops
    have exact : (year.toNat : Int) = year := by omega
    rw [List.cons_append, year?, solid (by decide)]
    simp only [taken, value, exact]

/-- Two digits are enough for the month and the day of a date that exists. -/
lemma two_digits {d : Date} (exist : Date.make? d.year d.month d.day = some d) :
    d.month < 100 ∧ d.day < 100 := by
  have longest : Date.monthLength d.year d.month ≤ 31 := by
    unfold Date.monthLength
    split_ifs <;> decide
  unfold Date.make? at exist
  split at exist
  · omega
  · cases exist

/-- A date that exists is read up to what stands behind it. -/
lemma date?_chars {d : Date} (exist : Date.make? d.year d.month d.day = some d) :
    date? (Date.yearChars d.year ++ '-' :: (padded 2 d.month ++ '-' :: (padded 2 d.day ++ rest))) =
      some (d, rest) := by
  have year (rest : List Char) :
      year? (Date.yearChars d.year ++ '-' :: rest) = some (d.year, '-' :: rest) := by
    refine year?_yearChars d.year ?_
    rintro c ⟨⟩
    decide
  have dash (rest : List Char) : mark? '-' ('-' :: rest) = some rest := mark?_cons (by decide)
  obtain ⟨months, days⟩ := two_digits exist
  simp only [date?, year, dash, number?_padded months, number?_padded days, exist, bind,
    Option.bind_some]

/-- A time in universal time stays as it is. -/
lemma atOffset?_zero {date : Date} (exist : Date.make? date.year date.month date.day = some date)
    (time : TimeOfDay) : atOffset? date time 0 = some ⟨date, time⟩ := by
  have hour := time.hour_lt
  have minute := time.minute_lt
  obtain ⟨early, late⟩ : ¬(time.hour * 60 + time.minute - 0 : Int) < 0 ∧
      ¬1440 ≤ (time.hour * 60 + time.minute - 0 : Int) := by omega
  obtain ⟨hours, minutes⟩ :
      ((time.hour * 60 + time.minute - 0 : Int) % 1440).toNat / 60 = time.hour ∧
      ((time.hour * 60 + time.minute - 0 : Int) % 1440).toNat % 60 = time.minute := by omega
  unfold atOffset?
  simp only [if_neg early, if_neg late, hours, minutes, exist, make?_parts]

/-- A moment whose date exists is read back after it was written. -/
theorem read?_toText {t : Timestamp}
    (exist : Date.make? t.date.year t.date.month t.date.day = some t.date) :
    read? t.toText = some t := by
  have stops : ∀ c ∈ ['Z'].head?, digit? c = none ∧ c ≠ '.' := by
    rintro c ⟨⟩
    decide
  have date := @date?_chars ('T' :: (t.time.toChars ++ ['Z'])) _ exist
  have front := @hourMinute?_toChars ['Z'] t.time
  have back := seconds?_padded (t.time.second_le.trans_lt (by decide)) t.time.nanos_lt stops
  have zone : offset? (dropBlanks ['Z']) = some (0, []) := by decide
  have nothing : dropBlanks [] = [] := rfl
  simp only [read?, toText, String.toList_ofList, List.append_assoc, List.cons_append, date, front,
    back, bind, Option.bind_some, make?_parts, zone, nothing, if_pos, atOffset?_zero exist]

end FillFeed.Timestamp
