import Mathlib
import FillFeed.Proofs.Fill.Clock
import FillFeed.Proofs.Fill.Notional

/-!
# Times that payloads tell

The time of a fill is written as six digits in a row, two for each part (`TimeOfDay.Clocked`). Its
reader is more generous: it takes three numbers of one or two digits one after the other and skips
the blanks in front of each. So it takes a text with blanks between the parts or with a single digit
at its end for a time as well (`TimeOfDay.Loose`), and `ofClock?_eq_some_iff` says that it takes
nothing else. `Codec.fill_time_iff` says what this means for the fills of all frames.
-/

namespace FillFeed

namespace TimeOfDay

open Text

/-- One or two digits denote a number. -/
def Spells (word : List Char) (n : ℕ) : Prop :=
  ∃ ds, Digits word ds ∧ (ds.length = 1 ∨ ds.length = 2) ∧ natOfDigits ds = n

/-- Six digits in a row denote a time: two for the hour, two for the minute, two for the second. -/
def Clocked (cs : List Char) (t : TimeOfDay) : Prop :=
  ∃ a b c d e f, Digits cs [a, b, c, d, e, f] ∧ t.hour = 10 * a + b ∧ t.minute = 10 * c + d ∧
    t.second = 10 * e + f ∧ t.nanos = 0

/-- Three numbers with blanks between them denote a time. Without a blank behind it a single digit
would be read together with the next number. -/
structure Spaced (hour gap minute gap' second : List Char) (t : TimeOfDay) : Prop where
  inHour : Spells hour t.hour
  inMinute : Spells minute t.minute
  inSecond : Spells second t.second
  whole : t.nanos = 0
  blank : ∀ x ∈ gap ++ gap', isBlank x = true
  hourEnds : hour.length = 2 ∨ gap ≠ []
  minuteEnds : minute.length = 2 ∨ gap' ≠ []

/-- A text that denotes a time with blanks between its parts or with a single digit at its end. -/
def Loose (cs : List Char) (t : TimeOfDay) : Prop :=
  ∃ hour gap minute gap' second, Spaced hour gap minute gap' second t ∧
    cs = hour ++ (gap ++ (minute ++ (gap' ++ second))) ∧
    (gap ≠ [] ∨ gap' ≠ [] ∨ second.length = 1)

section

variable {cs rest word gap : List Char} {n : ℕ} {t t' : TimeOfDay}

/-- A number is spelled with one digit or with two. -/
lemma Spells.length (spells : Spells word n) : word.length = 1 ∨ word.length = 2 := by
  obtain ⟨ds, digits, length, -⟩ := spells
  rw [digits.length_eq]
  exact length

/-- What spells a number begins with a digit. -/
lemma Spells.head (spells : Spells word n) : ∃ c cs d, word = c :: cs ∧ digit? c = some d := by
  obtain ⟨ds, digits, length, -⟩ := spells
  cases digits with
  | nil => simp at length
  | cons first => exact ⟨_, _, _, rfl, first⟩

/-- Two digits are the tens and the ones of their number. -/
lemma spells_pair_iff : Spells word n ∧ word.length = 2 ↔
    ∃ a b, Digits word [a, b] ∧ n = 10 * a + b := by
  constructor
  · rintro ⟨⟨ds, digits, -, rfl⟩, two⟩
    rw [digits.length_eq, List.length_eq_two] at two
    obtain ⟨a, b, rfl⟩ := two
    refine ⟨a, b, digits, ?_⟩
    simp only [natOfDigits, extendNat, List.foldl_cons, List.foldl_nil]
    omega
  · rintro ⟨a, b, digits, rfl⟩
    refine ⟨⟨[a, b], digits, .inr rfl, ?_⟩, digits.length_eq⟩
    simp only [natOfDigits, extendNat, List.foldl_cons, List.foldl_nil]
    omega

/-- Digits are read until there are enough of them or another character follows. -/
lemma upTo_split (most : ℕ) (cs : List Char) :
    ∃ word, cs = word ++ (upTo most cs).2 ∧ Digits word (upTo most cs).1 ∧
      (upTo most cs).1.length ≤ most ∧
      ((upTo most cs).1.length = most ∨ ∀ c ∈ (upTo most cs).2.head?, digit? c = none) := by
  induction most generalizing cs with
  | zero => exact ⟨[], rfl, .nil, le_rfl, .inl rfl⟩
  | succ most ih =>
    cases cs with
    | nil => exact ⟨[], rfl, .nil, Nat.zero_le _, .inr nofun⟩
    | cons c cs =>
      rw [upTo]
      cases first : digit? c with
      | none =>
        refine ⟨[], rfl, .nil, Nat.zero_le _, .inr ?_⟩
        rintro c ⟨⟩
        exact first
      | some d =>
        obtain ⟨word, whole, digits, short, ends⟩ := ih cs
        refine ⟨c :: word, congrArg (c :: ·) whole, .cons first digits, Nat.succ_le_succ short, ?_⟩
        exact ends.imp_left (congrArg Nat.succ)

/-- A number ends behind its second digit or where another character follows. -/
lemma number?_eq_some_iff : number? cs = some (n, rest) ↔
    ∃ blanks word, cs = blanks ++ (word ++ rest) ∧ (∀ x ∈ blanks, isBlank x = true) ∧
      Spells word n ∧ (word.length = 2 ∨ ∀ c ∈ rest.head?, digit? c = none) := by
  constructor
  · intro read
    obtain ⟨word, whole, digits, short, ends⟩ := upTo_split 2 (dropBlanks cs)
    unfold number? at read
    split at read
    · cases read
    rename_i ds tail some taken
    cases read
    rw [taken] at whole digits short ends
    refine ⟨cs.takeWhile isBlank, word, ?_, fun x mem => List.mem_takeWhile_imp mem, ?_, ?_⟩
    · rw [← whole, dropBlanks, List.takeWhile_append_dropWhile]
    · have positive : 0 < ds.length := List.length_pos_of_ne_nil some
      have one_or_two : ds.length = 1 ∨ ds.length = 2 := by
        dsimp only at short
        omega
      exact ⟨ds, digits, one_or_two, rfl⟩
    · rwa [digits.length_eq]
  · rintro ⟨blanks, word, rfl, blank, ⟨ds, digits, length, rfl⟩, ends⟩
    have some : ds ≠ [] := by
      rintro rfl
      simp at length
    have front : dropBlanks (blanks ++ (word ++ rest)) = word ++ rest := by
      rw [dropBlanks, List.dropWhile_append_of_pos blank]
      exact dropBlanks_digits digits some
    have short : ds.length ≤ 2 := by omega
    rw [digits.length_eq] at ends
    -- no more than two digits are taken, so that the word has to end where they do
    rw [number?, front, upTo_digits digits short ends]
    split
    · rename_i e
      exact absurd (congrArg Prod.fst e) some
    · rename_i e
      cases e
      rfl

/-- Making a time gives the time with exactly these parts. -/
lemma make?_eq_some_iff {hour minute second nanos : ℕ} :
    make? hour minute second nanos = some t ↔
      t.hour = hour ∧ t.minute = minute ∧ t.second = second ∧ t.nanos = nanos := by
  constructor
  · intro made
    unfold make? at made
    split at made
    · cases made
      exact ⟨rfl, rfl, rfl, rfl⟩
    · cases made
  · rintro ⟨rfl, rfl, rfl, rfl⟩
    exact make?_parts t

/-- In front of a number only a blank stops the digits before it. -/
lemma stops_iff (blank : ∀ x ∈ gap, isBlank x = true) (spells : Spells word n) :
    (∀ c ∈ (gap ++ (word ++ rest)).head?, digit? c = none) ↔ gap ≠ [] := by
  cases gap with
  | nil =>
    obtain ⟨c, cs, d, rfl, first⟩ := spells.head
    simp [first]
  | cons x gap =>
    have other : digit? x = none := by
      by_contra digit
      obtain ⟨d, digit⟩ := Option.ne_none_iff_exists'.1 digit
      have solid := isBlank_of_digit? digit
      rw [blank x List.mem_cons_self] at solid
      cases solid
    simpa using other

/-- Hours, minutes and seconds are read as three numbers with blanks between them. -/
lemma ofClock?_eq_some_iff_spaced : ofClock? cs = some t ↔
    ∃ blanks hour gap minute gap' second, (∀ x ∈ blanks, isBlank x = true) ∧
      Spaced hour gap minute gap' second t ∧
      cs = blanks ++ (hour ++ (gap ++ (minute ++ (gap' ++ second)))) := by
  constructor
  · intro read
    obtain ⟨⟨h, rest⟩, first, read⟩ := Option.bind_eq_some_iff.1 read
    obtain ⟨⟨m, rest'⟩, next, read⟩ := Option.bind_eq_some_iff.1 read
    obtain ⟨⟨s, rest''⟩, last, read⟩ := Option.bind_eq_some_iff.1 read
    dsimp only at next last read
    split at read
    · rename_i done
      subst done
      obtain ⟨hours, minutes, seconds, whole⟩ := make?_eq_some_iff.1 read
      obtain ⟨blanks, hour, rfl, blank, inHour, hourEnds⟩ := number?_eq_some_iff.1 first
      obtain ⟨gap, minute, rfl, blank₁, inMinute, minuteEnds⟩ := number?_eq_some_iff.1 next
      obtain ⟨gap', second, rfl, blank₂, inSecond, -⟩ := number?_eq_some_iff.1 last
      -- another number follows, so that only a blank ends a number of one digit
      rw [stops_iff blank₁ inMinute] at hourEnds
      rw [stops_iff blank₂ inSecond] at minuteEnds
      rw [List.append_nil]
      subst hours minutes seconds
      refine ⟨blanks, hour, gap, minute, gap', second, blank, ?_, rfl⟩
      exact ⟨inHour, inMinute, inSecond, whole, List.forall_mem_append.2 ⟨blank₁, blank₂⟩,
        hourEnds, minuteEnds⟩
    · cases read
  · rintro ⟨blanks, hour, gap, minute, gap', second, blank, spaced, rfl⟩
    obtain ⟨blank₁, blank₂⟩ := List.forall_mem_append.1 spaced.blank
    have first : number? (blanks ++ (hour ++ (gap ++ (minute ++ (gap' ++ second))))) =
        some (t.hour, gap ++ (minute ++ (gap' ++ second))) := by
      refine number?_eq_some_iff.2 ⟨blanks, hour, rfl, blank, spaced.inHour, ?_⟩
      rw [stops_iff blank₁ spaced.inMinute]
      exact spaced.hourEnds
    have next : number? (gap ++ (minute ++ (gap' ++ second))) =
        some (t.minute, gap' ++ second) := by
      refine number?_eq_some_iff.2 ⟨gap, minute, rfl, blank₁, spaced.inMinute, ?_⟩
      have stops := @stops_iff [] _ _ _ blank₂ spaced.inSecond
      rw [List.append_nil] at stops
      rw [stops]
      exact spaced.minuteEnds
    have last : number? (gap' ++ second) = some (t.second, []) := by
      refine number?_eq_some_iff.2 ⟨gap', second, ?_, blank₂, spaced.inSecond, .inr nofun⟩
      rw [List.append_nil]
    simp only [ofClock?, first, next, last, bind, Option.bind_some]
    rw [if_pos trivial]
    exact make?_eq_some_iff.2 ⟨rfl, rfl, rfl, spaced.whole⟩

/-- Six digits in a row are three numbers of two digits without blanks. -/
lemma clocked_iff : Clocked cs t ↔
    ∃ hour minute second, Spaced hour [] minute [] second t ∧ second.length = 2 ∧
      cs = hour ++ (minute ++ second) := by
  constructor
  · rintro ⟨a, b, c, d, e, f, digits, hours, minutes, seconds, whole⟩
    rcases digits with _ | ⟨da, _ | ⟨db, _ | ⟨dc, _ | ⟨dd, _ | ⟨de, _ | ⟨df, ⟨⟩⟩⟩⟩⟩⟩⟩
    obtain ⟨inHour, two⟩ := spells_pair_iff.2 ⟨a, b, .cons da (.cons db .nil), hours⟩
    obtain ⟨inMinute, two'⟩ := spells_pair_iff.2 ⟨c, d, .cons dc (.cons dd .nil), minutes⟩
    obtain ⟨inSecond, two''⟩ := spells_pair_iff.2 ⟨e, f, .cons de (.cons df .nil), seconds⟩
    exact ⟨_, _, _, ⟨inHour, inMinute, inSecond, whole, nofun, .inl two, .inl two'⟩, two'', rfl⟩
  · rintro ⟨hour, minute, second, spaced, two, rfl⟩
    have two_hour := spaced.hourEnds.resolve_right fun some => some rfl
    have two_minute := spaced.minuteEnds.resolve_right fun some => some rfl
    obtain ⟨a, b, inHour, hours⟩ := spells_pair_iff.1 ⟨spaced.inHour, two_hour⟩
    obtain ⟨c, d, inMinute, minutes⟩ := spells_pair_iff.1 ⟨spaced.inMinute, two_minute⟩
    obtain ⟨e, f, inSecond, seconds⟩ := spells_pair_iff.1 ⟨spaced.inSecond, two⟩
    exact ⟨a, b, c, d, e, f, inHour.append (inMinute.append inSecond), hours, minutes, seconds,
      spaced.whole⟩

/-- The reader takes six digits in a row, the loose texts, and nothing else but blanks in front of
them. -/
lemma ofClock?_eq_some_iff : ofClock? cs = some t ↔
    ∃ blanks body, (∀ x ∈ blanks, isBlank x = true) ∧ cs = blanks ++ body ∧
      (Clocked body t ∨ Loose body t) := by
  rw [ofClock?_eq_some_iff_spaced]
  constructor
  · rintro ⟨blanks, hour, gap, minute, gap', second, blank, spaced, rfl⟩
    refine ⟨blanks, _, blank, rfl, ?_⟩
    by_cases loose : gap ≠ [] ∨ gap' ≠ [] ∨ second.length = 1
    · exact .inr ⟨hour, gap, minute, gap', second, spaced, rfl, loose⟩
    · left
      push Not at loose
      obtain ⟨rfl, rfl, notOne⟩ := loose
      have two := spaced.inSecond.length.resolve_left notOne
      exact clocked_iff.2 ⟨hour, minute, second, spaced, two, rfl⟩
  · rintro ⟨blanks, body, blank, rfl, clocked | ⟨hour, gap, minute, gap', second, spaced, rfl, -⟩⟩
    · obtain ⟨hour, minute, second, spaced, -, rfl⟩ := clocked_iff.1 clocked
      exact ⟨blanks, hour, [], minute, [], second, blank, spaced, rfl⟩
    · exact ⟨blanks, hour, gap, minute, gap', second, blank, spaced, rfl⟩

/-- A loose text is not six digits in a row: it has a blank in it or five characters. -/
lemma Loose.not_clocked (loose : Loose cs t) : ¬Clocked cs t' := by
  rintro ⟨a, b, c, d, e, f, digits, -⟩
  obtain ⟨hour, gap, minute, gap', second, spaced, rfl, slack⟩ := loose
  have unspaced : ∀ x ∈ gap ++ gap', False := by
    intro x mem
    have inside : x ∈ hour ++ (gap ++ (minute ++ (gap' ++ second))) := by
      simp only [List.mem_append] at mem ⊢
      tauto
    have solid := digits.solid x inside
    rw [spaced.blank x mem] at solid
    cases solid
  obtain ⟨none, none'⟩ := List.append_eq_nil_iff.1 (List.eq_nil_iff_forall_not_mem.2 unspaced)
  subst none none'
  have two := spaced.hourEnds.resolve_right fun some => some rfl
  have two' := spaced.minuteEnds.resolve_right fun some => some rfl
  have six := digits.length_eq
  have one : second.length = 1 := by simpa using slack
  simp [two, two', one] at six

/-- A text that denotes a time loosely is not empty. -/
lemma Loose.ne_nil (loose : Loose cs t) : cs ≠ [] := by
  obtain ⟨hour, gap, minute, gap', second, spaced, rfl, -⟩ := loose
  obtain ⟨c, rest, d, rfl, -⟩ := spaced.inHour.head
  exact List.cons_ne_nil _ _

/-- Six digits are not the empty text. -/
lemma Clocked.ne_nil (clocked : Clocked cs t) : cs ≠ [] := by
  rintro rfl
  obtain ⟨a, b, c, d, e, f, digits, -⟩ := clocked
  cases digits

end

end TimeOfDay

namespace Payload

open Text TimeOfDay

/-- The time of a fill is what its sixth field is read as. -/
lemma time_of_fill? {streamId : String} {market : Market} {symbol : Option String}
    {payload : String} {fill : Fill} (read : fill? streamId market symbol payload = some fill) :
    fill.time = ((parts payload)[5]?.bind nonempty?).bind time? := by
  unfold fill? at read
  dsimp only at read
  split at read
  · cases read
  · cases read
    rfl

/-- A part of a payload that is a time has no blank in front of it to be skipped. -/
lemma time?_iff {payload field : String} {i : ℕ} {t : TimeOfDay}
    (part : (parts payload)[i]? = some field) :
    (nonempty? field).bind time? = some t ↔
      Clocked field.toList t ∨ Loose field.toList t := by
  rw [parts, List.getElem?_map] at part
  obtain ⟨text, -, trimmed⟩ := Option.map_eq_some_iff.1 part
  have solid : ∀ c ∈ field.toList.head?, isBlank c = false := by
    rw [← trimmed, toList_trim]
    exact (trimmed_trimChars text.toList).1
  constructor
  · intro read
    obtain ⟨text, filled, read⟩ := Option.bind_eq_some_iff.1 read
    unfold nonempty? at filled
    split at filled
    · cases filled
    cases filled
    obtain ⟨blanks, body, blank, whole, told⟩ := ofClock?_eq_some_iff.1 read
    -- the part is trimmed and has no blank in front
    cases blanks with
    | nil =>
      rw [whole]
      exact told
    | cons x blanks =>
      have first := solid x (by rw [whole]; rfl)
      rw [blank x List.mem_cons_self] at first
      cases first
  · intro told
    have filled : field ≠ "" := by
      rintro rfl
      rcases told with clocked | loose
      · exact clocked.ne_nil rfl
      · exact loose.ne_nil rfl
    rw [nonempty?, if_neg filled, Option.bind_some]
    exact ofClock?_eq_some_iff.2 ⟨[], field.toList, by simp, rfl, told⟩

end Payload

namespace Codec

open Text TimeOfDay Payload

/-- A fill that was read from a frame has a time exactly when the sixth part of the payload in its
frame is six digits in a row that denote this time, or a loose text that does. So a fill has a time
without six digits in a row exactly when the sixth part is a loose text. -/
theorem fill_time_iff (c : Codec) {raw : List UInt8} {fill : Fill}
    (parsed : c.parse? raw = some (.execution fill)) :
    ∃ text payload, Utf8.decode? raw = some text ∧ c.payload? (trim text) = some payload ∧
      (∀ t, fill.time = some t ↔ ∃ field, (parts payload)[5]? = some field ∧
        (Clocked field.toList t ∨ Loose field.toList t)) ∧
      ((∃ t, fill.time = some t) ∧
          (∀ field t, (parts payload)[5]? = some field → ¬Clocked field.toList t) ↔
        ∃ field t, (parts payload)[5]? = some field ∧ Loose field.toList t) := by
  obtain ⟨text, payload, decoded, carried, streamId, symbol, made⟩ := fill?_of_parse? parsed
  have time_iff : ∀ t, fill.time = some t ↔ ∃ field, (parts payload)[5]? = some field ∧
      (Clocked field.toList t ∨ Loose field.toList t) := by
    intro t
    rw [time_of_fill? made]
    cases part : (parts payload)[5]? with
    | none => simp
    | some field => simpa using time?_iff part
  refine ⟨text, payload, decoded, carried, time_iff, ?_⟩
  constructor
  · rintro ⟨⟨t, timed⟩, unclocked⟩
    obtain ⟨field, part, clocked | loose⟩ := (time_iff t).1 timed
    · exact absurd clocked (unclocked field t part)
    · exact ⟨field, t, part, loose⟩
  · rintro ⟨field, t, part, loose⟩
    refine ⟨⟨t, (time_iff t).2 ⟨field, part, .inr loose⟩⟩, ?_⟩
    intro field' t' part'
    cases part.symm.trans part'
    exact loose.not_clocked

/-- A payload whose time has lost its last digit. -/
def shortPayload : String := "A^02^1^71500^10^12345"

/-- A plain frame with this payload. -/
def shortFrame : List UInt8 := Utf8.encode (envelopeText "0" "H0STCNI9" "x" shortPayload)

/-- The time that is read of it. -/
def shortTime : TimeOfDay := (make? 12 34 5 0).get (by decide)

/-- Every codec reads the remaining digits as another time. -/
theorem parse?_shortFrame (c : Codec) :
    ∃ fill, c.parse? shortFrame = some (.execution fill) ∧ fill.time = some shortTime :=
  ⟨_, parse?_plain c (by decide) (by decide) (by decide), rfl⟩

/-- The time in the short frame is a loose text. -/
theorem shortFrame_loose :
    ∃ fill, (ofSubscriptions (Subscription.all .paper "user")).parse? shortFrame =
        some (.execution fill) ∧ fill.time = some shortTime ∧
      Loose "12345".toList shortTime ∧ ∀ t, ¬Clocked "12345".toList t := by
  obtain ⟨fill, parsed, timed⟩ :=
    parse?_shortFrame (ofSubscriptions (Subscription.all .paper "user"))
  obtain ⟨text, payload, decoded, carried, time_iff, -⟩ := fill_time_iff _ parsed
  have text_eq : envelopeText "0" "H0STCNI9" "x" shortPayload = text := by
    rw [← Option.some_inj, ← decoded, shortFrame, Utf8.decode?_encode]
  have payload_eq : shortPayload = payload := by
    rw [← Option.some_inj, ← carried, ← text_eq]
    decide
  have part : (parts payload)[5]? = some "12345" := by
    rw [← payload_eq]
    decide
  have unclocked : ∀ t, ¬Clocked "12345".toList t := by
    rintro t ⟨a, b, c, d, e, f, digits, -⟩
    cases digits.length_eq
  obtain ⟨field, part', clocked | loose⟩ := (time_iff shortTime).1 timed
  · cases part.symm.trans part'
    exact absurd clocked (unclocked shortTime)
  · cases part.symm.trans part'
    exact ⟨fill, parsed, timed, loose, unclocked⟩

end Codec

end FillFeed
