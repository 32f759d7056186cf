import FillFeed.Fill.TimeOfDay

/-!
# Timestamps

A `Timestamp` is a date and a time of day in universal time. `Timestamp.read?` takes a date and
time with an offset from universal time and moves it there; `Timestamp.toText` writes it with a
`Z`.
-/

namespace FillFeed

/-- A date of the Gregorian calendar. -/
structure Date where
  year : Int
  month : Nat
  day : Nat
  deriving DecidableEq

namespace Date

/-- Whether a year has a 29th of February. -/
def isLeap (year : Int) : Bool := year % 4 == 0 && (year % 100 != 0 || year % 400 == 0)

/-- The number of days in a month. -/
def monthLength (year : Int) (month : Nat) : Nat :=
  if month = 2 then if isLeap year then 29 else 28
  else if month = 4 ∨ month = 6 ∨ month = 9 ∨ month = 11 then 30
  else 31

/-- The first and the last year that dates are kept for. -/
def inRange (year : Int) : Bool := -262143 ≤ year && year ≤ 262142

/-- The date with these parts, when there is one. -/
def make? (year : Int) (month day : Nat) : Option Date :=
  if inRange year ∧ 1 ≤ month ∧ month ≤ 12 ∧ 1 ≤ day ∧ day ≤ monthLength year month then
    some ⟨year, month, day⟩
  else none

/-- The day after a date. -/
def next (d : Date) : Date :=
  if d.day < monthLength d.year d.month then { d with day := d.day + 1 }
  else if d.month < 12 then ⟨d.year, d.month + 1, 1⟩
  else ⟨d.year + 1, 1, 1⟩

/-- The day before a date. -/
def previous (d : Date) : Date :=
  if 1 < d.day then { d with day := d.day - 1 }
  else if 1 < d.month then ⟨d.year, d.month - 1, monthLength d.year (d.month - 1)⟩
  else ⟨d.year - 1, 12, 31⟩

/-- The year of a date: four digits, or a sign and at least four digits outside of those. -/
def yearChars (year : Int) : List Char :=
  if 0 ≤ year ∧ year ≤ 9999 then TimeOfDay.padded 4 year.toNat
  else if year < 0 then '-' :: TimeOfDay.padded 4 year.natAbs
  else '+' :: TimeOfDay.padded 4 year.toNat

end Date

/-- A moment in universal time. -/
structure Timestamp where
  date : Date
  time : TimeOfDay
  deriving DecidableEq

namespace Timestamp

/-- Reads a year: four digits at most, or any number of them after a sign. -/
def year? (cs : List Char) : Option (Int × List Char) :=
  match Text.dropBlanks cs with
  | '-' :: rest =>
    match Text.spanDigits rest with
    | ([], _) => none
    | (ds, rest) => some (-(Text.natOfDigits ds : Int), rest)
  | '+' :: rest =>
    match Text.spanDigits rest with
    | ([], _) => none
    | (ds, rest) => some (Text.natOfDigits ds, rest)
  | rest =>
    match TimeOfDay.upTo 4 rest with
    | ([], _) => none
    | (ds, rest) => some (Text.natOfDigits ds, rest)

/-- Reads a date. -/
def date? (cs : List Char) : Option (Date × List Char) := do
  let (year, rest) ← year? cs
  let rest ← TimeOfDay.mark? '-' rest
  let (month, rest) ← TimeOfDay.number? rest
  let rest ← TimeOfDay.mark? '-' rest
  let (day, rest) ← TimeOfDay.number? rest
  some (← Date.make? year month day, rest)

/-- Two digits. -/
def pair? (a b : Char) : Option Nat := do some ((← Text.digit? a) * 10 + (← Text.digit? b))

/-- Reads the offset from universal time in minutes: a name of universal time, or a sign and four
digits that may have colons and blanks in the middle. -/
def offset? (cs : List Char) : Option (Int × List Char) :=
  match cs with
  | a :: b :: c :: rest =>
    if a.toUpper = 'U' ∧ b.toUpper = 'T' ∧ c.toUpper = 'C' then some (0, rest) else signed? cs
  | _ => signed? cs
where
  /-- Reads an offset that does not spell a name. -/
  signed? : List Char → Option (Int × List Char)
    | 'Z' :: rest | 'z' :: rest => some (0, rest)
    | sign :: h :: h' :: rest => do
      let negative ← if sign = '+' then some false
        else if sign = '-' ∨ sign = '−' then some true
        else none
      let hours ← pair? h h'
      match rest.dropWhile fun c => c == ':' || Text.isBlank c with
      | m :: m' :: rest =>
        let minutes ← pair? m m'
        if minutes < 60 ∧ hours < 24 then
          let offset : Int := hours * 60 + minutes
          some (if negative then -offset else offset, rest)
        else none
      | _ => none
    | _ => none

/-- A date and time with an offset, moved to universal time. -/
def atOffset? (date : Date) (time : TimeOfDay) (offset : Int) : Option Timestamp :=
  let minutes : Int := time.hour * 60 + time.minute - offset
  let date :=
    if minutes < 0 then date.previous else if 1440 ≤ minutes then date.next else date
  let within := (minutes % 1440).toNat
  match Date.make? date.year date.month date.day,
    TimeOfDay.make? (within / 60) (within % 60) time.second time.nanos with
  | some date, some time => some ⟨date, time⟩
  | _, _ => none

/-- The moment that a text denotes. -/
def read? (s : String) : Option Timestamp := do
  let (date, rest) ← date? s.toList
  let rest ← match rest with
    | 'T' :: rest | 't' :: rest | ' ' :: rest => some rest
    | _ => none
  let (hour, minute, rest) ← TimeOfDay.hourMinute? rest
  let (second, nanos, rest) ← TimeOfDay.seconds? rest
  let time ← TimeOfDay.make? hour minute second nanos
  let (offset, rest) ← offset? (Text.dropBlanks rest)
  if Text.dropBlanks rest = [] then atOffset? date time offset else none

/-- The text of a moment. -/
def toText (t : Timestamp) : String :=
  String.ofList (Date.yearChars t.date.year ++ '-' :: TimeOfDay.padded 2 t.date.month ++
    '-' :: TimeOfDay.padded 2 t.date.day ++ 'T' :: t.time.toChars ++ ['Z'])

end Timestamp

end FillFeed
