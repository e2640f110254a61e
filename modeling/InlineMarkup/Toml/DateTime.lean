/-!
# Dates and times

The dates and times of TOML and their text. The text is canonical: `T` stands between a date and a
time, `Z` for no offset from universal time, and fractions of a second end in no zero.
-/

namespace InlineMarkup.Toml

/-- **A day of the calendar.** -/
structure Date where
  year : Nat
  month : Nat
  day : Nat
  deriving DecidableEq

/-- **A time of day.** -/
structure Time where
  hour : Nat
  minute : Nat
  second : Nat
  nanosecond : Nat
  deriving DecidableEq

/-- **An offset** from universal time: none by convention, or so many minutes. -/
inductive Offset where
  | universal
  | minutes (n : Int)
  deriving DecidableEq

/-- **A date, a time or both,** at an offset or at an unknown place. -/
inductive DateTime where
  | date (d : Date)
  | time (t : Time)
  | both (d : Date) (t : Time) (offset : Option Offset)
  deriving DecidableEq

/-- Is it a year of 366 days? -/
def isLeapYear (year : Nat) : Bool :=
  year % 4 == 0 && (year % 100 != 0 || year % 400 == 0)

/-- The number of days in a month. -/
def daysInMonth (year month : Nat) : Nat :=
  match month with
  | 2 => if isLeapYear year then 29 else 28
  | 4 | 6 | 9 | 11 => 30
  | _ => 31

/-- Does the calendar have the day? -/
def Date.isValid (d : Date) : Bool :=
  1 ≤ d.month && d.month ≤ 12 && 1 ≤ d.day && d.day ≤ daysInMonth d.year d.month

/-- **How far a clock goes:** its last hour, and the offsets that it may have. -/
structure ClockRule where
  lastHour : Nat
  offsetFits : (hours minutes : Nat) → Bool

/-- The clock of documents. -/
def ClockRule.strict : ClockRule := ⟨23, fun hours minutes => hours ≤ 23 && minutes ≤ 59⟩

/-- A clock that may show the end of the day, with offsets of up to a day in any number of
minutes. -/
def ClockRule.lenient : ClockRule := ⟨24, fun hours minutes => hours * 60 + minutes ≤ 24 * 60⟩

/-- Does the clock have the time? A minute may have a leap second. -/
def Time.isValid (rule : ClockRule) (t : Time) : Bool :=
  t.hour ≤ rule.lastHour && t.minute ≤ 59 && t.second ≤ 60

/-! ### Text -/

/-- A number with at least `width` digits. -/
def padded (width n : Nat) : List Char :=
  let digits := Nat.toDigits 10 n
  List.replicate (width - digits.length) '0' ++ digits

/-- The text of a date. -/
def Date.text (d : Date) : List Char :=
  padded 4 d.year ++ '-' :: padded 2 d.month ++ '-' :: padded 2 d.day

/-- The text of a time. -/
def Time.text (t : Time) : List Char :=
  let fraction := ((padded 9 t.nanosecond).reverse.dropWhile (· == '0')).reverse
  padded 2 t.hour ++ ':' :: padded 2 t.minute ++ ':' :: padded 2 t.second ++
    if fraction.isEmpty then [] else '.' :: fraction

/-- The text of an offset. -/
def Offset.text : Offset → List Char
  | universal => ['Z']
  | minutes n =>
    let sign := if n < 0 then '-' else '+'
    sign :: padded 2 (n.natAbs / 60) ++ ':' :: padded 2 (n.natAbs % 60)

/-- **The text of a date, a time or both.** -/
def DateTime.text : DateTime → String
  | date d => String.ofList d.text
  | time t => String.ofList t.text
  | both d t offset =>
    String.ofList (d.text ++ 'T' :: t.text ++ (offset.map Offset.text).getD [])

end InlineMarkup.Toml
