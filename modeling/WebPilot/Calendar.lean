import WebPilot.Decimal.Layout

/-!
# Moments

A moment is a number of whole seconds since the beginning of 1970.  The calendar is the usual one,
continued in both directions; years are counted from March here, so that the day that only some
years have is the last one of its year.
-/

namespace WebPilot

set_option autoImplicit false

/-- A date of the calendar. -/
structure CivilDate where
  year : Int
  month : Nat
  day : Nat
  deriving DecidableEq, Repr

namespace CivilDate

/-- Days in four hundred years, after which the calendar repeats. -/
def eraDays : Int := 146097

/-- The days from the first of March of the year zero to the first day of 1970. -/
def daysBefore1970 : Int := 719468

/-- The days before a month, for months counted from March. -/
def daysBeforeMonth (month : Int) : Int :=
  (153 * month + 2) / 5

/-- The number of a date, counted from the first day of 1970. -/
def toDays (d : CivilDate) : Int :=
  let year := if d.month ≤ 2 then d.year - 1 else d.year
  let month : Int := (d.month + 9) % 12
  365 * year + year.fdiv 4 - year.fdiv 100 + year.fdiv 400 + daysBeforeMonth month + (d.day - 1) -
    daysBefore1970

/-- The date of a number. -/
def ofDays (days : Int) : CivilDate :=
  let n := days + daysBefore1970
  let era := n.fdiv eraDays
  let dayOfEra := n - era * eraDays
  let yearOfEra := (dayOfEra - dayOfEra / 1460 + dayOfEra / 36524 - dayOfEra / 146096) / 365
  let dayOfYear := dayOfEra - (365 * yearOfEra + yearOfEra / 4 - yearOfEra / 100)
  let month := (5 * dayOfYear + 2) / 153
  let day := dayOfYear - daysBeforeMonth month + 1
  let year := yearOfEra + era * 400
  if month < 10 then ⟨year, (month + 3).toNat, day.toNat⟩
  else ⟨year + 1, (month - 9).toNat, day.toNat⟩

end CivilDate

/-- A moment, in whole seconds since the beginning of 1970. -/
structure Moment where
  seconds : Int
  deriving DecidableEq, Repr

namespace Moment

/-- Seconds in a day. -/
def daySeconds : Int := 86400

/-- The moment of a date and a time of day. -/
def ofDate (date : CivilDate) (hour minute second : Nat) : Moment :=
  ⟨date.toDays * daySeconds + hour * 3600 + minute * 60 + second⟩

/-- The digits of a text as one number. -/
def digitsOf (cs : List Char) : Nat :=
  cs.foldl (fun n c => if c.isDigit then n * 10 + (c.toNat - 0x30) else n) 0

/-- The digits of a text in front of a fraction; the signs between them are left out. -/
def wholeDigits (cs : List Char) : List Char :=
  (cs.takeWhile fun c => c != '.' && c != ',').filter Char.isDigit

/-- Hours, minutes and seconds of two digits each, as far as they are there, in seconds. -/
def clockSeconds (digits : List Char) : Nat :=
  let pair (start : Nat) : Nat := digitsOf ((digits.drop start).take 2)
  pair 0 * 3600 + pair 2 * 60 + pair 4

/-- Reads a moment: a date and a time of day, perhaps a fraction of a second, which does not count,
and how far the clocks of the place are ahead.  The text is taken to have this form; the parts of the
date, and those of the time, may stand next to each other without a sign between them. -/
def ofText (s : String) : Moment :=
  let cs := s.toList
  let dateLength := if cs[4]? = some '-' then 10 else 8
  let date := wholeDigits (cs.take dateLength)
  let part (start count : Nat) : Nat := digitsOf ((date.drop start).take count)
  let clock := cs.drop (dateLength + 1)
  let time := clock.takeWhile fun c => c != '+' && c != '-'
  let place := clock.drop time.length
  let m := ofDate ⟨part 0 4, part 4 2, part 6 2⟩ 0 0 (clockSeconds (wholeDigits time))
  let ahead : Int := clockSeconds (wholeDigits place)
  match place with
  | '+' :: _ => ⟨m.seconds - ahead⟩
  | '-' :: _ => ⟨m.seconds + ahead⟩
  | _ => m

/-- The moment as it stands in ledgers: date and time of day, and a sign that they are those of
universal time. -/
def text (m : Moment) : String :=
  let date := CivilDate.ofDays (m.seconds.fdiv daySeconds)
  let rest := (m.seconds.fmod daySeconds).toNat
  let digits (width n : Nat) : String :=
    String.ofList (Decimal.padLeft width (Decimal.natDigits n))
  let day := s!"{digits 4 date.year.toNat}-{digits 2 date.month}-{digits 2 date.day}"
  let time := s!"{digits 2 (rest / 3600)}:{digits 2 (rest / 60 % 60)}:{digits 2 (rest % 60)}"
  s!"{day}T{time}Z"

end Moment

end WebPilot
