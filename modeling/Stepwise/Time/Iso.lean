import Stepwise.Text.Quoted
import Stepwise.Time.Span

/-!
# Reading ISO times

A time may be a calendar date or a week date, in the extended form with hyphens and colons or in
the basic form without, followed by any one character and a time of day. What follows the date
decides where it ends. A NUL character where a time of day or an offset is complete ends it, and
what comes after the NUL is not looked at. A text that has another shape is refused as a whole;
one of the right shape is refused for the first part out of its range.
-/

namespace Stepwise

namespace Iso

/-- Why a text names no moment. -/
inductive Problem where
  | shape
  | offset (microseconds : Int)
  | year (n : Nat)
  | month
  | day
  | hour
  | minute
  | second
  deriving DecidableEq, Repr

def Problem.text (source : String) : Problem → String
  | .shape => s!"Invalid isoformat string: {quoted source}"
  | .offset span =>
    "offset must be a timedelta strictly between -timedelta(hours=24) and timedelta(hours=24), " ++
      "not " ++ Span.shown ⟨span⟩ ++ "."
  | .year n => s!"year {n} is out of range"
  | .month => "month must be in 1..12"
  | .day => "day is out of range for month"
  | .hour => "hour must be in 0..23"
  | .minute => "minute must be in 0..59"
  | .second => "second must be in 0..59"

/-- A moment all of whose parts are in range; the first part that is not is named otherwise. -/
def checked (m : Moment) : Except Problem Moment :=
  if !m.offset.all fun o => o.natAbs < Moment.microsecondsPerDay then
    .error (.offset (m.offset.getD 0))
  else if m.date.year < Calendar.leastYear ∨ Calendar.greatestYear < m.date.year then
    .error (.year m.date.year)
  else if m.date.month < 1 ∨ 12 < m.date.month then .error .month
  else if m.date.day < 1 ∨ Calendar.daysInMonth m.date.year m.date.month < m.date.day then
    .error .day
  else if 23 < m.hour then .error .hour
  else if 59 < m.minute then .error .minute
  else if 59 < m.second then .error .second
  else .ok m

/-- Exactly `count` digits and what follows them. -/
def digits? : Nat → List Char → Option (Nat × List Char)
  | count, text =>
    let ds := text.take count
    if ds.length = count ∧ ds.all Decimal.isDigit then some (Decimal.value ds, text.drop count)
    else none

/-- The date of a day of a week; the first week of a year is the one with its first Thursday. The
weeks of year 0 lie before the calendar, where there are no months. -/
def ofWeek? (year week day : Nat) : Option Date :=
  let first : Date := ⟨year, 1, 1⟩
  let longYear := first.weekday = 3 || (first.weekday = 2 && Calendar.isLeap year)
  if week = 0 ∨ 53 < week ∨ (week = 53 ∧ !longYear) ∨ day = 0 ∨ 7 < day then none
  else if year = 0 then some ⟨1, 0, 0⟩
  else
    -- The Monday of the first week, counted so that it is a natural number in year 1 too.
    let monday := if first.weekday ≤ 3 then first.ordinal - first.weekday
      else first.ordinal + 7 - first.weekday
    some (Date.ofOrdinal (monday + (week - 1) * 7 + (day - 1)))

/-- Reads a date that fills its text. -/
def date? (text : List Char) : Option Date := do
  let (year, rest) ← digits? 4 text
  let extended := rest.head? = some '-'
  let rest := if extended then rest.drop 1 else rest
  match rest with
  | 'W' :: rest =>
    let (week, rest) ← digits? 2 rest
    if rest = [] then ofWeek? year week 1
    else if extended then
      match rest with
      | '-' :: rest =>
        let (day, _) ← digits? 1 rest
        ofWeek? year week day
      | _ => none
    else
      let (day, _) ← digits? 1 rest
      ofWeek? year week day
  | rest =>
    let (month, rest) ← digits? 2 rest
    let rest ← if extended then (if rest.head? = some '-' then some (rest.drop 1) else none)
      else some rest
    let (day, rest) ← digits? 2 rest
    if rest = [] then some ⟨year, month, day⟩ else none

/-- Where the date of a text of at least seven characters ends. -/
def dateLength? (text : List Char) : Option Nat :=
  let at? (k : Nat) : Option Char := text[k]?
  let digitAt (k : Nat) : Bool := (at? k).any Decimal.isDigit
  if text.length = 7 then some 7
  else if at? 4 = some '-' then
    if at? 5 = some 'W' then
      if at? 8 = some '-' then
        if text.length = 9 then none
        else if digitAt 10 then some 8
        else some 10
      else some 8
    else some 10
  else if at? 4 = some 'W' then
    let stop := 7 + ((text.drop 7).takeWhile Decimal.isDigit).length
    if stop < 9 then some stop else if stop % 2 = 0 then some 7 else some 8
  else some 8

/-- Hours, minutes, seconds and microseconds as read, before any check of range. -/
structure Clock where
  hour : Nat
  minute : Nat
  second : Nat
  microsecond : Nat

/-- Whether nothing follows: the text is over or goes on with a NUL character. -/
def isOver (rest : List Char) : Bool := rest.head?.all (· = '\x00')

/-- Reads the fraction of a second: up to six digits count and further ones are skipped. Returns
whether something is left over. -/
def fraction? (part whole : List Char) : Option (Nat × Bool) := do
  let count := min part.length 6
  let (n, _) ← digits? count part
  let after := (whole.drop count).dropWhile Decimal.isDigit
  let scale := Nat.pow 10 (6 - count)
  return (if count = 0 then 0 else n * scale, !isOver after)

/-- The time of day at the head of `whole`, of which the first `size` characters belong to it.
Two digits each for hours, minutes and seconds, with colons between all or none; a point or a
comma starts the fraction. Returns whether characters are left over. -/
def clock? (size : Nat) (whole : List Char) : Option (Clock × Bool) := do
  let (hour, rest) ← digits? 2 whole
  let colons := rest.head? = some ':'
  -- What follows a pair of digits: the end, another pair, or the fraction.
  let next (used : Nat) (rest : List Char) : Option (Nat × List Char × Bool × Bool) :=
    match rest with
    | [] => some (used + 1, [], true, false)
    | c :: more =>
      -- One ASCII character may be left over before the offset.
      if size ≤ used + 1 ∧ c.toNat < 128 then some (used + 1, more, true, !isOver rest)
      else if colons ∧ c = ':' then some (used + 1, more, false, false)
      else if c = '.' ∨ c = ',' then some (used + 1, more, false, true)
      else if !colons then some (used, rest, false, false)
      else none
  let finish (hour minute second used : Nat) (rest : List Char) : Option (Clock × Bool) := do
    let (microsecond, left) ← fraction? (rest.take (size - used)) rest
    return (⟨hour, minute, second, microsecond⟩, left)
  let (used, rest, ended, special) ← next 2 rest
  if ended then return (⟨hour, 0, 0, 0⟩, special)
  if special then return ← finish hour 0 0 used rest
  let (minute, rest) ← digits? 2 rest
  let (used, rest, ended, special) ← next (used + 2) rest
  if ended then return (⟨hour, minute, 0, 0⟩, special)
  if special then return ← finish hour minute 0 used rest
  let (second, rest) ← digits? 2 rest
  let (used, rest, ended, special) ← next (used + 2) rest
  if ended then return (⟨hour, minute, second, 0⟩, special)
  finish hour minute second used rest

/-- Reads a time of day with an optional offset: `Z`, or a sign and a time of day. An offset of
less than a second counts as zero. -/
def time? (text : List Char) : Option (Clock × Option Int) := do
  let isMark (c : Char) : Bool := c = '+' || c = '-' || c = 'Z'
  let size := (text.takeWhile (!isMark ·)).length
  let (clock, left) ← clock? size text
  match text.drop size with
  | [] => if left then none else some (clock, none)
  | 'Z' :: rest => if isOver rest then some (clock, some 0) else none
  | sign :: rest =>
    let (zone, left) ← clock? rest.length rest
    if left then none
    else
      let seconds := zone.hour * 3600 + zone.minute * 60 + zone.second
      let magnitude : Int :=
        if seconds = 0 then 0 else seconds * Moment.microsecondsPerSecond + zone.microsecond
      some (clock, some (if sign = '-' then -magnitude else magnitude))

/-- Splits and reads the parts of a text. -/
def parts? (text : List Char) : Option Moment := do
  if text.length < 7 then none
  let length ← dateLength? text
  let date ← date? (text.take length)
  if text.length ≤ length then return .midnight date
  let (clock, offset) ← time? (text.drop (length + 1))
  return ⟨date, clock.hour, clock.minute, clock.second, clock.microsecond, offset⟩

/-- Reads an ISO time. -/
def read (source : String) : Except Problem Moment :=
  match parts? source.toList with
  | none => .error .shape
  | some m => checked m

end Iso

end Stepwise
