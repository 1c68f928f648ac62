import Mathlib.Data.List.Basic
import Stepwise.Proofs.Number.Digits
import Stepwise.Proofs.Time.Calendar
import Stepwise.Time.Iso

/-!
# ISO times are read back

The ISO form of a moment has its parts at fixed places, each with leading zeros, and behind them the
offset, up to its last part that counts. Reading takes them from there, and since they are in range
it gives the moment. Only an offset of less than a second is lost, for it is read as nothing. What
has been read has no such offset, from whichever form it was read.
-/

namespace Stepwise

/-- A moment that an ISO time can tell: its parts are in range, and its offset, if it has one, is
nothing or a second at least. -/
def Moment.isTold (m : Moment) : Bool :=
  m.isValid && m.offset.all fun o => o = 0 || microsecondsPerSecond ≤ o.natAbs

/-- What an ISO time tells of an offset: less than a second is told as nothing. -/
def Moment.restatedOffset (o : Int) : Int := if o.natAbs < microsecondsPerSecond then 0 else o

/-- What an ISO time tells of a moment. -/
def Moment.restated (m : Moment) : Moment := { m with offset := m.offset.map restatedOffset }

theorem Moment.natAbs_restatedOffset_le (o : Int) : (restatedOffset o).natAbs ≤ o.natAbs := by
  unfold restatedOffset
  split
  · exact Nat.zero_le _
  · exact Nat.le_refl _

/-- All parts of it are in range if those of the moment are. -/
theorem Moment.isValid_restated {m : Moment} (valid : m.isValid = true) :
    m.restated.isValid = true := by
  rw [isValid, Bool.and_eq_true] at valid ⊢
  refine ⟨valid.1, ?_⟩
  cases given : m.offset with
  | none => simp [restated, given]
  | some o =>
    have day := valid.2
    rw [given, Option.all_some, decide_eq_true_eq] at day
    have less := natAbs_restatedOffset_le o
    rw [restated, given, Option.map_some, Option.all_some]
    exact decide_eq_true (Nat.lt_of_le_of_lt less day)

theorem Moment.restated_of_isTold {m : Moment} (told : m.isTold = true) : m.restated = m := by
  obtain ⟨date, hour, minute, second, microsecond, offset⟩ := m
  rw [isTold, Bool.and_eq_true] at told
  cases offset with
  | none => rfl
  | some o =>
    have lasting := told.2
    simp only [Option.all_some, Bool.or_eq_true, decide_eq_true_eq] at lasting
    have same : restatedOffset o = o := by
      unfold restatedOffset
      split
      · omega
      · rfl
    rw [restated, Option.map_some, same]

namespace Iso

open Decimal

theorem digits?_padded {width n : Nat} (positive : 0 < width) (fits : n < 10 ^ width)
    (rest : List Char) :
    digits? width (padded width n ++ rest) = some (n, rest) := by
  have length := length_padded positive fits
  have all : (padded width n).all isDigit = true :=
    List.all_eq_true.mpr fun c member => isDigit_of_mem_padded member
  unfold digits?
  simp only [List.take_left' length, List.drop_left' length, length, all, value_padded, and_self,
    if_true]

/-- Two digits stand for a part below a hundred. -/
theorem exists_pair {n : Nat} (fits : n < 100) :
    ∃ a b, padded 2 n = [a, b] ∧ isDigit a = true ∧ isDigit b = true := by
  have length := length_padded (by decide : 0 < 2) (show n < 10 ^ 2 from fits)
  obtain ⟨a, b, same⟩ := List.length_eq_two.mp length
  have digit : ∀ c ∈ padded 2 n, isDigit c = true := fun c member => isDigit_of_mem_padded member
  rw [same] at digit
  exact ⟨a, b, same, digit a (by simp), digit b (by simp)⟩

theorem date?_chars {date : Date} (year : date.year < 10000) (month : date.month < 100)
    (day : date.day < 100) : date? date.chars = some date := by
  obtain ⟨m, m', monthChars, digit, -⟩ := exists_pair month
  have other : m ≠ 'W' := ne_of_isDigit digit (by decide)
  have monthRead := digits?_padded (by decide) (show date.month < 10 ^ 2 from month)
    ('-' :: padded 2 date.day)
  have dayRead := digits?_padded (by decide) (show date.day < 10 ^ 2 from day) []
  rw [List.append_nil] at dayRead
  rw [monthChars] at monthRead
  unfold date? Date.chars
  rw [List.append_assoc, List.cons_append, digits?_padded (by decide) year, monthChars]
  simp [other] at monthRead ⊢
  simp [monthRead, dayRead]

theorem pair_read {n : Nat} {a b : Char} (fits : n < 100) (same : padded 2 n = [a, b])
    (rest : List Char) : digits? 2 (a :: b :: rest) = some (n, rest) := by
  have read := digits?_padded (by decide) (show n < 10 ^ 2 from fits) rest
  rw [same] at read
  exact read

/-! ## Times of day -/

/-- The parts have as many digits as a time of day has places for. -/
structure Clock.Fits (clock : Clock) : Prop where
  hour : clock.hour < 100
  minute : clock.minute < 100
  second : clock.second < 100
  microsecond : clock.microsecond < 10 ^ 6

/-- Hours, minutes and seconds with colons between. -/
def Clock.whole (clock : Clock) : List Char :=
  padded 2 clock.hour ++ ':' :: padded 2 clock.minute ++ ':' :: padded 2 clock.second

/-- The time of day, with the fraction of the second only where it is not zero. -/
def Clock.chars (clock : Clock) : List Char :=
  if clock.microsecond = 0 then clock.whole
  else clock.whole ++ '.' :: padded 6 clock.microsecond

variable {clock : Clock}

/-- Hours and minutes that are all there is. -/
theorem clock?_minutes {hour minute : Nat} (h : hour < 100) (n : minute < 100) :
    clock? 5 (padded 2 hour ++ ':' :: padded 2 minute) = some (⟨hour, minute, 0, 0⟩, false) := by
  obtain ⟨_, _, hourChars, -, -⟩ := exists_pair h
  obtain ⟨_, _, minuteChars, -, -⟩ := exists_pair n
  rw [hourChars, minuteChars]
  simp [clock?, pair_read h hourChars, pair_read n minuteChars]

/-- Hours, minutes and seconds that are all there is before the sign of an offset. -/
theorem clock?_whole (fits : clock.Fits) (exact : clock.microsecond = 0) {rest : List Char}
    (marked : ∀ c ∈ rest.head?, c = '+' ∨ c = '-') :
    clock? 8 (clock.whole ++ rest) = some (clock, !isOver rest) := by
  obtain ⟨hour, minute, second, microsecond⟩ := clock
  obtain ⟨h, n, s, -⟩ := fits
  obtain rfl : microsecond = 0 := exact
  obtain ⟨_, _, hourChars, -, -⟩ := exists_pair h
  obtain ⟨_, _, minuteChars, -, -⟩ := exists_pair n
  obtain ⟨_, _, secondChars, -, -⟩ := exists_pair s
  rw [Clock.whole, hourChars, minuteChars, secondChars]
  cases rest with
  | nil => simp [clock?, pair_read h hourChars, pair_read n minuteChars, pair_read s secondChars,
      isOver]
  | cons sign more =>
    have plain : sign.toNat < 128 := by
      rcases marked sign rfl with rfl | rfl <;> decide
    simp [clock?, pair_read h hourChars, pair_read n minuteChars, pair_read s secondChars, plain]

/-- Six digits of a fraction before the sign of an offset. -/
theorem fraction?_padded {n : Nat} (fits : n < 10 ^ 6) {rest : List Char}
    (marked : ∀ c ∈ rest.head?, c = '+' ∨ c = '-') :
    fraction? ((padded 6 n ++ rest).take 6) (padded 6 n ++ rest) = some (n, !isOver rest) := by
  have length := length_padded (by decide) fits
  have part := digits?_padded (by decide) fits []
  rw [List.append_nil] at part
  have after : rest.dropWhile isDigit = rest := by
    cases rest with
    | nil => rfl
    | cons sign more =>
      rcases marked sign rfl with rfl | rfl
      · rfl
      · rfl
  rw [List.take_left' length]
  simp [fraction?, length, part, List.drop_left' length, after]

/-- Hours, minutes and seconds with six digits of a fraction before the sign of an offset. -/
theorem clock?_fraction (fits : clock.Fits) {rest : List Char}
    (marked : ∀ c ∈ rest.head?, c = '+' ∨ c = '-') :
    clock? 15 (clock.whole ++ '.' :: padded 6 clock.microsecond ++ rest) =
      some (clock, !isOver rest) := by
  obtain ⟨hour, minute, second, microsecond⟩ := clock
  obtain ⟨h, n, s, small⟩ := fits
  obtain ⟨_, _, hourChars, -, -⟩ := exists_pair h
  obtain ⟨_, _, minuteChars, -, -⟩ := exists_pair n
  obtain ⟨_, _, secondChars, -, -⟩ := exists_pair s
  have fraction := fraction?_padded small marked
  rw [Clock.whole, hourChars, minuteChars, secondChars]
  simp at fraction
  simp [clock?, pair_read h hourChars, pair_read n minuteChars, pair_read s secondChars, fraction]

theorem length_whole (fits : clock.Fits) : clock.whole.length = 8 := by
  have pair {n : Nat} (fits : n < 100) : (padded 2 n).length = 2 := length_padded (by decide) fits
  simp [Clock.whole, pair fits.hour, pair fits.minute, pair fits.second]

/-- A time of day is read back, whether an offset follows or not. -/
theorem clock?_chars (fits : clock.Fits) {rest : List Char}
    (marked : ∀ c ∈ rest.head?, c = '+' ∨ c = '-') :
    clock? clock.chars.length (clock.chars ++ rest) = some (clock, !isOver rest) := by
  unfold Clock.chars
  split
  · rename_i exact
    rw [length_whole fits]
    exact clock?_whole fits exact marked
  · have length : (clock.whole ++ '.' :: padded 6 clock.microsecond).length = 15 := by
      simp [length_whole fits, length_padded (by decide) fits.microsecond]
    rw [length]
    exact clock?_fraction fits marked

/-! ## Offsets -/

/-- What starts an offset. -/
def isMark (c : Char) : Bool := c = '+' || c = '-' || c = 'Z'

theorem not_isMark_of_isDigit {c : Char} (digit : isDigit c = true) : isMark c = false := by
  simp [isMark, ne_of_isDigit digit (show isDigit '+' = false by decide),
    ne_of_isDigit digit (show isDigit '-' = false by decide),
    ne_of_isDigit digit (show isDigit 'Z' = false by decide)]

/-- Nothing in a time of day starts an offset. -/
theorem not_isMark_of_mem_chars {c : Char} (member : c ∈ clock.chars) : isMark c = false := by
  have whole (member : c ∈ clock.whole) : isMark c = false := by
    simp only [Clock.whole, List.mem_append, List.mem_cons] at member
    rcases member with (part | rfl | part) | rfl | part
    · exact not_isMark_of_isDigit (isDigit_of_mem_padded part)
    · rfl
    · exact not_isMark_of_isDigit (isDigit_of_mem_padded part)
    · rfl
    · exact not_isMark_of_isDigit (isDigit_of_mem_padded part)
  unfold Clock.chars at member
  split at member
  · exact whole member
  · rcases List.mem_append.mp member with front | behind
    · exact whole front
    · rcases List.mem_cons.mp behind with rfl | part
      · rfl
      · exact not_isMark_of_isDigit (isDigit_of_mem_padded part)

/-- A span of less than a hundred hours as a time of day. -/
def Clock.ofSpan (size : Nat) : Clock :=
  ⟨size / Moment.microsecondsPerSecond / 3600, size / Moment.microsecondsPerSecond / 60 % 60,
    size / Moment.microsecondsPerSecond % 60, size % Moment.microsecondsPerSecond⟩

theorem fits_ofSpan {size : Nat} (day : size < Moment.microsecondsPerDay) :
    (Clock.ofSpan size).Fits := by
  unfold Moment.microsecondsPerDay at day
  constructor <;> simp only [Clock.ofSpan, Moment.microsecondsPerSecond] <;> omega

/-- An offset after its sign: hours and minutes, and what comes after them only where it is not
zero. -/
def Clock.zone (clock : Clock) : List Char :=
  if clock.second = 0 ∧ clock.microsecond = 0 then
    padded 2 clock.hour ++ ':' :: padded 2 clock.minute
  else clock.chars

theorem offsetChars_eq (offset : Int) : Moment.offsetChars offset =
    (if offset < 0 then '-' else '+') :: (Clock.ofSpan offset.natAbs).zone := by
  by_cases short : (Clock.ofSpan offset.natAbs).second = 0 ∧
      (Clock.ofSpan offset.natAbs).microsecond = 0
  · rw [Clock.zone, if_pos short]
    exact if_pos short
  · rw [Clock.zone, if_neg short, Clock.chars]
    by_cases exact : (Clock.ofSpan offset.natAbs).microsecond = 0
    · rw [if_pos exact]
      exact (if_neg short).trans (if_pos exact)
    · rw [if_neg exact]
      exact (if_neg short).trans (if_neg exact)

/-- An offset is read back after its sign. -/
theorem clock?_zone (fits : clock.Fits) :
    clock? clock.zone.length clock.zone = some (clock, false) := by
  unfold Clock.zone
  split
  · rename_i short
    obtain ⟨hour, minute, second, microsecond⟩ := clock
    obtain ⟨rfl, rfl⟩ := short
    have pair {n : Nat} (fits : n < 100) : (padded 2 n).length = 2 := length_padded (by decide) fits
    have length : (padded 2 hour ++ ':' :: padded 2 minute).length = 5 := by
      simp [pair fits.hour, pair fits.minute]
    rw [length]
    exact clock?_minutes fits.hour fits.minute
  · have ended : ∀ c ∈ ([] : List Char).head?, c = '+' ∨ c = '-' := by simp
    have read := clock?_chars fits ended
    rw [List.append_nil] at read
    exact read

/-- The offset with which the ISO form of a moment ends. -/
def zoneChars (offset : Option Int) : List Char :=
  match offset with
  | none => []
  | some offset => Moment.offsetChars offset

theorem marked_zoneChars (offset : Option Int) :
    ∀ c ∈ (zoneChars offset).head?, c = '+' ∨ c = '-' := by
  cases offset with
  | none => simp [zoneChars]
  | some o =>
    rw [zoneChars, offsetChars_eq]
    split <;> simp

/-- A time of day ends where the offset starts. -/
theorem takeWhile_chars (offset : Option Int) :
    ((clock.chars ++ zoneChars offset).takeWhile fun c => !(c = '+' || c = '-' || c = 'Z')) =
      clock.chars := by
  rw [List.takeWhile_append_of_pos fun c member => by
    rw [← isMark, not_isMark_of_mem_chars member]
    rfl]
  cases offset with
  | none => simp [zoneChars]
  | some o =>
    rw [zoneChars, offsetChars_eq]
    split <;> simp

/-- A time of day is read back with the offset behind it. -/
theorem time?_chars (fits : clock.Fits) {offset : Option Int}
    (day : ∀ o ∈ offset, o.natAbs < Moment.microsecondsPerDay) :
    time? (clock.chars ++ zoneChars offset) =
      some (clock, offset.map Moment.restatedOffset) := by
  unfold time?
  simp only [takeWhile_chars, clock?_chars fits (marked_zoneChars offset), Option.bind_eq_bind,
    Option.bind_some, List.drop_left]
  cases offset with
  | none => rfl
  | some o =>
    have zone := clock?_zone (fits_ofSpan (day o rfl))
    have seconds : (Clock.ofSpan o.natAbs).hour * 3600 + (Clock.ofSpan o.natAbs).minute * 60 +
        (Clock.ofSpan o.natAbs).second = o.natAbs / 1000000 := by
      simp only [Clock.ofSpan, Moment.microsecondsPerSecond]
      omega
    have fraction : (Clock.ofSpan o.natAbs).microsecond = o.natAbs % 1000000 := rfl
    rw [zoneChars, offsetChars_eq]
    generalize Clock.ofSpan o.natAbs = part at zone seconds fraction
    by_cases west : o < 0
    · rw [if_pos west]
      simp [zone, Moment.microsecondsPerSecond, Moment.restatedOffset]
      omega
    · rw [if_neg west]
      simp [zone, Moment.microsecondsPerSecond, Moment.restatedOffset]
      omega

/-! ## Moments -/

theorem dateLength?_chars {date : Date} (year : date.year < 10000) (month : date.month < 100)
    (day : date.day < 100) (rest : List Char) :
    dateLength? (date.chars ++ 'T' :: rest) = some 10 := by
  obtain ⟨m, m', monthChars, digit, -⟩ := exists_pair month
  obtain ⟨d, d', dayChars, -, -⟩ := exists_pair day
  obtain ⟨y, y', y'', y''', yearChars⟩ : ∃ a b c d, padded 4 date.year = [a, b, c, d] := by
    have length := length_padded (by decide) (show date.year < 10 ^ 4 from year)
    obtain ⟨a, b, same⟩ := List.length_eq_two.mp (show ((padded 4 date.year).take 2).length = 2 by
      simp [length])
    obtain ⟨c, d, same'⟩ := List.length_eq_two.mp (show ((padded 4 date.year).drop 2).length = 2 by
      simp [length])
    exact ⟨a, b, c, d, by rw [← List.take_append_drop 2 (padded 4 date.year), same, same']; rfl⟩
  have other : m ≠ 'W' := ne_of_isDigit digit (by decide)
  unfold Date.chars
  rw [yearChars, monthChars, dayChars]
  simp [dateLength?, other]

/-- What the ISO form of a moment tells is read back. -/
theorem read_iso_of_isValid {m : Moment} (valid : m.isValid = true) :
    read m.iso = .ok m.restated := by
  have offset' := (Bool.and_eq_true_iff.mp (Moment.isValid_restated valid)).2
  simp only [Moment.isValid, Date.isValid, Bool.and_eq_true, decide_eq_true_eq] at valid
  obtain ⟨⟨⟨⟨⟨⟨⟨⟨⟨⟨least, greatest⟩, month⟩, month'⟩, day⟩, day'⟩, hour⟩, minute⟩, second⟩,
    microsecond⟩, offset⟩ := valid
  have days : m.date.day < 100 := by
    have long := Calendar.daysInMonth_le m.date.year m.date.month
    omega
  have years : m.date.year < 10000 := by
    unfold Calendar.greatestYear at greatest
    omega
  have length : m.date.chars.length = 10 := by
    simp [Date.chars, length_padded (by decide) (show m.date.year < 10 ^ 4 from years),
      length_padded (by decide) (show m.date.month < 10 ^ 2 by omega),
      length_padded (by decide) (show m.date.day < 10 ^ 2 from days)]
  have chars : m.iso.toList = m.date.chars ++ 'T' :: (m.clockChars ++ zoneChars m.offset) := by
    simp only [Moment.iso, Moment.chars, String.toList_ofList, List.append_assoc, List.cons_append]
    rfl
  have front : (m.date.chars ++ 'T' :: (m.clockChars ++ zoneChars m.offset)).take 10 =
      m.date.chars := List.take_left' length
  have behind : (m.date.chars ++ 'T' :: (m.clockChars ++ zoneChars m.offset)).drop 11 =
      m.clockChars ++ zoneChars m.offset := by
    rw [List.drop_append, length, List.drop_eq_nil_of_le (by omega)]
    rfl
  have time : time? (m.clockChars ++ zoneChars m.offset) =
      some (⟨m.hour, m.minute, m.second, m.microsecond⟩, m.offset.map Moment.restatedOffset) := by
    have fits : Clock.Fits ⟨m.hour, m.minute, m.second, m.microsecond⟩ :=
      ⟨Nat.lt_trans hour (by decide), Nat.lt_trans minute (by decide),
        Nat.lt_trans second (by decide), microsecond⟩
    refine time?_chars fits fun o given => ?_
    rw [given] at offset
    simpa using offset
  have parts : parts? m.iso.toList = some m.restated := by
    rw [chars, parts?, if_neg (by rw [List.length_append, length]; omega),
      dateLength?_chars years (by omega) days]
    simp only [Option.bind_eq_bind, Option.bind_some, front, behind,
      date?_chars years (show m.date.month < 100 by omega) days]
    rw [if_neg (by simp [length]), time]
    rfl
  rw [read, parts]
  change checked m.restated = .ok m.restated
  rw [checked, if_neg (by rw [offset']; decide), Moment.restated]
  dsimp only
  rw [if_neg (by omega), if_neg (by omega), if_neg (by omega), if_neg (by omega),
    if_neg (by omega), if_neg (by omega)]

/-- A moment that an ISO time can tell is read back. -/
theorem read_iso {m : Moment} (told : m.isTold = true) : read m.iso = .ok m := by
  have valid : m.isValid = true := (Bool.and_eq_true_iff.mp told).1
  rw [read_iso_of_isValid valid, Moment.restated_of_isTold told]

/-! ## What has been read -/

/-- However many digits it has, a fraction is less than a second. -/
theorem fraction?_lt {part whole : List Char} {n : Nat} {left : Bool}
    (read : fraction? part whole = some (n, left)) : n < 10 ^ 6 := by
  unfold fraction? at read
  simp only [digits?, Option.bind_eq_bind, Option.bind_eq_some_iff, Prod.exists] at read
  obtain ⟨digits, rest, taken, made⟩ := read
  split at taken
  · rename_i exact
    simp only [Option.some.injEq, Prod.mk.injEq] at taken
    obtain ⟨rfl, -⟩ := taken
    have small := value_lt (part.take (min part.length 6))
    rw [exact.1] at small
    generalize counted : min part.length 6 = count at small made
    generalize value (part.take count) = n' at small made
    have few : count ≤ 6 := by omega
    simp only [pure, Option.some.injEq, Prod.mk.injEq] at made
    rw [← made.1]
    split
    · decide
    · calc
        n' * Nat.pow 10 (6 - count) < 10 ^ count * 10 ^ (6 - count) :=
          Nat.mul_lt_mul_of_pos_right small (Nat.pow_pos (by decide))
        _ = 10 ^ 6 := by rw [← Nat.pow_add, Nat.add_sub_cancel' few]
  · cases taken

theorem finish_lt {hour minute second : Nat} {part whole : List Char} {left : Bool}
    (read : ((fraction? part whole).bind fun found =>
      pure (⟨hour, minute, second, found.1⟩, found.2)) = some (clock, left)) :
    clock.microsecond < 10 ^ 6 := by
  rw [Option.bind_eq_some_iff] at read
  obtain ⟨found, fraction, made⟩ := read
  cases made
  exact fraction?_lt fraction

theorem clock?_lt {size : Nat} {whole : List Char} {left : Bool}
    (read : clock? size whole = some (clock, left)) : clock.microsecond < 10 ^ 6 := by
  unfold clock? at read
  obtain ⟨hour, -, read⟩ := Option.bind_eq_some_iff.mp read
  obtain ⟨afterHour, -, read⟩ := Option.bind_eq_some_iff.mp read
  dsimp only at read
  split at read
  · cases read
    exact Nat.pow_pos (by decide)
  split at read
  · exact finish_lt read
  obtain ⟨minute, -, read⟩ := Option.bind_eq_some_iff.mp read
  obtain ⟨afterMinute, -, read⟩ := Option.bind_eq_some_iff.mp read
  split at read
  · cases read
    exact Nat.pow_pos (by decide)
  split at read
  · exact finish_lt read
  obtain ⟨second, -, read⟩ := Option.bind_eq_some_iff.mp read
  obtain ⟨afterSecond, -, read⟩ := Option.bind_eq_some_iff.mp read
  split at read
  · cases read
    exact Nat.pow_pos (by decide)
  · exact finish_lt read

/-- What is read behind a date is less than a second in its fraction, and never an offset of less
than a second. -/
theorem time?_told {text : List Char} {offset : Option Int}
    (read : time? text = some (clock, offset)) :
    clock.microsecond < 10 ^ 6 ∧
      ∀ o ∈ offset, o = 0 ∨ Moment.microsecondsPerSecond ≤ o.natAbs := by
  unfold time? at read
  simp only [Option.bind_eq_bind, Option.bind_eq_some_iff, Prod.exists] at read
  obtain ⟨told, left, exact, read⟩ := read
  have small := clock?_lt exact
  split at read
  · split at read
    · cases read
    · cases read
      exact ⟨small, by simp⟩
  · split at read
    · cases read
      exact ⟨small, by simp⟩
    · cases read
  · rw [Option.bind_eq_some_iff] at read
    obtain ⟨⟨zone, left⟩, -, read⟩ := read
    split at read
    · cases read
    · simp only [Option.some.injEq, Prod.mk.injEq] at read
      obtain ⟨rfl, rfl⟩ := read
      refine ⟨small, fun o given => ?_⟩
      rw [Option.mem_some_iff] at given
      simp only [Moment.microsecondsPerSecond] at given ⊢
      generalize zone.hour * 3600 + zone.minute * 60 + zone.second = seconds at given
      split at given <;> omega

theorem parts?_told {text : List Char} {m : Moment} (found : parts? text = some m) :
    m.microsecond < 10 ^ 6 ∧ ∀ o ∈ m.offset, o = 0 ∨ Moment.microsecondsPerSecond ≤ o.natAbs := by
  unfold parts? at found
  split at found
  · cases found
  · simp only [Option.bind_eq_bind, Option.bind_eq_some_iff] at found
    obtain ⟨length, -, date, -, found⟩ := found
    split at found
    · cases found
      exact ⟨Nat.pow_pos (by decide), fun o given => by cases given⟩
    · simp only [Option.bind_eq_some_iff] at found
      obtain ⟨⟨clock, offset⟩, time, made⟩ := found
      cases made
      exact time?_told time

/-- The checks leave a moment as it is, and leave none of its parts but the fraction unchecked. -/
theorem isValid_of_checked {m m' : Moment} (passed : checked m = .ok m')
    (small : m.microsecond < 10 ^ 6) : m' = m ∧ m.isValid = true := by
  unfold checked at passed
  split_ifs at passed with offset year month day hour minute second
  cases passed
  refine ⟨rfl, ?_⟩
  simp only [Bool.not_eq_true', Bool.not_eq_false] at offset
  simp only [Moment.isValid, Date.isValid, Bool.and_eq_true, decide_eq_true_eq, offset, and_true]
  exact ⟨⟨⟨⟨⟨⟨⟨⟨⟨by omega, by omega⟩, by omega⟩, by omega⟩, by omega⟩, by omega⟩, by omega⟩,
    by omega⟩, by omega⟩, small⟩

/-- What has been read can be told. -/
theorem isTold_of_read {source : String} {m : Moment} (found : read source = .ok m) :
    m.isTold = true := by
  unfold read at found
  split at found
  · cases found
  · rename_i parts
    obtain ⟨small, lasting⟩ := parts?_told parts
    obtain ⟨rfl, valid⟩ := isValid_of_checked found small
    rw [Moment.isTold, valid, Bool.true_and]
    cases offset : m.offset with
    | none => rfl
    | some o => simpa using lasting o offset

end Iso

end Stepwise
