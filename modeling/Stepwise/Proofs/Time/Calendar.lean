import Stepwise.Time.Moment

/-!
# The calendar counts back

The date of an ordinal has that ordinal, and the moment of a count on the local clock has that
count. So a moment that is moved by a span names the instant which lies that span away.
-/

namespace Stepwise

namespace Calendar

theorem daysInMonth_le (year month : Nat) : daysInMonth year month ≤ 31 := by
  unfold daysInMonth
  split
  · split <;> decide
  all_goals decide

theorem daysBeforeMonth_le (year month : Nat) :
    daysBeforeMonth year month ≤ 31 * (month - 1) := by
  unfold daysBeforeMonth
  generalize month - 1 = count
  induction count with
  | zero => simp
  | succ count inductionHypothesis =>
    have next := daysInMonth_le year (count + 1)
    rw [List.range_succ, List.foldl_append]
    simp only [List.foldl_cons, List.foldl_nil]
    omega

/-- A month has the days of the months before it and its own ones behind it. -/
theorem daysBeforeMonth_succ {year month : Nat} (positive : 0 < month) :
    daysBeforeMonth year (month + 1) = daysBeforeMonth year month + daysInMonth year month := by
  obtain ⟨before, rfl⟩ : ∃ before, month = before + 1 := ⟨month - 1, by omega⟩
  simp only [daysBeforeMonth, Nat.add_sub_cancel, List.range_succ, List.foldl_append,
    List.foldl_cons, List.foldl_nil]

/-- Going on from a month does not lose a day, however many months are gone through. -/
theorem daysBeforeMonth_monthOfDay (year fuel : Nat) {month : Nat} (rest : Nat)
    (positive : 0 < month) :
    daysBeforeMonth year (monthOfDay year fuel month rest).1 +
      (monthOfDay year fuel month rest).2 = daysBeforeMonth year month + rest + 1 := by
  induction fuel generalizing month rest with
  | zero => rw [monthOfDay, Nat.add_assoc]
  | succ fuel inductionHypothesis =>
    rw [monthOfDay]
    by_cases within : rest < daysInMonth year month
    · rw [if_pos within, Nat.add_assoc]
    · rw [if_neg within, inductionHypothesis _ (Nat.succ_pos month), daysBeforeMonth_succ positive]
      omega

/-- A year lies behind whole cycles of 400, 100 and 4 years, of which each has its leap days. -/
theorem daysBeforeYear_of_cycles {cycles centuries quadrennia years : Nat} (h : centuries ≤ 3)
    (q : quadrennia ≤ 24) (y : years ≤ 3) :
    daysBeforeYear (cycles * 400 + centuries * 100 + quadrennia * 4 + years + 1) =
      cycles * 146097 + centuries * 36524 + quadrennia * 1461 + years * 365 := by
  have fourth : (cycles * 400 + centuries * 100 + quadrennia * 4 + years) / 4 =
      cycles * 100 + centuries * 25 + quadrennia := by omega
  have hundredth : (cycles * 400 + centuries * 100 + quadrennia * 4 + years) / 100 =
      cycles * 4 + centuries := by omega
  have whole : (cycles * 400 + centuries * 100 + quadrennia * 4 + years) / 400 = cycles := by omega
  rw [daysBeforeYear, Nat.add_sub_cancel, fourth, hundredth, whole]
  omega

end Calendar

open Calendar

/-- The date of an ordinal has it. -/
theorem Date.ordinal_ofOrdinal {ordinal : Nat} (positive : 0 < ordinal) :
    (ofOrdinal ordinal).ordinal = ordinal := by
  unfold ofOrdinal Date.ordinal
  dsimp only
  generalize cycled : (ordinal - 1) / 146097 = cycles
  generalize inCycle : (ordinal - 1) % 146097 = rest
  generalize hundreds : min (rest / 36524) 3 = centuries
  generalize fours : (rest - centuries * 36524) / 1461 = quadrennia
  generalize inFour : (rest - centuries * 36524) % 1461 = days
  generalize ones : min (days / 365) 3 = years
  have cut : rest < 146097 := inCycle ▸ Nat.mod_lt _ (by decide)
  rw [daysBeforeYear_of_cycles (by omega) (by omega) (by omega), Nat.add_assoc,
    daysBeforeMonth_monthOfDay _ _ _ (by decide)]
  have first (year : Nat) : daysBeforeMonth year 1 = 0 := rfl
  rw [first]
  omega

namespace Moment

variable {m moved : Moment} {count span : Int} {offset : Option Int}

/-- The moment of a count on the local clock has it. -/
theorem localCount_ofLocalCount (found : ofLocalCount? count offset = some moved) :
    (moved.localCount : Int) = count ∧ moved.offset = offset := by
  unfold ofLocalCount? at found
  split at found
  · cases found
  · rename_i late
    dsimp only at found
    split at found
    · cases found
    · cases found
      have day : 0 < count.toNat / microsecondsPerDay := by
        unfold microsecondsPerDay at late ⊢
        omega
      refine ⟨?_, rfl⟩
      rw [localCount, Date.ordinal_ofOrdinal day]
      dsimp only
      unfold microsecondsPerDay microsecondsPerSecond at *
      omega

/-- A moment that is moved by a span names the instant that lies so far away. -/
theorem instant_later (found : m.later? span = some moved) :
    moved.instant = m.instant + span ∧ moved.offset = m.offset := by
  obtain ⟨counted, same⟩ := localCount_ofLocalCount found
  rw [instant, instant, counted, same]
  exact ⟨by omega, rfl⟩

end Moment

end Stepwise
