import Mathlib.Data.List.Nodup
import Stepwise.Proofs.Effect
import Stepwise.Proofs.Execution.Document
import Stepwise.Proofs.Time.Calendar
import Stepwise.Store.Order

/-!
# The order of start times

Between 1970 and 2200 the seconds since 1970 are below `2 ^ 33`, where floating-point numbers lie
closer together than microseconds do. So two start times of that age are told apart by their sort
keys, and records with different start times have one order, whichever order they come in.
-/

namespace Stepwise

namespace Binary64

/-- A count of microseconds as seconds in floating point. -/
def ofMicroseconds (count : Int) : Binary64 :=
  ofRatio (decide (count < 0)) count.natAbs Moment.microsecondsPerSecond

variable {count other : Int}

/-- Less than `2 ^ 33` seconds are told to a half of a millionth part. -/
theorem ofMicroseconds_error (small : count.natAbs < 2 ^ 33 * 1000000) :
    ∃ s m e, ofMicroseconds count = .finite s m e ∧
      |(count : ℚ) / 1000000 - signed s (m * 2 ^ e)| ≤ 1 / 2 ^ 21 := by
  obtain ⟨m, e, made, near⟩ := ofRatio_error (decide (count < 0)) count.natAbs
    (show 0 < Moment.microsecondsPerSecond by decide) (show leastExponent ≤ -20 by decide)
    (by decide) (by
      have small' : (count.natAbs : ℚ) < 2 ^ 33 * 1000000 := by exact_mod_cast small
      rw [div_lt_iff₀ (by norm_num [Moment.microsecondsPerSecond])]
      norm_num [Moment.microsecondsPerSecond] at small' ⊢
      linarith)
  refine ⟨_, m, e, made, ?_⟩
  have unit : (Moment.microsecondsPerSecond : ℚ) = 1000000 := by
    norm_num [Moment.microsecondsPerSecond]
  have half : (2 : ℚ) ^ (-20 : Int) / 2 = 1 / 2 ^ 21 := by norm_num
  rw [unit, half] at near
  rcases lt_or_ge count 0 with early | late
  · have size : (count.natAbs : ℚ) = -count := by
      rw [Nat.cast_natAbs, abs_of_neg early, Int.cast_neg]
    rw [size, neg_div, sub_eq_add_neg] at near
    rw [decide_eq_true early, signed, if_pos rfl, sub_neg_eq_add, ← abs_neg, neg_add]
    exact near
  · have size : (count.natAbs : ℚ) = count := by rw [Nat.cast_natAbs, abs_of_nonneg late]
    rw [size] at near
    rw [decide_eq_false (not_lt.mpr late)]
    exact near

/-- Counts of microseconds below `2 ^ 33` seconds keep their order as seconds in floating point. -/
theorem less_ofMicroseconds (small : count.natAbs < 2 ^ 33 * 1000000)
    (small' : other.natAbs < 2 ^ 33 * 1000000) :
    (ofMicroseconds count).less (ofMicroseconds other) = decide (count < other) := by
  obtain ⟨s, m, e, made, near⟩ := ofMicroseconds_error small
  obtain ⟨s', m', e', made', near'⟩ := ofMicroseconds_error small'
  rw [made, made', less_finite, decide_eq_decide]
  obtain ⟨low, high⟩ := abs_le.mp near
  obtain ⟨low', high'⟩ := abs_le.mp near'
  rcases lt_trichotomy count other with before | same | after
  · have before' : (count : ℚ) + 1 ≤ other := by exact_mod_cast before
    refine iff_of_true ?_ before
    norm_num at low high low' high'
    linarith
  · subst same
    rw [made] at made'
    cases made'
    simp
  · have after' : (other : ℚ) + 1 ≤ count := by exact_mod_cast after
    refine iff_of_false ?_ (not_lt.mpr after.le)
    norm_num at low high low' high'
    linarith

end Binary64

namespace Moment

/-- A moment with an offset, not before 1969 nor after 2201. So it does not matter to the moments from
1970 to 2200 in which zone their years are told. -/
def isRecent (m : Moment) : Bool :=
  m.isValid && m.isZoned && 1969 ≤ m.date.year && m.date.year ≤ 2201

/-- A moment in universal time from 1970 to 2200. -/
def isContemporary (m : Moment) : Bool :=
  m.isUniversal && 1970 ≤ m.date.year && m.date.year ≤ 2200

variable {m m' : Moment}

theorem isRecent_of_isContemporary (contemporary : m.isContemporary = true) :
    m.isRecent = true := by
  simp only [isContemporary, isUniversal, Bool.and_eq_true, decide_eq_true_eq] at contemporary
  obtain ⟨⟨⟨valid, universal⟩, low⟩, high⟩ := contemporary
  simp only [isRecent, isZoned, Bool.and_eq_true, decide_eq_true_eq]
  exact ⟨⟨⟨valid, universal ▸ rfl⟩, by omega⟩, by omega⟩

/-- What an ISO time tells of such a moment is such a moment. -/
theorem isRecent_restated (recent : m.isRecent = true) : m.restated.isRecent = true := by
  simp only [isRecent, Bool.and_eq_true] at recent ⊢
  obtain ⟨⟨⟨valid, zoned⟩, low⟩, high⟩ := recent
  refine ⟨⟨⟨isValid_restated valid, ?_⟩, low⟩, high⟩
  rw [isZoned, restated, Option.isSome_map]
  exact zoned

theorem all_isRecent {time : Option Moment} (contemporary : time.all isContemporary = true) :
    time.all isRecent = true := by
  cases time with
  | none => rfl
  | some m => exact isRecent_of_isContemporary contemporary

/-- Such a moment is less than `2 ^ 33` seconds from the start of 1970. -/
theorem instant_bounds (recent : m.isRecent = true) :
    (m.instant - epochCount).natAbs < 2 ^ 33 * 1000000 := by
  simp only [isRecent, isValid, Date.isValid, Bool.and_eq_true, decide_eq_true_eq] at recent
  obtain ⟨⟨⟨⟨⟨⟨⟨⟨⟨⟨⟨⟨⟨-, -⟩, month⟩, month'⟩, day⟩, day'⟩, hour⟩, minute⟩, second⟩, microsecond⟩,
    offset⟩, -⟩, low⟩, high⟩ := recent
  have months := Calendar.daysBeforeMonth_le m.date.year m.date.month
  have days := Calendar.daysInMonth_le m.date.year m.date.month
  have years : 718796 ≤ Calendar.daysBeforeYear m.date.year ∧
      Calendar.daysBeforeYear m.date.year ≤ 803700 := by
    unfold Calendar.daysBeforeYear
    dsimp only
    generalize past : m.date.year - 1 = years
    have fourth : 492 ≤ years / 4 ∧ years / 4 ≤ 550 := by omega
    have hundredth : years / 100 ≤ 19 + (years - 1968) := by omega
    have cycle : 4 ≤ years / 400 ∧ years / 400 ≤ 5 := by omega
    generalize years / 4 = fours at fourth ⊢
    generalize years / 100 = centuries at hundredth ⊢
    generalize years / 400 = cycles at cycle ⊢
    omega
  have zone : (m.offset.getD 0).natAbs < 86400000000 := by
    cases given : m.offset with
    | none => decide
    | some o =>
      rw [given, Option.all_some, decide_eq_true_eq] at offset
      exact offset
  unfold instant localCount epochCount Date.ordinal
  generalize m.offset.getD 0 = o at zone ⊢
  unfold microsecondsPerSecond at *
  unfold microsecondsPerDay
  omega

/-- The sort key of such a moment. -/
def stamp (m : Moment) : Binary64 := .ofMicroseconds (m.instant - epochCount)

theorem timestamp_eq (recent : m.isRecent = true) : m.timestamp = .ok m.stamp := by
  simp only [isRecent, isZoned, Bool.and_eq_true] at recent
  obtain ⟨o, given⟩ := Option.isSome_iff_exists.mp recent.1.1.2
  rw [timestamp, given]
  rfl

/-- Sort keys are ordered as the moments are. -/
theorem less_stamp (recent : m.isRecent = true) (recent' : m'.isRecent = true) :
    m.stamp.less m'.stamp = decide (m.instant < m'.instant) := by
  rw [stamp, stamp, Binary64.less_ofMicroseconds (instant_bounds recent) (instant_bounds recent'),
    decide_eq_decide]
  omega

/-- A missing start time comes before all others. -/
theorem infinity_less_stamp (recent : m.isRecent = true) :
    (Binary64.infinity true).less m.stamp = true ∧
      m.stamp.less (Binary64.infinity true) = false := by
  obtain ⟨s, mantissa, exponent, made, -⟩ := Binary64.ofMicroseconds_error (instant_bounds recent)
  rw [stamp, made]
  exact ⟨rfl, rfl⟩

end Moment

namespace Execution

/-- What listings go by: the instant at which a record started. -/
def start (execution : Execution) : Option Int := execution.startedAt.map Moment.instant

/-- One record started no earlier than another. A missing start time is earlier than any. -/
def isAfter (execution other : Execution) : Bool :=
  match execution.start, other.start with
  | _, none => true
  | none, some _ => false
  | some instant, some earlier => earlier ≤ instant

theorem isAfter_iff {execution other : Execution} : execution.isAfter other = true ↔
    ∀ earlier, other.start = some earlier →
      ∃ instant, execution.start = some instant ∧ earlier ≤ instant := by
  unfold isAfter
  cases other.start with
  | none => exact ⟨fun _ => nofun, fun _ => rfl⟩
  | some earlier => cases execution.start <;> simp

theorem isAfter_of_start {execution other : Execution} (same : execution.start = other.start) :
    execution.isAfter other = true := by
  rw [isAfter_iff, same]
  exact fun earlier started => ⟨earlier, started, Int.le_refl earlier⟩

theorem isAfter_trans (a b c : Execution) (first : a.isAfter b = true)
    (second : b.isAfter c = true) : a.isAfter c = true := by
  rw [isAfter_iff] at first second ⊢
  intro earliest started
  obtain ⟨earlier, started', before⟩ := second earliest started
  obtain ⟨instant, started'', before'⟩ := first earlier started'
  exact ⟨instant, started'', Int.le_trans before before'⟩

theorem isAfter_total (a b : Execution) : (a.isAfter b || b.isAfter a) = true := by
  unfold isAfter
  cases a.start with
  | none => cases b.start <;> rfl
  | some instant =>
    cases b.start with
    | none => rfl
    | some other =>
      rw [Bool.or_eq_true, decide_eq_true_eq, decide_eq_true_eq]
      exact Int.le_total other instant

theorem start_eq_of_isAfter {execution other : Execution} (after : execution.isAfter other = true)
    (before : other.isAfter execution = true) : execution.start = other.start := by
  rw [isAfter_iff] at after before
  cases started : execution.start with
  | none =>
    cases started' : other.start with
    | none => rfl
    | some earlier =>
      obtain ⟨instant, same, -⟩ := after earlier started'
      rw [started] at same
      cases same
  | some instant =>
    obtain ⟨earlier, started', less⟩ := before instant started
    obtain ⟨instant', same, less'⟩ := after earlier started'
    obtain rfl := Option.some.inj (started.symm.trans same)
    rw [started', Int.le_antisymm less less']

end Execution

namespace Listing

/-- The sort key of a record with a recent start time. -/
def stamp (execution : Execution) : Binary64 :=
  (execution.startedAt.map Moment.stamp).getD (.infinity true)

variable {execution other : Execution}

theorem key_eq (recent : execution.startedAt.all Moment.isRecent = true) :
    key execution = .ok (stamp execution) := by
  unfold key stamp
  cases started : execution.startedAt with
  | none => rfl
  | some m =>
    rw [started] at recent
    exact Moment.timestamp_eq recent

theorem less_stamp (recent : execution.startedAt.all Moment.isRecent = true)
    (recent' : other.startedAt.all Moment.isRecent = true) :
    (stamp execution).less (stamp other) = !execution.isAfter other := by
  unfold stamp Execution.isAfter Execution.start
  cases started : execution.startedAt with
  | none =>
    cases started' : other.startedAt with
    | none => rfl
    | some m' =>
      rw [started'] at recent'
      exact (Moment.infinity_less_stamp recent').1
  | some m =>
    rw [started] at recent
    cases started' : other.startedAt with
    | none => exact (Moment.infinity_less_stamp recent).2
    | some m' =>
      rw [started'] at recent'
      change m.stamp.less m'.stamp = !decide (m'.instant ≤ m.instant)
      rw [Moment.less_stamp recent recent', ← decide_not, decide_eq_decide, Int.not_le]

/-- Records with recent start times are sorted by the instants at which they started. -/
theorem sorted_eq {executions : List Execution}
    (recent : ∀ execution ∈ executions, execution.startedAt.all Moment.isRecent = true) :
    sorted executions = .ok (executions.mergeSort Execution.isAfter) := by
  have keyed : (executions.mapM fun execution => do
      let k ← key execution
      return (k, execution)) = .ok (executions.map fun execution => (stamp execution, execution)) := by
    induction executions with
    | nil => rfl
    | cons execution rest inductionHypothesis =>
      rw [List.mapM_cons, key_eq (recent execution List.mem_cons_self),
        inductionHypothesis fun other member => recent other (List.mem_cons_of_mem _ member)]
      rfl
  have sorted' : ((executions.map fun execution => (stamp execution, execution)).mergeSort
      fun a b => !a.1.less b.1).map Prod.snd =
      ((executions.map fun execution => (stamp execution, execution)).map Prod.snd).mergeSort
        Execution.isAfter := by
    refine List.map_mergeSort fun a member b member' => ?_
    obtain ⟨first, listed, rfl⟩ := List.mem_map.mp member
    obtain ⟨second, listed', rfl⟩ := List.mem_map.mp member'
    rw [less_stamp (recent first listed) (recent second listed'), Bool.not_not]
  have whole : (executions.map fun execution => (stamp execution, execution)).map Prod.snd =
      executions := by
    rw [List.map_map]
    exact List.map_id' executions
  rw [sorted, keyed]
  simp only [bind, Except.bind, pure, Except.pure, sorted', whole]

/-- All records have different start times, and at most one of them has none. -/
def StartApart (executions : List Execution) : Prop :=
  (executions.map fun execution => execution.startedAt.map Moment.instant).Nodup

instance (executions : List Execution) : Decidable (StartApart executions) :=
  inferInstanceAs (Decidable (List.Nodup _))

theorem StartApart.of_perm {executions others : List Execution} (apart : StartApart executions)
    (same : executions.Perm others) : StartApart others :=
  (same.map _).nodup_iff.mp apart

theorem StartApart.filter {executions : List Execution} (apart : StartApart executions)
    (keep : Execution → Bool) : StartApart (executions.filter keep) :=
  List.Nodup.sublist (List.filter_sublist.map _) apart

/-- Records that started at different instants have one order. -/
theorem mergeSort_of_perm {executions others : List Execution} (same : executions.Perm others)
    (apart : StartApart executions) :
    executions.mergeSort Execution.isAfter = others.mergeSort Execution.isAfter := by
  have arranged := (List.mergeSort_perm executions Execution.isAfter).trans
    (same.trans (List.mergeSort_perm others Execution.isAfter).symm)
  refine List.Perm.eq_of_pairwise ?_
    (List.pairwise_mergeSort Execution.isAfter_trans Execution.isAfter_total executions)
    (List.pairwise_mergeSort Execution.isAfter_trans Execution.isAfter_total others) arranged
  intro a b member member' after before
  have listed : a ∈ executions := List.mem_mergeSort.mp member
  have listed' : b ∈ executions := same.mem_iff.mpr (List.mem_mergeSort.mp member')
  exact List.inj_on_of_nodup_map apart listed listed' (Execution.start_eq_of_isAfter after before)

/-- So a listing of them does not depend on the order in which they come. -/
theorem newest_of_perm {executions others : List Execution} (same : executions.Perm others)
    (contemporary : ∀ execution ∈ executions,
      execution.startedAt.all Moment.isContemporary = true)
    (apart : StartApart executions) (limit : Value) :
    newest executions limit = newest others limit := by
  have recent := fun execution member => Moment.all_isRecent (contemporary execution member)
  rw [newest, newest, sorted_eq recent,
    sorted_eq fun execution member => recent execution (same.mem_iff.mpr member),
    mergeSort_of_perm same apart]

/-- A listing gives records that it was made from. -/
theorem mem_of_newest {executions found : List Execution} {limit : Value}
    (contemporary : ∀ execution ∈ executions,
      execution.startedAt.all Moment.isContemporary = true)
    (listed : newest executions limit = .ok found) (member : execution ∈ found) :
    execution ∈ executions := by
  rw [newest, sorted_eq fun execution member =>
    Moment.all_isRecent (contemporary execution member)] at listed
  obtain ⟨ordered, arranged, rest⟩ := Result.bind_ok listed
  obtain rfl := Except.ok.inj arranged
  obtain ⟨count, -, rest⟩ := Result.bind_ok rest
  obtain rfl := Except.ok.inj rest
  exact List.mem_mergeSort.mp (List.mem_of_mem_take member)

end Listing

end Stepwise
