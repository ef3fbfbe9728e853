import Tablewright.Proofs.Calendar.Days
import Tablewright.Proofs.Tracker.LatestCompletions

/-!
# Due dates

A task with an interval is due on the days that lie a multiple of the interval away from its first
day, behind it as well as before it (`IsDue`). The next due date is the earliest of them after
today, if it is represented (`nextDate_earliest`). It is not before the first day if and only if
that day lies at most one interval ahead (`start_le_nextDate_iff`). There is no answer if the
due day lies too many days ahead for a duration (`nextDate_returns_iff`).
-/

namespace Tablewright.Tracker

open Sql Database Session

variable {start today d : Date} {interval : Int}

/-! ## Due days -/

/-- A day is due if it lies a multiple of the interval behind the first day or before it. -/
def IsDue (start : Date) (interval : Int) (d : Date) : Prop :=
  ∃ k : Nat, interval ∣ k ∧ (Date.next^[k] start = d ∨ Date.next^[k] d = start)

/-- The next due day is the earliest one after today. -/
structure IsNextDue (start today : Date) (interval : Int) (d : Date) : Prop where
  isDay : d.IsDay
  later : Date.order today d = .lt
  due : IsDue start interval d
  earliest : ∀ e : Date, e.IsDay → Date.order today e = .lt → IsDue start interval e →
    (Date.order d e).isLE

theorem isDue_iff (hstart : start.IsDay) (hd : d.IsDay) :
    IsDue start interval d ↔ interval ∣ d.dayNumber - start.dayNumber := by
  have hforth : ∀ k : Nat, Date.next^[k] start = d ↔ d.dayNumber = start.dayNumber + k := fun _ =>
    Date.iterate_next_eq_iff hstart hd
  have hback : ∀ k : Nat, Date.next^[k] d = start ↔ start.dayNumber = d.dayNumber + k := fun _ =>
    Date.iterate_next_eq_iff hd hstart
  simp only [IsDue, hforth, hback]
  constructor
  · rintro ⟨k, hk, h | h⟩
    · rwa [show d.dayNumber - start.dayNumber = k by omega]
    · rwa [show d.dayNumber - start.dayNumber = -k by omega, Int.dvd_neg]
  · intro h
    exact ⟨(d.dayNumber - start.dayNumber).natAbs, Int.dvd_natAbs.2 h, by omega⟩

namespace Task

/-! ## The days to the next due date -/

theorem daysToNext_pos (h : 0 < interval) : 0 < daysToNext start today interval := by
  have := Int.emod_lt_of_pos (today.dayNumber - start.dayNumber) h
  unfold daysToNext
  omega

theorem daysToNext_le (h : 0 < interval) : daysToNext start today interval ≤ interval := by
  have := Int.emod_nonneg (today.dayNumber - start.dayNumber) (Int.ne_of_gt h)
  unfold daysToNext
  omega

/-- The next due day comes an interval after the last one up to today. -/
theorem add_daysToNext_sub : today.dayNumber + daysToNext start today interval - start.dayNumber =
    interval * ((today.dayNumber - start.dayNumber) / interval + 1) := by
  rw [daysToNext, Int.emod_def, Int.mul_add, Int.mul_one]
  omega

/-- No due day comes before. -/
theorem daysToNext_least (h : 0 < interval) {k : Int} (hk : 0 < k)
    (hdvd : interval ∣ today.dayNumber + k - start.dayNumber) :
    daysToNext start today interval ≤ k := by
  have hle : daysToNext start today interval ≤ interval := daysToNext_le h
  have hdue : interval ∣ today.dayNumber + daysToNext start today interval - start.dayNumber :=
    ⟨_, add_daysToNext_sub⟩
  have hdiff : interval ∣ daysToNext start today interval - k := by
    have := Int.dvd_sub hdue hdvd
    rwa [sub_sub_sub_cancel_right, add_sub_add_left_eq_sub] at this
  -- the difference is less than the interval, so it is not positive
  by_contra hlt
  have := Int.le_of_dvd (by omega) hdiff
  omega

/-- The next due day. -/
def dueDay (start today : Date) (interval : Int) : Date :=
  Date.ofDayNumber (today.dayNumber + daysToNext start today interval)

theorem dayNumber_dueDay :
    (dueDay start today interval).dayNumber = today.dayNumber + daysToNext start today interval :=
  Date.dayNumber_ofDayNumber _

theorem isDay_dueDay : (dueDay start today interval).IsDay :=
  Date.isDay_ofDayNumber _

theorem isNextDue_dueDay (hstart : start.IsDay) (htoday : today.IsDay) (h : 0 < interval) :
    IsNextDue start today interval (dueDay start today interval) where
  isDay := isDay_dueDay
  later := by
    have hpos : 0 < daysToNext start today interval := daysToNext_pos h
    rw [Date.order_eq_compare htoday isDay_dueDay, dayNumber_dueDay, Int.compare_eq_lt]
    omega
  due := by
    rw [isDue_iff hstart isDay_dueDay, dayNumber_dueDay]
    exact ⟨_, add_daysToNext_sub⟩
  earliest := by
    intro e he hlater hdue
    rw [Date.order_eq_compare htoday he, Int.compare_eq_lt] at hlater
    rw [isDue_iff hstart he] at hdue
    have hleast : daysToNext start today interval ≤ e.dayNumber - today.dayNumber := by
      refine daysToNext_least h (by omega) ?_
      rwa [show today.dayNumber + (e.dayNumber - today.dayNumber) = e.dayNumber by omega]
    rw [Date.order_eq_compare isDay_dueDay he, dayNumber_dueDay, Int.isLE_compare]
    omega

/-- The due day is reached from today after the days to it. -/
theorem iterate_next_dueDay (htoday : today.IsDay) (h : 0 < interval) :
    Date.next^[(daysToNext start today interval).toNat] today = dueDay start today interval := by
  have hpos : 0 < daysToNext start today interval := daysToNext_pos h
  rw [Date.iterate_next_eq_iff htoday isDay_dueDay, dayNumber_dueDay]
  omega

/-- The first day is the next due day if it lies ahead, by at most an interval. -/
theorem daysToNext_of_ahead (hahead : today.dayNumber < start.dayNumber)
    (hle : start.dayNumber - today.dayNumber ≤ interval) :
    daysToNext start today interval = start.dayNumber - today.dayNumber := by
  have helapsed : (today.dayNumber - start.dayNumber) % interval =
      today.dayNumber - start.dayNumber + interval := by
    rw [← Int.add_emod_right, Int.emod_eq_of_lt (by omega) (by omega)]
  rw [daysToNext, helapsed]
  omega

/-- The next due day comes before the first one if that day lies more than an interval ahead. -/
theorem le_add_daysToNext_iff (h : 0 < interval) :
    start.dayNumber ≤ today.dayNumber + daysToNext start today interval ↔
      start.dayNumber - today.dayNumber ≤ interval := by
  have hpos : 0 < daysToNext start today interval := daysToNext_pos h
  have hmost : daysToNext start today interval ≤ interval := daysToNext_le h
  constructor
  · intro hle
    omega
  · intro hle
    by_cases hahead : today.dayNumber < start.dayNumber
    · rw [daysToNext_of_ahead hahead hle]
      omega
    · omega

/-- An interval above all durations is longer than the time between any two dates, so that the next
due day is the first day or the one after it. -/
theorem daysToNext_le_greatestDuration_iff (hstart : start.IsValid) (htoday : today.IsValid)
    (h : 0 < interval) : daysToNext start today interval ≤ greatestDuration ↔
      ∀ k : Nat, Date.next^[k] start = today → interval ≤ k + greatestDuration := by
  have hstart' := hstart.dayNumber_bounds
  have htoday' := htoday.dayNumber_bounds
  simp only [Date.iterate_next_eq_iff hstart.isDay htoday.isDay]
  by_cases hshort : interval ≤ greatestDuration
  · exact ⟨fun _ k _ => by omega, fun _ => Int.le_trans (daysToNext_le h) hshort⟩
  unfold greatestDuration at *
  by_cases hahead : today.dayNumber < start.dayNumber
  · rw [daysToNext_of_ahead hahead (by omega)]
    exact ⟨fun _ k hk => by omega, fun _ => by omega⟩
  · obtain ⟨k, hk⟩ := Int.le.dest (Int.not_lt.1 hahead)
    have helapsed : (today.dayNumber - start.dayNumber) % interval = k := by
      rw [Int.emod_eq_of_lt (by omega) (by omega)]
      omega
    rw [daysToNext, helapsed]
    constructor
    · intro hle k' hk'
      omega
    · intro hle
      have := hle k (by omega)
      omega

/-! ## Calculating in 64 bits -/

/-- The number of milliseconds of a day. -/
def millisecondsPerDay : Int :=
  86400000

/-- A number if it fits into 64 bits. -/
def word? (n : Int) : Option Int :=
  if fits n then some n else none

/-- The time to the next due date in milliseconds, as it is calculated in 64 bits: the time since
the first day and the time to the next due date are durations, counted in milliseconds. None if a
number on the way does not fit. -/
def durationToNext? (start today : Date) (interval : Int) : Option Int := do
  let elapsed ← word? ((today.dayNumber - start.dayNumber) * millisecondsPerDay)
  let remainder ← word? (elapsed.tdiv millisecondsPerDay % interval)
  let days ← word? (interval - remainder)
  word? (days * millisecondsPerDay)

theorem word?_eq_some {n : Int} (hmin : -9223372036854775808 ≤ n) (hmax : n ≤ 9223372036854775807) :
    word? n = some n := by
  simp [word?, fits, minInteger, maxInteger, hmin, hmax]

/-- The greatest duration is the last one whose milliseconds fit. -/
theorem word?_milliseconds {days : Int} (h : 0 ≤ days) : word? (days * millisecondsPerDay) =
    if days ≤ greatestDuration then some (days * millisecondsPerDay) else none := by
  have hfits : fits (days * millisecondsPerDay) = true ↔ days ≤ greatestDuration := by
    rw [fits, Bool.and_eq_true, decide_eq_true_eq, decide_eq_true_eq]
    unfold minInteger maxInteger millisecondsPerDay greatestDuration
    omega
  rw [word?, if_congr hfits rfl rfl]

/-- Only the last step can fail. -/
theorem durationToNext?_eq (hstart : start.IsValid) (htoday : today.IsValid) (h : 0 < interval)
    (hfits : interval ≤ maxInteger) :
    durationToNext? start today interval =
      if daysToNext start today interval ≤ greatestDuration then
        some (daysToNext start today interval * millisecondsPerDay)
      else none := by
  have hstart' := hstart.dayNumber_bounds
  have htoday' := htoday.dayNumber_bounds
  have hremainder := Int.emod_nonneg (today.dayNumber - start.dayNumber) (Int.ne_of_gt h)
  have hpos : 0 < daysToNext start today interval := daysToNext_pos h
  unfold maxInteger at hfits
  rw [← word?_milliseconds (Int.le_of_lt hpos)]
  unfold daysToNext at *
  have helapsed : word? ((today.dayNumber - start.dayNumber) * millisecondsPerDay) =
      some ((today.dayNumber - start.dayNumber) * millisecondsPerDay) := by
    unfold millisecondsPerDay
    exact word?_eq_some (by omega) (by omega)
  have hdays : ((today.dayNumber - start.dayNumber) * millisecondsPerDay).tdiv millisecondsPerDay =
      today.dayNumber - start.dayNumber :=
    Int.mul_tdiv_cancel _ (by decide)
  simp only [durationToNext?, helapsed, hdays, Option.bind_eq_bind, Option.bind_some]
  rw [word?_eq_some (by omega) (by omega), Option.bind_some,
    word?_eq_some (by omega) (by omega), Option.bind_some]

/-! ## Due dates -/

/-- A task without an interval is done once. -/
theorem nextDate_of_not_pos {t : Task} (now : Timestamp) (h : ∀ n ∈ t.intervalDay, n ≤ 0) :
    t.nextDate now = .ok none := by
  unfold nextDate
  split
  case h_1 => rfl
  case h_2 n hn => rw [if_pos (h n hn)]

theorem nextDate_of_pos {t : Task} (now : Timestamp) (hinterval : t.intervalDay = some interval)
    (h : 0 < interval) :
    t.nextDate now =
      if daysToNext t.startAt.date now.date interval ≤ greatestDuration then
        .ok (if (dueDay t.startAt.date now.date interval).isRepresented then
          some (dueDay t.startAt.date now.date interval) else none)
      else .error ⟨daysToNext t.startAt.date now.date interval⟩ := by
  simp only [nextDate, hinterval, if_neg (Int.not_le.2 h)]
  rfl

theorem eq_dueDay_of_nextDate {t : Task} {now : Timestamp}
    (hinterval : t.intervalDay = some interval) (h : 0 < interval)
    (hdue : t.nextDate now = .ok (some d)) : d = dueDay t.startAt.date now.date interval := by
  rw [nextDate_of_pos now hinterval h] at hdue
  split at hdue
  case isTrue =>
    obtain ⟨-, hd⟩ := Option.ite_none_right_eq_some.1 (Except.ok.inj hdue)
    exact (Option.some.inj hd).symm
  case isFalse => cases hdue

/-- There is an answer if the days to the next due date are a duration. -/
theorem exists_nextDate_iff {t : Task} {now : Timestamp} :
    (∃ due, t.nextDate now = .ok due) ↔
      ∀ n ∈ t.intervalDay, 0 < n → daysToNext t.startAt.date now.date n ≤ greatestDuration := by
  by_cases hnone : ∀ n ∈ t.intervalDay, n ≤ 0
  · exact ⟨fun _ n hn hpos => absurd (hnone n hn) (Int.not_le.2 hpos),
      fun _ => ⟨none, nextDate_of_not_pos now hnone⟩⟩
  obtain ⟨n, hn, hpos⟩ : ∃ n ∈ t.intervalDay, 0 < n := by simpa using hnone
  rw [nextDate_of_pos now hn hpos]
  split
  case isTrue hle =>
    exact ⟨fun _ m hm _ => Option.mem_unique hn hm ▸ hle, fun _ => ⟨_, rfl⟩⟩
  case isFalse hle =>
    exact ⟨fun ⟨_, hdue⟩ => (nomatch hdue), fun h => absurd (h n hn hpos) hle⟩

/-- **The next due date is the earliest day after today that is due**, if it is represented. No
number on the way to it exceeds 64 bits. -/
theorem nextDate_earliest (t : Task) (now : Timestamp) (hstart : t.startAt.date.IsValid)
    (hnow : now.date.IsValid) :
    ((∀ n ∈ t.intervalDay, n ≤ 0) → t.nextDate now = .ok none) ∧
      ∀ n ∈ t.intervalDay, 0 < n → n ≤ greatestDuration →
        ∃ (d : Date) (k : Nat), IsNextDue t.startAt.date now.date n d ∧
          t.nextDate now = .ok (if d.isRepresented then some d else none) ∧
          Date.next^[k] now.date = d ∧
          durationToNext? t.startAt.date now.date n = some (k * millisecondsPerDay) := by
  refine ⟨nextDate_of_not_pos now, fun n hn hpos hle => ?_⟩
  have hdays : daysToNext t.startAt.date now.date n ≤ greatestDuration :=
    Int.le_trans (daysToNext_le hpos) hle
  have hfits : n ≤ maxInteger := Int.le_trans hle (by decide)
  refine ⟨dueDay t.startAt.date now.date n, _,
    isNextDue_dueDay hstart.isDay hnow.isDay hpos, ?_, iterate_next_dueDay hnow.isDay hpos, ?_⟩
  · rw [nextDate_of_pos now hn hpos]
    exact if_pos hdays
  · rw [durationToNext?_eq hstart hnow hpos hfits, if_pos hdays,
      Int.toNat_of_nonneg (Int.le_of_lt (daysToNext_pos hpos))]

/-- A task that begins on a leap day and is done every week. -/
def weeklyTask : Task :=
  ⟨1, "water the plants", ⟨⟨2024, 2, 29⟩, 9, 0, 0, 0⟩, some 7, none⟩

/-- The day before the leap day of year 0. -/
def ancientFebruary : Timestamp :=
  ⟨⟨0, 2, 28⟩, 12, 0, 0, 0⟩

theorem nextDate_earliest_of_leapDays :
    weeklyTask.startAt.date.IsValid ∧ ancientFebruary.date.IsValid ∧ 7 ∈ weeklyTask.intervalDay ∧
      (0 : Int) < 7 ∧ 7 ≤ greatestDuration ∧
      weeklyTask.nextDate ancientFebruary = .ok (some ⟨0, 3, 2⟩) ∧
      ∃ k : Nat, IsNextDue ⟨2024, 2, 29⟩ ⟨0, 2, 28⟩ 7 ⟨0, 3, 2⟩ ∧
        Date.next^[k] ⟨0, 2, 28⟩ = ⟨0, 3, 2⟩ ∧
        durationToNext? ⟨2024, 2, 29⟩ ⟨0, 2, 28⟩ 7 = some (k * millisecondsPerDay) := by
  have hstart : weeklyTask.startAt.date.IsValid := by decide
  have hnow : ancientFebruary.date.IsValid := by decide
  have hvalue : weeklyTask.nextDate ancientFebruary = .ok (some ⟨0, 3, 2⟩) := by decide
  obtain ⟨d, k, hdue, hnext, hsteps, hduration⟩ :=
    (nextDate_earliest weeklyTask ancientFebruary hstart hnow).2 7 rfl (by decide) (by decide)
  rw [hvalue] at hnext
  obtain ⟨-, hd⟩ := Option.ite_none_right_eq_some.1 (Except.ok.inj hnext).symm
  obtain rfl := Option.some.inj hd
  exact ⟨hstart, hnow, rfl, by decide, by decide, hvalue, k, hdue, hsteps, hduration⟩

/-- **The next due date is not before the first day if and only if that day lies at most one
interval ahead**: due days go on before it. -/
theorem start_le_nextDate_iff {t : Task} {now : Timestamp} (hstart : t.startAt.date.IsValid)
    (hnow : now.date.IsValid) (hinterval : t.intervalDay = some interval) (hpos : 0 < interval)
    (hdue : t.nextDate now = .ok (some d)) :
    (Date.order t.startAt.date d).isLE ↔
      ∀ k : Nat, Date.next^[k] now.date = t.startAt.date → k ≤ interval := by
  rw [eq_dueDay_of_nextDate hinterval hpos hdue, Date.order_eq_compare hstart.isDay isDay_dueDay,
    Int.isLE_compare, dayNumber_dueDay, le_add_daysToNext_iff hpos]
  simp only [Date.iterate_next_eq_iff hnow.isDay hstart.isDay]
  constructor
  · intro hle k hk
    omega
  · intro h
    by_cases hahead : now.date.dayNumber ≤ t.startAt.date.dayNumber
    · have := h (t.startAt.date.dayNumber - now.date.dayNumber).toNat (by omega)
      omega
    · omega

/-- A task that begins in 2024 and is done every so many days. -/
def taskEvery (interval : Int) : Task :=
  ⟨1, "pay the rent", .newYear 2024, some interval, none⟩

/-- The day thirty days before 2024. -/
def thirtyDaysAhead : Timestamp :=
  ⟨⟨2023, 12, 2⟩, 12, 0, 0, 0⟩

theorem start_le_nextDate_of_thirtyDaysAhead :
    (taskEvery 30).startAt.date.IsValid ∧ thirtyDaysAhead.date.IsValid ∧
      (taskEvery 30).intervalDay = some 30 ∧ (0 : Int) < 30 ∧
      (taskEvery 30).nextDate thirtyDaysAhead = .ok (some ⟨2024, 1, 1⟩) ∧
      (Date.order (taskEvery 30).startAt.date ⟨2024, 1, 1⟩).isLE := by
  have hstart : (taskEvery 30).startAt.date.IsValid := by decide
  have hnow : thirtyDaysAhead.date.IsValid := by decide
  have hvalue : (taskEvery 30).nextDate thirtyDaysAhead = .ok (some ⟨2024, 1, 1⟩) := by decide
  refine ⟨hstart, hnow, rfl, by decide, hvalue,
    (start_le_nextDate_iff hstart hnow rfl (by decide) hvalue).2 fun k hk => ?_⟩
  have hdays : (taskEvery 30).startAt.date.dayNumber = thirtyDaysAhead.date.dayNumber + 30 := by
    decide
  rw [Date.iterate_next_eq_iff hnow.isDay hstart.isDay] at hk
  omega

/-- **A task can be due before it begins**: a year ahead it is due in six days. -/
theorem nextDate_before_start :
    ¬∀ (t : Task) (now : Timestamp) (n : Int) (d : Date), t.startAt.IsValid → now.IsValid →
      t.intervalDay = some n → 0 < n → t.nextDate now = .ok (some d) →
        (Date.order t.startAt.date d).isLE := by
  intro h
  have hyear : ∀ year : Int, 0 ≤ year → year ≤ 9999 → (Timestamp.newYear year).IsValid :=
    fun _ hfirst hlast => (Timestamp.isPlain_newYear hfirst hlast).valid
  have := h (taskEvery 30) (.newYear 2023) 30 ⟨2023, 1, 6⟩ (hyear 2024 (by decide) (by decide))
    (hyear 2023 (by decide) (by decide)) rfl (by decide) (by decide)
  revert this
  decide

/-- **There is an answer if and only if the interval exceeds the days since the first day by no more
than a duration**; it is the next due date, or none if that is not represented. The calculation in
64 bits fails just where there is no answer. -/
theorem nextDate_returns_iff {t : Task} {now : Timestamp} (hstart : t.startAt.date.IsValid)
    (hnow : now.date.IsValid) :
    ((∃ due, t.nextDate now = .ok due) ↔ ∀ n ∈ t.intervalDay, ∀ k : Nat,
        Date.next^[k] t.startAt.date = now.date → n ≤ k + greatestDuration) ∧
      ∀ n ∈ t.intervalDay, 0 < n →
        (∀ due, t.nextDate now = .ok due → ∃ d, IsNextDue t.startAt.date now.date n d ∧
          due = if d.isRepresented then some d else none) ∧
        (n ≤ maxInteger → ((durationToNext? t.startAt.date now.date n).isSome ↔
          ∃ due, t.nextDate now = .ok due)) := by
  refine ⟨exists_nextDate_iff.trans (forall₂_congr fun n hn => ?_), fun n hn hpos =>
    ⟨fun due hdue => ⟨_, isNextDue_dueDay hstart.isDay hnow.isDay hpos, ?_⟩, fun hfits => ?_⟩⟩
  · by_cases hpos : 0 < n
    · rw [← daysToNext_le_greatestDuration_iff hstart hnow hpos]
      exact ⟨fun h => h hpos, fun h _ => h⟩
    · refine ⟨fun _ k _ => ?_, fun _ h => absurd h hpos⟩
      unfold greatestDuration
      omega
  · have hle := exists_nextDate_iff.1 ⟨due, hdue⟩ n hn hpos
    rw [nextDate_of_pos now hn hpos, if_pos hle] at hdue
    exact (Except.ok.inj hdue).symm
  · rw [durationToNext?_eq hstart hnow hpos hfits, Option.isSome_ite, exists_nextDate_iff]
    exact ⟨fun hle m hm _ => Option.mem_unique hn hm ▸ hle, fun h => h n hn hpos⟩

theorem nextDate_returns_of_longestInterval :
    (taskEvery maxInteger).startAt.date.IsValid ∧ thirtyDaysAhead.date.IsValid ∧
      ∃ due, (taskEvery maxInteger).nextDate thirtyDaysAhead = .ok due := by
  have hstart : (taskEvery maxInteger).startAt.date.IsValid := by decide
  have hnow : thirtyDaysAhead.date.IsValid := by decide
  refine ⟨hstart, hnow, (nextDate_returns_iff hstart hnow).1.2 fun n _ k hk => ?_⟩
  have hahead : thirtyDaysAhead.date.dayNumber < (taskEvery maxInteger).startAt.date.dayNumber := by
    decide
  rw [Date.iterate_next_eq_iff hstart.isDay hnow.isDay] at hk
  omega

/-- A task with the longest interval that a table can hold. -/
def longestInterval : List Operation :=
  [.add [⟨"pay the rent", .newYear 2024, some maxInteger⟩]]

/-- **There is no answer for a task that was stored and fetched.** -/
theorem nextDate_overflows :
    ¬∀ ops : List Operation, (∀ op ∈ ops, op.AllTimes Timestamp.IsPlain) →
      ∀ tasks, resultBy fetchTasks (sessionAfter ops) = .ok (.ok tasks) → ∀ t ∈ tasks,
        ∀ now : Timestamp, now.IsValid → ∃ due, t.nextDate now = .ok due := by
  intro h
  have hyear : (Timestamp.newYear 2024).IsPlain :=
    Timestamp.isPlain_newYear (by decide) (by decide)
  have htimes : ∀ op ∈ longestInterval, op.AllTimes Timestamp.IsPlain := by
    simp [longestInterval, Operation.AllTimes, hyear]
  have hfetch : resultBy fetchTasks (sessionAfter longestInterval) =
      .ok (.ok [taskEvery maxInteger]) := by
    rw [(Contents.effect_fetchTasks (database_sessionAfter longestInterval)
      (sound_contentsAfter longestInterval).tasks).resultBy_eq (saved_sessionAfter _)]
    decide
  obtain ⟨due, hdue⟩ := h longestInterval htimes _ hfetch _ (List.mem_singleton_self _)
    (.newYear 2024) hyear.valid
  have hnone : (taskEvery maxInteger).nextDate (.newYear 2024) = .error ⟨maxInteger⟩ := by decide
  rw [hnone] at hdue
  cases hdue

end Task

end Tablewright.Tracker
