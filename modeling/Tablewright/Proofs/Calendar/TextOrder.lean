import Tablewright.Proofs.Calendar.Days
import Tablewright.Proofs.Calendar.RoundTrip
import Tablewright.Proofs.Sql.ByteOrder

/-!
# Texts in the order of time

The parts of a timestamp count the seconds up to it and the nanoseconds in its second, and
timestamps compare as these counts do (`order_eq_compare`). The texts of timestamps compare by their
bytes as the timestamps that they are read back as do (`compareBytes_toText`). These are the
timestamps cut to milliseconds unless nanoseconds are counted on in the midst of a minute, which
are written with the next second (`compareBytes_toText_in_midMinute`). A leap second is written as
second 60, and comes before the next minute as its text does.
-/

namespace Tablewright.Timestamp

open Sql

/-! ## Counting seconds -/

/-- The seconds of the day before a second. -/
def secondOfDay (t : Timestamp) : Nat :=
  60 * (60 * t.hour + t.minute) + t.second

/-- The seconds from 1 March of year 0 on. A leap second goes with the second before it, in which its
nanoseconds are counted on. -/
def secondNumber (t : Timestamp) : Int :=
  86400 * t.date.dayNumber + t.secondOfDay

theorem IsRepresentable.secondOfDay_lt {t : Timestamp} (h : t.IsRepresentable) :
    t.secondOfDay < 86400 := by
  have hhour := h.hour
  have hminute := h.minute
  have hsecond := h.second
  unfold secondOfDay
  omega

theorem compare_secondOfDay {a b : Timestamp} (ha : a.IsRepresentable) (hb : b.IsRepresentable) :
    compare a.secondOfDay b.secondOfDay =
      (compare a.hour b.hour).then
        ((compare a.minute b.minute).then (compare a.second b.second)) := by
  rw [secondOfDay, secondOfDay, compare_radix ha.second hb.second,
    compare_radix ha.minute hb.minute, Ordering.then_assoc]

/-- **Timestamps compare as the seconds up to them do**, and within one second as their
nanoseconds. -/
theorem order_eq_compare {a b : Timestamp} (ha : a.IsRepresentable) (hb : b.IsRepresentable) :
    order a b =
      (compare a.secondNumber b.secondNumber).then (compare a.nanosecond b.nanosecond) := by
  have hdates : Date.order a.date b.date = compare a.date.dayNumber b.date.dayNumber :=
    Date.order_eq_compare ha.date.isDay hb.date.isDay
  have hseconds : compare a.secondNumber b.secondNumber =
      (Date.order a.date b.date).then (compare a.secondOfDay b.secondOfDay) := by
    rw [hdates]
    exact compareInt_radix ha.secondOfDay_lt hb.secondOfDay_lt
  rw [hseconds, compare_secondOfDay ha hb]
  simp only [order, Date.order, Ordering.then_assoc]

/-! ## Timestamps read back -/

section Written

variable {t : Timestamp}

/-- Only second 60 is read back as a leap second. -/
theorem written_cases (h : t.IsRepresentable) :
    t.writtenSecond = 60 ∧ t.written = ⟨t.date, t.hour, t.minute, 59,
      nanosecondsPerSecond + t.millisecond * nanosecondsPerMillisecond⟩ ∨
    t.writtenSecond < 60 ∧ t.written = ⟨t.date, t.hour, t.minute, t.writtenSecond,
      t.millisecond * nanosecondsPerMillisecond⟩ := by
  rw [written, ofParts]
  split
  case isTrue hleap => exact .inl ⟨hleap, rfl⟩
  case isFalse hleap => exact .inr ⟨Nat.lt_of_le_of_ne h.writtenSecond_le hleap, rfl⟩

theorem isValid_written (h : t.IsRepresentable) : t.written.IsValid := by
  have hlt := t.millisecond_lt
  obtain ⟨-, heq⟩ | ⟨hsecond, heq⟩ := written_cases h
  · rw [heq]
    refine ⟨h.date, h.hour, h.minute, Nat.lt_succ_self 59, .inr ⟨rfl, ?_⟩⟩
    simp only [nanosecondsPerSecond, nanosecondsPerMillisecond]
    omega
  · rw [heq]
    refine ⟨h.date, h.hour, h.minute, hsecond, .inl ?_⟩
    simp only [nanosecondsPerSecond, nanosecondsPerMillisecond]
    omega

/-- Nothing is lost of what is read back when it is cut. -/
theorem cut_written (h : t.IsRepresentable) : t.written.cut = t.written := by
  obtain ⟨-, heq⟩ | ⟨-, heq⟩ := written_cases h
  all_goals
    rw [heq, Timestamp.cut, Timestamp.mk.injEq]
    refine ⟨rfl, rfl, rfl, rfl, ?_⟩
    simp only [nanosecondsPerSecond, nanosecondsPerMillisecond]
    omega

/-- What a timestamp is read back as is written as the timestamp is. -/
theorem toText_written (h : t.IsRepresentable) : t.written.toText = t.toText := by
  have hlt := t.millisecond_lt
  obtain ⟨hsecond, heq⟩ | ⟨-, heq⟩ := written_cases h
  · have hwritten : t.written.writtenSecond = t.writtenSecond := by
      rw [heq, hsecond]
      change 59 + (nanosecondsPerSecond + t.millisecond * nanosecondsPerMillisecond) /
        nanosecondsPerSecond = 60
      simp only [nanosecondsPerSecond, nanosecondsPerMillisecond]
      omega
    have hmillisecond : t.written.millisecond = t.millisecond := by
      rw [heq]
      change (nanosecondsPerSecond + t.millisecond * nanosecondsPerMillisecond) %
        nanosecondsPerSecond / nanosecondsPerMillisecond = t.millisecond
      simp only [nanosecondsPerSecond, nanosecondsPerMillisecond]
      omega
    rw [toText, hwritten, hmillisecond, heq]
    rfl
  · have hwritten : t.written.writtenSecond = t.writtenSecond := by
      rw [heq]
      change t.writtenSecond + t.millisecond * nanosecondsPerMillisecond / nanosecondsPerSecond = _
      simp only [nanosecondsPerSecond, nanosecondsPerMillisecond]
      omega
    have hmillisecond : t.written.millisecond = t.millisecond := by
      rw [heq]
      change t.millisecond * nanosecondsPerMillisecond % nanosecondsPerSecond /
        nanosecondsPerMillisecond = t.millisecond
      simp only [nanosecondsPerSecond, nanosecondsPerMillisecond]
      omega
    rw [toText, hwritten, hmillisecond, heq]
    rfl

end Written

/-! ## The order of texts -/

section Order

variable {a b : Timestamp}

/-- The values of two TEXT columns compare as texts. -/
theorem greater_texts (s t : String) :
    BinaryOp.greater.apply (comparisonAffinity (some .text) (some .text)) (.text s) (.text t) =
      .ok (.ofTruth (some (compareText s t == .gt))) :=
  rfl

/-- What is read back is in the same year. -/
theorem isPlain_written {t : Timestamp} (h : t.IsRepresentable)
    (hyear : 0 ≤ t.date.year ∧ t.date.year ≤ 9999) : t.written.IsPlain := by
  have hdate : t.written.date = t.date := by
    obtain ⟨-, heq⟩ | ⟨-, heq⟩ := written_cases h <;> rw [heq]
  exact ⟨isValid_written h, hdate ▸ hyear.1, hdate ▸ hyear.2⟩

/-- **Texts of timestamps are in the order of what they are read back as**: compared by their bytes
they are in the order of the seconds up to it and of the nanoseconds in its second, and the values of
two TEXT columns compare in this order. This is the order of the timestamps cut to milliseconds,
unless nanoseconds are counted on in the midst of a minute. -/
theorem compareBytes_toText (ha : a.IsRepresentable) (hb : b.IsRepresentable)
    (hya : 0 ≤ a.date.year ∧ a.date.year ≤ 9999) (hyb : 0 ≤ b.date.year ∧ b.date.year ≤ 9999) :
    compareBytes a.toText b.toText = order a.written b.written ∧
      order a.written b.written = (compare a.written.secondNumber b.written.secondNumber).then
        (compare a.written.nanosecond b.written.nanosecond) ∧
      BinaryOp.greater.apply (comparisonAffinity (some .text) (some .text)) (.text a.toText)
        (.text b.toText) = .ok (.ofTruth (some (order a.written b.written == .gt))) ∧
      (a.IsValid → b.IsValid → order a.written b.written = order a.cut b.cut) := by
  have htext : compareText a.toText b.toText = order a.written b.written := by
    rw [← toText_written ha, ← toText_written hb,
      compareText_toText (isPlain_written ha hya) (isPlain_written hb hyb), cut_written ha,
      cut_written hb]
  refine ⟨by rw [compareBytes_eq_compareText, htext],
    order_eq_compare (isValid_written ha).isRepresentable (isValid_written hb).isRepresentable, ?_,
    fun hva hvb => by rw [written_eq_cut hva, written_eq_cut hvb]⟩
  rw [greater_texts, htext]

end Order

/-- The last moments of a leap second at the end of 2016. -/
def leapSecond2016 : Timestamp :=
  ⟨⟨2016, 12, 31⟩, 23, 59, 59, 1999999999⟩

/-- A leap second and the beginning of the next year, and a second in which nanoseconds are counted
on and the one behind it. -/
theorem compareBytes_toText_of_leapSeconds :
    (leapSecond2016.IsValid ∧ (newYear 2017).IsValid) ∧
      leapSecond2016.toText = "2016-12-31T23:59:60.999" ∧
      (newYear 2017).toText = "2017-01-01T00:00:00.000" ∧
      compareBytes leapSecond2016.toText (newYear 2017).toText = .lt ∧
      oddLeapSecond2024.IsRepresentable ∧
      compareBytes oddLeapSecond2024.toText (newYear 2024).toText = .gt := by
  have hleap : leapSecond2016.IsValid := by
    constructor <;> decide
  have hyear : ∀ year : Int, 0 ≤ year → year ≤ 9999 → (newYear year).IsValid :=
    fun _ hfirst hlast => (isPlain_newYear hfirst hlast).valid
  have h2017 := hyear 2017 (by decide) (by decide)
  have h2024 := hyear 2024 (by decide) (by decide)
  refine ⟨⟨hleap, h2017⟩, by decide, by decide, ?_, isRepresentable_oddLeapSecond2024, ?_⟩
  · rw [(compareBytes_toText hleap.isRepresentable h2017.isRepresentable (by decide)
      (by decide)).1]
    decide
  · rw [(compareBytes_toText isRepresentable_oddLeapSecond2024 h2024.isRepresentable (by decide)
      (by decide)).1]
    decide

/-- Nanoseconds that are counted on in the midst of a minute come before the next second, and their
text comes behind its text. -/
theorem compareBytes_toText_in_midMinute :
    let next : Timestamp := ⟨⟨2024, 1, 1⟩, 0, 0, 6, 0⟩
    oddLeapSecond2024.IsRepresentable ∧ next.IsRepresentable ∧
      oddLeapSecond2024.toText = "2024-01-01T00:00:06.500" ∧
      next.toText = "2024-01-01T00:00:06.000" ∧
      order oddLeapSecond2024.cut next.cut = .lt ∧
      compareBytes oddLeapSecond2024.toText next.toText = .gt := by
  intro next
  have hnext : next.IsRepresentable := by
    constructor <;> decide
  exact ⟨isRepresentable_oddLeapSecond2024, hnext, by decide, by decide, by decide, by decide⟩

end Tablewright.Timestamp
