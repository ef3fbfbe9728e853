import Tablewright.Proofs.Calendar.Digits

/-!
# The order of time

Timestamps compare part by part, from the year down to the nanosecond (`Timestamp.order`). In the
years that are written without a sign, the texts of timestamps compare as the timestamps do when
they are cut to milliseconds (`compareText_toText`).
-/

namespace Tablewright

/-- A date that there is. -/
abbrev Date.IsValid (d : Date) : Prop :=
  d.isRepresented = true

theorem Date.daysInMonth_le (year : Int) (month : Nat) : daysInMonth year month ≤ 31 := by
  unfold daysInMonth
  split
  · split <;> decide
  all_goals decide

theorem Date.IsValid.bounds {d : Date} (h : d.IsValid) :
    firstYear ≤ d.year ∧ d.year ≤ lastYear ∧ 1 ≤ d.month ∧ d.month ≤ 12 ∧ 1 ≤ d.day ∧
      d.day ≤ 31 := by
  simp only [IsValid, isRepresented, Bool.and_eq_true, decide_eq_true_eq] at h
  have := daysInMonth_le d.year d.month
  omega

namespace Timestamp

/-- A timestamp that there is: a leap second comes at the end of a minute. -/
structure IsValid (t : Timestamp) : Prop where
  date : t.date.IsValid
  hour : t.hour < 24
  minute : t.minute < 60
  second : t.second < 60
  nanosecond : t.nanosecond < nanosecondsPerSecond ∨
    t.second = 59 ∧ t.nanosecond < 2 * nanosecondsPerSecond

/-- A timestamp that can be represented: the nanoseconds may be counted on in every second, as they
are after calculating with a leap second. -/
structure IsRepresentable (t : Timestamp) : Prop where
  date : t.date.IsValid
  hour : t.hour < 24
  minute : t.minute < 60
  second : t.second < 60
  nanosecond : t.nanosecond < 2 * nanosecondsPerSecond

/-- A timestamp cut to milliseconds. -/
def cut (t : Timestamp) : Timestamp :=
  { t with
    nanosecond := t.nanosecond / nanosecondsPerMillisecond * nanosecondsPerMillisecond }

/-- The order of time: a part matters only if all parts before it are the same. -/
def order (a b : Timestamp) : Ordering :=
  (compare a.date.year b.date.year).then <|
    (compare a.date.month b.date.month).then <|
      (compare a.date.day b.date.day).then <|
        (compare a.hour b.hour).then <|
          (compare a.minute b.minute).then <|
            (compare a.second b.second).then (compare a.nanosecond b.nanosecond)

/-- Timestamps are ordered linearly. -/
instance : Std.TransCmp order :=
  inferInstanceAs (Std.TransCmp (compareLex (compareOn fun t : Timestamp => t.date.year) <|
    compareLex (compareOn fun t : Timestamp => t.date.month) <|
      compareLex (compareOn fun t : Timestamp => t.date.day) <|
        compareLex (compareOn hour) <| compareLex (compareOn minute) <|
          compareLex (compareOn second) (compareOn nanosecond)))

/-- Timestamps at the same place in the order are the same. -/
theorem eq_of_order {a b : Timestamp} (h : order a b = .eq) : a = b := by
  simp only [order, Ordering.then_eq_eq, Int.compare_eq_eq, Nat.compare_eq_eq] at h
  obtain ⟨hyear, hmonth, hday, hhour, hminute, hsecond, hnanosecond⟩ := h
  obtain ⟨⟨_, _, _⟩, _, _, _, _⟩ := a
  obtain ⟨⟨_, _, _⟩, _, _, _, _⟩ := b
  subst hyear hmonth hday hhour hminute hsecond hnanosecond
  rfl

theorem isLE_then {o p q : Ordering} (hpq : p.isLE → q.isLE) (h : (o.then p).isLE) :
    (o.then q).isLE := by
  cases o with
  | lt => rfl
  | eq => exact hpq h
  | gt => exact h

/-- Cutting keeps the order. -/
theorem isLE_cut {a b : Timestamp} (h : (order a b).isLE) : (order a.cut b.cut).isLE := by
  refine isLE_then (isLE_then (isLE_then (isLE_then (isLE_then (isLE_then fun hns => ?_))))) h
  rw [Nat.isLE_compare] at hns ⊢
  exact Nat.mul_le_mul_right _ (Nat.div_le_div_right hns)

/-- A timestamp that there is, in a year that is written with four digits. -/
structure IsPlain (t : Timestamp) : Prop where
  valid : t.IsValid
  first : 0 ≤ t.date.year
  last : t.date.year ≤ 9999

/-- A timestamp whose nanoseconds are counted on in the midst of a minute. -/
def oddLeapSecond2024 : Timestamp :=
  ⟨⟨2024, 1, 1⟩, 0, 0, 5, 1500000000⟩

theorem isRepresentable_oddLeapSecond2024 : oddLeapSecond2024.IsRepresentable := by
  constructor <;> decide

/-- The beginning of a year. -/
def newYear (year : Int) : Timestamp :=
  ⟨⟨year, 1, 1⟩, 0, 0, 0, 0⟩

theorem isPlain_newYear {year : Int} (hfirst : 0 ≤ year) (hlast : year ≤ 9999) :
    (newYear year).IsPlain := by
  refine ⟨⟨?_, Nat.zero_lt_succ 23, Nat.zero_lt_succ 59, Nat.zero_lt_succ 59,
    .inl (Nat.zero_lt_succ 999999999)⟩, hfirst, hlast⟩
  have hdays : Date.daysInMonth year 1 = 31 := rfl
  have hyear : Date.firstYear ≤ year ∧ year ≤ Date.lastYear := by
    rw [Date.firstYear, Date.lastYear]
    omega
  simp [newYear, Date.IsValid, Date.isRepresented, hdays, hyear]

theorem isLE_newYear {a b : Int} (h : a ≤ b) : (order (newYear a) (newYear b)).isLE := by
  obtain h | rfl := Int.lt_or_eq_of_le h
  · rw [order, show compare (newYear a).date.year (newYear b).date.year = .lt from
      Int.compare_eq_lt.2 h]
    rfl
  · exact Std.ReflCmp.isLE_rfl

theorem IsValid.cut {t : Timestamp} (h : t.IsValid) : t.cut.IsValid := by
  obtain ⟨hdate, hhour, hminute, hsecond, hnanosecond⟩ := h
  refine ⟨hdate, hhour, hminute, hsecond, ?_⟩
  simp only [Timestamp.cut, nanosecondsPerSecond, nanosecondsPerMillisecond] at hnanosecond ⊢
  omega

/-! ## The time within a minute -/

theorem millisecond_lt (t : Timestamp) : t.millisecond < 1000 := by
  simp only [millisecond, nanosecondsPerSecond, nanosecondsPerMillisecond]
  omega

theorem IsValid.nanosecond_lt {t : Timestamp} (h : t.IsValid) :
    t.nanosecond < 2 * nanosecondsPerSecond := by
  have := h.nanosecond
  simp only [nanosecondsPerSecond] at *
  omega

theorem IsValid.isRepresentable {t : Timestamp} (h : t.IsValid) : t.IsRepresentable :=
  ⟨h.date, h.hour, h.minute, h.second, h.nanosecond_lt⟩

theorem IsRepresentable.writtenSecond_le {t : Timestamp} (h : t.IsRepresentable) :
    t.writtenSecond ≤ 60 := by
  have hsecond := h.second
  have hnanosecond := h.nanosecond
  simp only [writtenSecond, nanosecondsPerSecond] at *
  omega

theorem IsValid.writtenSecond_le {t : Timestamp} (h : t.IsValid) : t.writtenSecond ≤ 60 :=
  h.isRepresentable.writtenSecond_le

/-- The written seconds and milliseconds are ordered as the time within the minute is. -/
theorem compare_written {a b : Timestamp} (ha : a.IsValid) (hb : b.IsValid) :
    (compare a.writtenSecond b.writtenSecond).then (compare a.millisecond b.millisecond) =
      (compare a.second b.second).then (compare a.cut.nanosecond b.cut.nanosecond) := by
  have ha' := ha.nanosecond
  have hb' := hb.nanosecond
  rw [← compare_radix a.millisecond_lt b.millisecond_lt,
    ← compare_radix ha.cut.nanosecond_lt hb.cut.nanosecond_lt]
  have := ha.second
  have := hb.second
  simp only [writtenSecond, millisecond, Timestamp.cut, nanosecondsPerSecond,
    nanosecondsPerMillisecond] at *
  refine compare_congr ?_ ?_ <;> omega

/-! ## Texts -/

theorem IsPlain.yearText_eq {t : Timestamp} (h : t.IsPlain) :
    yearText t.date.year = padded 4 t.date.year.natAbs := by
  have hfirst : ¬t.date.year < 0 := Int.not_lt.2 h.first
  rw [yearText, if_neg hfirst, if_pos h.last]

theorem compare_natAbs {a b : Int} (ha : 0 ≤ a) (hb : 0 ≤ b) :
    compare a.natAbs b.natAbs = compare a b := by
  rcases Int.lt_trichotomy a b with h | rfl | h
  · rw [Nat.compare_eq_lt.2 (by omega), Int.compare_eq_lt.2 h]
  · rw [Nat.compare_eq_eq.2 rfl, Int.compare_eq_eq.2 rfl]
  · rw [Nat.compare_eq_gt.2 (by omega), Int.compare_eq_gt.2 h]

/-- All parts of a timestamp fit into the width they are written with. -/
theorem IsPlain.parts_lt {t : Timestamp} (h : t.IsPlain) :
    t.date.year.natAbs < 10 ^ 4 ∧ t.date.month < 10 ^ 2 ∧ t.date.day < 10 ^ 2 ∧
      t.hour < 10 ^ 2 ∧ t.minute < 10 ^ 2 ∧ t.writtenSecond < 10 ^ 2 ∧ t.millisecond < 10 ^ 3 := by
  have hdate := h.valid.date.bounds
  have hhour := h.valid.hour
  have hminute := h.valid.minute
  have hsecond := h.valid.writtenSecond_le
  have hmillisecond := t.millisecond_lt
  have hfirst := h.first
  have hlast := h.last
  omega

/-- **The texts of timestamps are in the order of time**, up to milliseconds. -/
theorem compareText_toText {a b : Timestamp} (ha : a.IsPlain) (hb : b.IsPlain) :
    compareText a.toText b.toText = order a.cut b.cut := by
  obtain ⟨hya, hma, hda, hha, hmia, hsa, hmsa⟩ := ha.parts_lt
  obtain ⟨hyb, hmb, hdb, hhb, hmib, hsb, hmsb⟩ := hb.parts_lt
  have hcons : ∀ (c : Char) (xs ys : List Char),
      compareLists compare (c :: xs) (c :: ys) = compareLists compare xs ys := by
    intro c xs ys
    have hc : compare c c = .eq := Std.ReflCmp.compare_self
    rw [compareLists, hc, Ordering.eq_then]
  have hlast : compareLists compare (padded 3 a.millisecond) (padded 3 b.millisecond) =
      compare a.millisecond b.millisecond := by
    simpa [compareLists] using compareLists_padded (by decide) hmsa hmsb [] []
  rw [compareText, toText, toText, String.toList_ofList, String.toList_ofList,
    ha.yearText_eq, hb.yearText_eq]
  simp only [List.append_assoc, List.cons_append]
  rw [compareLists_padded (by decide) hya hyb, hcons, compareLists_padded (by decide) hma hmb,
    hcons, compareLists_padded (by decide) hda hdb, hcons, compareLists_padded (by decide) hha hhb,
    hcons, compareLists_padded (by decide) hmia hmib, hcons,
    compareLists_padded (by decide) hsa hsb, hcons, hlast, compare_written ha.valid hb.valid,
    compare_natAbs ha.first hb.first]
  rfl

end Timestamp

end Tablewright
