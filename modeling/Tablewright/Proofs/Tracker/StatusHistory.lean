import Mathlib.Data.List.Chain
import Tablewright.Proofs.Calendar.Order
import Tablewright.Proofs.Tracker.Times

/-!
# The history of a status

The changes of status of a task, if its requests come in the order of time: from one change to the
next the status is another one. A request is noted unless the task has the status already or its
last two changes are at one time, to the millisecond; after such two changes every request counts
as a repetition (`changeStatus_history`).
-/

namespace Tablewright.Tracker

open Sql Database Session

/-! ## Requests -/

/-- The time of an operation that requests a status for a task. -/
def Operation.requestTime? (id : Int) : Operation → Option Timestamp
  | changeStatus task _ now => if task = id then some now else none
  | _ => none

/-- The times at which a status was requested for a task. -/
def requestTimes (id : Int) (ops : List Operation) : List Timestamp :=
  ops.filterMap (Operation.requestTime? id)

theorem requestTimes_append (id : Int) (ops : List Operation) (op : Operation) :
    requestTimes id (ops ++ [op]) = requestTimes id ops ++ (op.requestTime? id).toList := by
  rw [requestTimes, List.filterMap_append, ← requestTimes]
  cases h : op.requestTime? id <;> simp [h]

theorem requestTime?_changeStatus (id : Int) (status : TaskStatus) (now : Timestamp) :
    (Operation.changeStatus id status now).requestTime? id = some now :=
  if_pos rfl

/-- Times that never decrease, in years that are written with four digits. -/
structure NeverDecrease (times : List Timestamp) : Prop where
  plain : ∀ t ∈ times, t.IsPlain
  ordered : times.Pairwise fun a b => (Timestamp.order a b).isLE

theorem NeverDecrease.sublist {times others : List Timestamp} (h : NeverDecrease times)
    (hsub : others.Sublist times) : NeverDecrease others :=
  ⟨fun t ht => h.plain t (hsub.subset ht), h.ordered.sublist hsub⟩

/-! ## Histories -/

/-- Changes of status in the order of time, each one to another status than the one before. -/
structure IsHistory (l : List StatusChange) : Prop where
  times : NeverDecrease (l.map (·.changedAt))
  alternating : l.IsChain fun x y => x.status ≠ y.status

/-- The status after changes, none if there is no change. -/
def lastStatus (l : List StatusChange) : Option TaskStatus :=
  l.getLast?.map (·.status)

/-- The last two changes are at one time, to the millisecond. -/
def EndsInTie (l : List StatusChange) : Prop :=
  ∃ x ∈ l.dropLast.getLast?, ∃ y ∈ l.getLast?, x.changedAt.cut = y.changedAt.cut

instance : DecidablePred EndsInTie := fun l =>
  inferInstanceAs (Decidable (∃ x ∈ l.dropLast.getLast?, ∃ y ∈ l.getLast?,
    x.changedAt.cut = y.changedAt.cut))

theorem endsInTie_iff {l : List StatusChange} : EndsInTie l ↔
    ∃ front x y, l = front ++ [x, y] ∧ x.changedAt.cut = y.changedAt.cut := by
  constructor
  · rintro ⟨x, hx, y, hy, htie⟩
    obtain ⟨front, hfront⟩ := List.getLast?_eq_some_iff.1 hx
    obtain ⟨before, hbefore⟩ := List.getLast?_eq_some_iff.1 hy
    rw [hbefore, List.dropLast_concat] at hfront
    exact ⟨front, x, y, by rw [hbefore, hfront, List.append_assoc]; rfl, htie⟩
  · rintro ⟨front, x, y, rfl, htie⟩
    rw [List.append_cons]
    exact ⟨x, by simp, y, by simp, htie⟩

theorem lastStatus_append (l : List StatusChange) (x : StatusChange) :
    lastStatus (l ++ [x]) = some x.status := by
  rw [lastStatus, List.getLast?_concat]
  rfl

theorem TaskStatus.eq_or_eq {a b : TaskStatus} (h : a ≠ b) (status : TaskStatus) :
    status = a ∨ status = b := by
  cases a <;> cases b <;> cases status <;> simp at h ⊢

namespace IsHistory

variable {l : List StatusChange}

theorem nil : IsHistory [] :=
  ⟨⟨by simp, .nil⟩, .nil⟩

theorem plain (h : IsHistory l) {x : StatusChange} (hx : x ∈ l) : x.changedAt.IsPlain :=
  h.times.plain _ (List.mem_map.2 ⟨x, hx, rfl⟩)

theorem isLE_cut (h : IsHistory l) :
    l.Pairwise fun x y => (Timestamp.order x.changedAt.cut y.changedAt.cut).isLE :=
  (List.pairwise_map.1 h.times.ordered).imp Timestamp.isLE_cut

theorem isLater_eq_false (h : IsHistory l) {x y : StatusChange} (hx : x ∈ l) (hy : y ∈ l) :
    Contents.isLater y x = false ↔
      (Timestamp.order y.changedAt.cut x.changedAt.cut).isLE = true := by
  rw [Contents.isLater, Timestamp.compareText_toText (h.plain hy) (h.plain hx)]
  cases Timestamp.order y.changedAt.cut x.changedAt.cut <;> simp

/-- No change is later than the last one. -/
theorem isLater_last {front : List StatusChange} {x y : StatusChange}
    (h : IsHistory (front ++ [x])) (hy : y ∈ front ++ [x]) : Contents.isLater y x = false := by
  rw [h.isLater_eq_false (by simp) hy]
  rcases List.mem_append.1 hy with hy | hy
  · exact (List.pairwise_append.1 h.isLE_cut).2.2 y hy x (by simp)
  · rw [List.mem_singleton.1 hy]
    exact Std.ReflCmp.isLE_rfl

/-- A change after which there is no later one is the last, or the last two are at one time. -/
theorem eq_last_or_tie (h : IsHistory l) {x : StatusChange} (hx : x ∈ l)
    (hlatest : ∀ y ∈ l, Contents.isLater y x = false) : l.getLast? = some x ∨ EndsInTie l := by
  obtain rfl | ⟨front, z, rfl⟩ := l.eq_nil_or_concat'
  · cases hx
  obtain hx | hx := List.mem_append.1 hx
  · obtain rfl | ⟨front, w, rfl⟩ := front.eq_nil_or_concat'
    · cases hx
    refine .inr (endsInTie_iff.2 ⟨front, w, z, by simp, ?_⟩)
    have hzx := (h.isLater_eq_false (List.mem_append_left _ hx) (by simp)).1 (hlatest z (by simp))
    obtain ⟨hfront, -, hz⟩ := List.pairwise_append.1 h.isLE_cut
    have hwz := hz w (by simp) z (by simp)
    have hxw : (Timestamp.order x.changedAt.cut w.changedAt.cut).isLE := by
      rcases List.mem_append.1 hx with hx | hx
      · exact (List.pairwise_append.1 hfront).2.2 x hx w (by simp)
      · rw [List.mem_singleton.1 hx]
        exact Std.ReflCmp.isLE_rfl
    have hzw := Std.TransCmp.isLE_trans hzx hxw
    exact Timestamp.eq_of_order (Std.OrientedCmp.isLE_antisymm hwz hzw)
  · rw [List.mem_singleton.1 hx]
    exact .inl List.getLast?_concat

end IsHistory

namespace Contents

variable {c : Contents} {id : Int}

/-- The changes of status of a task, in the order in which they were noted. -/
def changesOf (c : Contents) (id : Int) : List StatusChange :=
  c.changes.filter (·.task == id)

theorem isCurrent_iff {status : TaskStatus} : c.isCurrent id status = true ↔
    ∃ x ∈ c.changesOf id, x.status = status ∧ ∀ y ∈ c.changesOf id, isLater y x = false := by
  simp [isCurrent, changesOf, and_assoc]

/-- **What the trigger refuses**: the last status, and every status after a tie. -/
theorem isCurrent_history (h : IsHistory (c.changesOf id)) (status : TaskStatus) :
    c.isCurrent id status = true ↔
      lastStatus (c.changesOf id) = some status ∨ EndsInTie (c.changesOf id) := by
  rw [isCurrent_iff]
  constructor
  · rintro ⟨x, hx, rfl, hlatest⟩
    refine (h.eq_last_or_tie hx hlatest).imp_left fun hlast => ?_
    rw [lastStatus, hlast]
    rfl
  · rintro (hlast | htie)
    · obtain ⟨x, hx, rfl⟩ := Option.map_eq_some_iff.1 hlast
      obtain ⟨front, hl⟩ := List.getLast?_eq_some_iff.1 hx
      rw [hl] at h ⊢
      exact ⟨x, by simp, rfl, fun y hy => h.isLater_last hy⟩
    · obtain ⟨front, x, y, hl, htie⟩ := endsInTie_iff.1 htie
      rw [hl] at h ⊢
      have hne : x.status ≠ y.status :=
        (List.isChain_append_cons_cons.1 h.alternating).2.1
      have hy : ∀ z ∈ front ++ [x, y], isLater z y = false := by
        rw [List.append_cons] at h ⊢
        exact fun z hz => h.isLater_last hz
      obtain rfl | rfl := TaskStatus.eq_or_eq hne status
      · refine ⟨x, by simp, rfl, fun z hz => ?_⟩
        have := (h.isLater_eq_false (by simp) hz).1 (hy z hz)
        rwa [h.isLater_eq_false (by simp) hz, htie]
      · exact ⟨y, by simp, rfl, hy⟩

/-! ## What a step does to a history -/

theorem changesOf_withoutTask (other : Int) : (c.withoutTask other).changesOf id =
    if other = id then [] else c.changesOf id := by
  rw [changesOf, withoutTask, List.filter_filter]
  split
  · rename_i h
    subst h
    refine List.filter_eq_nil_iff.2 fun x _ => ?_
    cases hx : x.task == other <;> simp [bne, hx]
  · rename_i h
    refine List.filter_congr fun x _ => ?_
    cases hx : x.task == id with
    | false => rfl
    | true =>
      rw [beq_iff_eq] at hx
      simp [hx, Ne.symm h]

theorem changesOf_withChange (x : StatusChange) : (c.withChange x).changesOf id =
    if x.task = id then c.changesOf id ++ [x] else c.changesOf id := by
  rw [changesOf, withChange, List.filter_append, ← changesOf]
  split <;> rename_i h <;> simp [h]

/-- What an operation can do to the history of a task. -/
theorem changesOf_next (c : Contents) (id : Int) (op : Operation) :
    (op.next c).changesOf id = c.changesOf id ∨ (op.next c).changesOf id = [] ∨
      ∃ x, op = .changeStatus id x.status x.changedAt ∧ c.isCurrent id x.status = false ∧
        (op.next c).changesOf id = c.changesOf id ++ [x] := by
  have hstep := op.steps_next c
  generalize op.next c = c' at hstep ⊢
  have hwithout : ∀ other, (c.withoutTask other).changesOf id = c.changesOf id ∨
      (c.withoutTask other).changesOf id = [] := by
    intro other
    rw [changesOf_withoutTask]
    split
    · exact .inr rfl
    · exact .inl rfl
  cases hstep with
  | failed => exact .inl rfl
  | added hadd =>
    exact .inl (addTasks_induction (p := fun c' => c'.changesOf id = c.changesOf id) hadd rfl
      fun _ _ _ _ _ hc => hc)
  | updated => exact (hwithout _).imp_right .inl
  | completed => exact .inl rfl
  | @changed task rowid status now hfree =>
    rw [changesOf_withChange]
    split
    · rename_i htask
      cases (show task = id from htask)
      exact .inr (.inr ⟨⟨rowid, id, now, status⟩, rfl, hfree, rfl⟩)
    · exact .inl rfl
  | removed => exact (hwithout _).imp_right .inl

end Contents

/-! ## Runs -/

/-- The times in a history are times of requests. -/
theorem changedAt_sublist (id : Int) (ops : List Operation) :
    (((contentsAfter ops).changesOf id).map (·.changedAt)).Sublist (requestTimes id ops) := by
  refine contentsAfter_induction
    (p := fun ops c => ((c.changesOf id).map (·.changedAt)).Sublist (requestTimes id ops))
    (List.nil_sublist _) (fun ops op ih => ?_) ops
  rw [requestTimes_append]
  obtain heq | heq | ⟨x, rfl, -, heq⟩ := (contentsAfter ops).changesOf_next id op
  · rw [heq]
    exact ih.trans (List.sublist_append_left _ _)
  · rw [heq]
    exact List.nil_sublist _
  · rw [heq, requestTime?_changeStatus, List.map_append]
    exact ih.append_right _

/-- **The changes of a task alternate**, if its requests come in the order of time. -/
theorem isHistory_contentsAfter (id : Int) (ops : List Operation)
    (htimes : NeverDecrease (requestTimes id ops)) :
    IsHistory ((contentsAfter ops).changesOf id) := by
  refine contentsAfter_induction
    (p := fun ops c => NeverDecrease (requestTimes id ops) → IsHistory (c.changesOf id))
    (fun _ => .nil) (fun ops op ih htimes => ?_) ops htimes
  have hsub := changedAt_sublist id (ops ++ [op])
  rw [contentsAfter_append] at hsub
  refine ⟨htimes.sublist hsub, ?_⟩
  rw [requestTimes_append] at htimes
  have h := ih (htimes.sublist (List.sublist_append_left _ _))
  obtain heq | heq | ⟨x, -, hfree, heq⟩ := (contentsAfter ops).changesOf_next id op
  · rw [heq]
    exact h.alternating
  · rw [heq]
    exact .nil
  · rw [heq]
    refine h.alternating.append (.singleton x) fun y hy z hz hstatus => ?_
    cases hz
    have hcurrent : (contentsAfter ops).isCurrent id x.status = true := by
      rw [Contents.isCurrent_history h, lastStatus, Option.mem_def.1 hy, ← hstatus]
      exact .inl rfl
    rw [hfree] at hcurrent
    cases hcurrent

/-- A request that does not fail is a repetition, or is noted. -/
theorem Contents.changeStatus_ok (c : Contents) {id : Int} {status : TaskStatus} {now : Timestamp}
    (hok : (Operation.changeStatus id status now).result c = .ok ()) :
    (c.isCurrent id status = true ∧ (Operation.changeStatus id status now).next c = c) ∨
      (c.isCurrent id status = false ∧ ∃ rowid,
        (Operation.changeStatus id status now).next c =
          c.withChange ⟨rowid, id, now, status⟩) := by
  rw [Operation.result] at hok
  rw [Operation.next, Operation.step]
  obtain ⟨hcurrent, he⟩ | ⟨hfree, ⟨e, -, hnext, he⟩ | ⟨rowid, -, ⟨-, he⟩ | ⟨-, hstep⟩⟩⟩ :=
    c.changeStatus_cases id status now
  · rw [he]
    exact .inl ⟨hcurrent, rfl⟩
  · rw [he, eq_full_of_nextId hnext] at hok
    cases hok
  · rw [he] at hok
    cases hok
  · rw [hstep]
    exact .inr ⟨hfree, rowid, rfl⟩

open Contents in
/-- **Which requests for a status are noted.** In every run in which the requests for a task come
in the order of time, its changes alternate. A request that does not fail is noted, unless the task
has the status or its last two changes are at one time; so it is lost if and only if there is such
a tie and the last status is another one. -/
theorem changeStatus_history (ops : List Operation) (id : Int) (status : TaskStatus)
    (now : Timestamp)
    (htimes : NeverDecrease (requestTimes id (ops ++ [.changeStatus id status now]))) :
    let c := contentsAfter ops
    let c' := contentsAfter (ops ++ [.changeStatus id status now])
    (sessionAfter ops).database = c.database ∧
      (leftBy (changeStatus id status now) (sessionAfter ops)).database = c'.database ∧
      c'.changes.Pairwise (·.rowid < ·.rowid) ∧
      (c'.changesOf id).IsChain (·.status ≠ ·.status) ∧
      (resultBy (changeStatus id status now) (sessionAfter ops) = .ok () →
        (lastStatus (c'.changesOf id) = some status ↔
          ¬(EndsInTie (c.changesOf id) ∧ lastStatus (c.changesOf id) ≠ some status)) ∧
        (c' = c ∧ (lastStatus (c.changesOf id) = some status ∨ EndsInTie (c.changesOf id)) ∨
          (∃ rowid, c' = c.withChange ⟨rowid, id, now, status⟩) ∧
            lastStatus (c.changesOf id) ≠ some status ∧ ¬EndsInTie (c.changesOf id))) := by
  intro c c'
  have hbefore : NeverDecrease (requestTimes id ops) := by
    rw [requestTimes_append] at htimes
    exact htimes.sublist (List.sublist_append_left _ _)
  have h : IsHistory (c.changesOf id) := isHistory_contentsAfter id ops hbefore
  have hnext : c' = (Operation.changeStatus id status now).next c := contentsAfter_append ops _
  have heffect := effect_changeStatus_after ops id status now
  refine ⟨database_sessionAfter ops, ?_, (sound_contentsAfter _).changes,
    (isHistory_contentsAfter id _ htimes).alternating, fun hok => ?_⟩
  · rw [hnext]
    exact heffect.database_leftBy (saved_sessionAfter ops)
  have hresult : (Operation.changeStatus id status now).result c = .ok () :=
    (heffect.resultBy_eq (saved_sessionAfter ops)).symm.trans hok
  rw [hnext]
  obtain ⟨hcurrent, heq⟩ | ⟨hfree, rowid, heq⟩ := c.changeStatus_ok hresult
  · rw [isCurrent_history h] at hcurrent
    rw [heq]
    refine ⟨⟨fun hlast hlost => hlost.2 hlast, fun hkept => ?_⟩, .inl ⟨rfl, hcurrent⟩⟩
    exact hcurrent.elim (fun hlast => hlast) fun htie => by_contra fun hne => hkept ⟨htie, hne⟩
  · have hrefused := (isCurrent_history h status).not.1 (by rw [hfree]; exact Bool.false_ne_true)
    rw [not_or] at hrefused
    rw [heq, changesOf_withChange, if_pos rfl, lastStatus_append]
    exact ⟨⟨fun _ hlost => hrefused.2 hlost.1, fun _ => rfl⟩, .inr ⟨⟨rowid, rfl⟩, hrefused⟩⟩

/-- A task that was opened and closed, one year after the other. -/
def openedAndClosed : List Operation :=
  [addPlain "pay the rent" 2024, .changeStatus 1 .opened (.newYear 2024),
    .changeStatus 1 .closed (.newYear 2025)]

theorem neverDecrease_newYears (years : List Int)
    (hyears : ∀ year ∈ years, 0 ≤ year ∧ year ≤ 9999) (hordered : years.Pairwise (· ≤ ·)) : NeverDecrease (years.map .newYear) := by
  refine ⟨fun t ht => ?_, List.pairwise_map.2 (hordered.imp fun hle => ?_)⟩
  · obtain ⟨year, hyear, rfl⟩ := List.mem_map.1 ht
    exact Timestamp.isPlain_newYear (hyears year hyear).1 (hyears year hyear).2
  · exact Timestamp.isLE_newYear hle

theorem changeStatus_history_of_openedAndClosed :
    NeverDecrease (requestTimes 1 (openedAndClosed ++ [.changeStatus 1 .opened (.newYear 2026)])) ∧
      resultBy (changeStatus 1 .opened (.newYear 2026)) (sessionAfter openedAndClosed) = .ok () ∧
      lastStatus ((contentsAfter (openedAndClosed ++
        [.changeStatus 1 .opened (.newYear 2026)])).changesOf 1) = some .opened := by
  have htimes : NeverDecrease (requestTimes 1
      (openedAndClosed ++ [.changeStatus 1 .opened (.newYear 2026)])) :=
    neverDecrease_newYears [2024, 2025, 2026] (by decide) (by decide)
  have hok : resultBy (changeStatus 1 .opened (.newYear 2026)) (sessionAfter openedAndClosed) =
      .ok () := by
    rw [(effect_changeStatus_after openedAndClosed 1 .opened (.newYear 2026)).resultBy_eq
      (saved_sessionAfter _)]
    decide
  obtain ⟨-, -, -, -, hnoted⟩ := changeStatus_history openedAndClosed 1 .opened (.newYear 2026) htimes
  exact ⟨htimes, hok, (hnoted hok).1.2 (by decide)⟩

/-- A task that was opened and closed at once. -/
def openedAndClosedAtOnce : List Operation :=
  [addPlain "pay the rent" 2024, .changeStatus 1 .opened (.newYear 2025),
    .changeStatus 1 .closed (.newYear 2025)]

/-- **A request can be lost**: after two changes at one time every request is. -/
theorem changeStatus_lost :
    ¬∀ (ops : List Operation) (id : Int) (status : TaskStatus) (now : Timestamp),
      NeverDecrease (requestTimes id (ops ++ [.changeStatus id status now])) →
      resultBy (changeStatus id status now) (sessionAfter ops) = .ok () →
      let c' := contentsAfter (ops ++ [.changeStatus id status now])
      lastStatus (c'.changesOf id) = some status ∧
        (c'.changesOf id).IsChain (·.status ≠ ·.status) := by
  intro h
  have htimes : NeverDecrease (requestTimes 1
      (openedAndClosedAtOnce ++ [.changeStatus 1 .opened (.newYear 2026)])) :=
    neverDecrease_newYears [2025, 2025, 2026] (by decide) (by decide)
  have hok : resultBy (changeStatus 1 .opened (.newYear 2026))
      (sessionAfter openedAndClosedAtOnce) = .ok () := by
    rw [(effect_changeStatus_after openedAndClosedAtOnce 1 .opened (.newYear 2026)).resultBy_eq
      (saved_sessionAfter _)]
    decide
  have hlast := (h openedAndClosedAtOnce 1 .opened (.newYear 2026) htimes hok).1
  revert hlast
  decide

end Tablewright.Tracker
