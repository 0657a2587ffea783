import Mathlib.Data.List.Forall2
import Mathlib.Tactic.Common
import VirtualTerminal.Timer

/-!
# Queues of timers

A queue is valid if its timers stand in the order in which they fire, none of them is overdue, and
their numbers have all been given out once. Every operation keeps a queue valid, and the timer that
a valid queue gives out is due at the very time that the clock then shows (`pop?_now`). Queues with
related tasks stay so, whatever numbers their timers have (`Alike`).
-/

namespace VirtualTerminal.Queue

variable {α : Type u}

/-- Whether the order of firing, the clock and the numbers of a queue fit together. -/
structure Valid (q : Queue α) : Prop where
  ordered : Ordered q.pending
  nodup : (q.pending.map (·.seq)).Nodup
  fresh : ∀ t ∈ q.pending, t.seq < q.nextSeq
  not_overdue : ∀ t ∈ q.pending, q.now ≤ t.due
  due_le : ∀ t ∈ q.pending, t.due ≤ lastTime
  now_le : q.now ≤ lastTime

theorem valid_empty : (({} : Queue α)).Valid where
  ordered := List.Pairwise.nil
  nodup := List.nodup_nil
  fresh := by simp
  not_overdue := by simp
  due_le := by simp
  now_le := Nat.zero_le _

theorem fires_iff {a b : Timer α} :
    fires a b = true ↔ a.due < b.due ∨ a.due = b.due ∧ a.seq < b.seq := by
  simp [fires]

theorem due_le_of_fires {a b : Timer α} (h : fires a b = true) : a.due ≤ b.due := by
  rw [fires_iff] at h
  omega

theorem not_fires_of_fires {a b : Timer α} (h : fires a b = true) : ¬ fires b a = true := by
  rw [fires_iff] at h ⊢
  omega

theorem place_perm (t : Timer α) (ts : List (Timer α)) : (place t ts).Perm (t :: ts) := by
  induction ts with
  | nil => exact List.Perm.refl _
  | cons u ts ih =>
    unfold place
    split
    · exact List.Perm.refl _
    · exact (ih.cons u).trans (List.Perm.swap t u ts)

/-! ## Scheduling and dropping -/

/-- The timer that scheduling a task adds. -/
def nextTimer (q : Queue α) (delay : Nat) (task : α) : Timer α :=
  ⟨min (q.now + delay) lastTime, q.nextSeq, task⟩

theorem pending_schedule (q : Queue α) (delay : Nat) (task : α) :
    (q.schedule delay task).pending = place (q.nextTimer delay task) q.pending := rfl

theorem mem_schedule {q : Queue α} {delay : Nat} {task : α} {t : Timer α} :
    t ∈ (q.schedule delay task).pending ↔ t = q.nextTimer delay task ∨ t ∈ q.pending :=
  mem_place

theorem Valid.now_le_nextTimer {q : Queue α} (h : q.Valid) (delay : Nat) (task : α) :
    q.now ≤ (q.nextTimer delay task).due :=
  Nat.le_min.mpr ⟨Nat.le_add_right _ _, h.now_le⟩

theorem Valid.schedule {q : Queue α} (h : q.Valid) (delay : Nat) (task : α) :
    (q.schedule delay task).Valid where
  ordered := ordered_place h.ordered fun u hu => Nat.ne_of_lt (h.fresh u hu)
  nodup := by
    rw [pending_schedule, ((place_perm _ _).map _).nodup_iff, List.map_cons, List.nodup_cons]
    refine ⟨fun hmem => ?_, h.nodup⟩
    obtain ⟨u, hu, heq⟩ := List.mem_map.mp hmem
    exact absurd heq (Nat.ne_of_lt (h.fresh u hu))
  fresh t ht := by
    rcases mem_schedule.mp ht with rfl | ht
    · exact Nat.lt_succ_self _
    · exact Nat.lt_succ_of_lt (h.fresh t ht)
  not_overdue t ht := by
    rcases mem_schedule.mp ht with rfl | ht
    · exact h.now_le_nextTimer delay task
    · exact h.not_overdue t ht
  due_le t ht := by
    rcases mem_schedule.mp ht with rfl | ht
    · exact Nat.min_le_right _ _
    · exact h.due_le t ht
  now_le := h.now_le

/-- Dropping timers keeps a queue valid. -/
theorem Valid.sublist {q : Queue α} (h : q.Valid) {ts : List (Timer α)}
    (hs : ts.Sublist q.pending) : ({ q with pending := ts } : Queue α).Valid where
  ordered := h.ordered.sublist hs
  nodup := (hs.map _).nodup h.nodup
  fresh t ht := h.fresh t (hs.subset ht)
  not_overdue t ht := h.not_overdue t (hs.subset ht)
  due_le t ht := h.due_le t (hs.subset ht)
  now_le := h.now_le

theorem Valid.cancel {q : Queue α} (h : q.Valid) (seq : Nat) : (q.cancel seq).Valid :=
  h.sublist List.filter_sublist

theorem Valid.clear {q : Queue α} (h : q.Valid) : q.clear.Valid :=
  h.sublist (List.nil_sublist _)

/-! ## Some of the timers -/

section Filter

variable {p : Timer α → Bool} {t : Timer α} {ts : List (Timer α)}

theorem place_cons (t u : Timer α) (ts : List (Timer α)) :
    place t (u :: ts) = if fires t u then t :: u :: ts else u :: place t ts := rfl

theorem filter_place_of_neg (ht : p t = false) : (place t ts).filter p = ts.filter p := by
  induction ts with
  | nil => simp [place, ht]
  | cons u ts ih =>
    rw [place_cons]
    split
    · rw [List.filter_cons, if_neg (Bool.eq_false_iff.mp ht)]
    · rw [List.filter_cons, List.filter_cons, ih]

/-- A timer goes to the same place among some of the timers as among all of them. -/
theorem filter_place_of_pos (ht : p t = true) (hts : Ordered ts) :
    (place t ts).filter p = place t (ts.filter p) := by
  induction ts with
  | nil => simp [place, ht]
  | cons u ts ih =>
    obtain ⟨hu, hts⟩ := List.pairwise_cons.mp hts
    rw [place_cons]
    split
    next hfires =>
      rw [List.filter_cons, if_pos ht]
      cases hp : p u with
      | true => rw [List.filter_cons, if_pos hp, place_cons, if_pos hfires]
      | false =>
        -- the timers that are left fire after the one that is left out
        rw [List.filter_cons, if_neg (Bool.eq_false_iff.mp hp)]
        cases hrest : ts.filter p with
        | nil => rfl
        | cons v rest =>
          have hv : v ∈ ts := List.mem_of_mem_filter (hrest ▸ List.mem_cons_self)
          rw [place_cons, if_pos (fires_trans hfires (hu v hv))]
    next hfires =>
      rw [List.filter_cons, ih hts, List.filter_cons]
      split
      · rw [place_cons, if_neg hfires]
      · rfl

end Filter

/-! ## Firing and moving the clock -/

theorem pop?_eq_some_iff {q q' : Queue α} {target : Nat} {t : Timer α} :
    q.pop? target = some (t, q') ↔
      t.due ≤ target ∧ q.pending = t :: q'.pending ∧ q'.now = max q.now t.due ∧
        q'.nextSeq = q.nextSeq := by
  unfold pop?
  cases hq : q.pending with
  | nil => simp
  | cons u rest =>
    by_cases hdue : u.due ≤ target
    · simp only [hdue, if_true, Option.some.injEq, Prod.mk.injEq, List.cons.injEq]
      constructor
      · rintro ⟨rfl, rfl⟩
        exact ⟨hdue, ⟨rfl, rfl⟩, rfl, rfl⟩
      · rintro ⟨-, ⟨rfl, rfl⟩, hnow, hseq⟩
        refine ⟨rfl, ?_⟩
        cases q'
        simp_all
    · simp only [hdue, if_false, reduceCtorEq, List.cons.injEq, false_iff]
      rintro ⟨hle, ⟨rfl, -⟩, -⟩
      exact hdue hle

theorem pop?_eq_none_iff {q : Queue α} {target : Nat} :
    q.pop? target = none ↔ ∀ t ∈ q.pending.head?, target < t.due := by
  unfold pop?
  cases q.pending with
  | nil => simp
  | cons u rest => simp

/-- A queue whose first timer is not due has no timer that is due. -/
theorem Valid.lt_due_of_pop?_eq_none {q : Queue α} (h : q.Valid) {target : Nat}
    (hpop : q.pop? target = none) : ∀ t ∈ q.pending, target < t.due := by
  rw [pop?_eq_none_iff] at hpop
  have hord := h.ordered
  intro t ht
  cases hq : q.pending with
  | nil =>
    rw [hq] at ht
    cases ht
  | cons u rest =>
    rw [hq] at hpop hord ht
    have hu : target < u.due := hpop u rfl
    rcases List.mem_cons.mp ht with rfl | ht
    · exact hu
    · exact Nat.lt_of_lt_of_le hu (due_le_of_fires ((List.pairwise_cons.mp hord).1 t ht))

/-- A timer is given out at the time at which it is due. -/
theorem Valid.pop?_now {q q' : Queue α} (h : q.Valid) {target : Nat} {t : Timer α}
    (hpop : q.pop? target = some (t, q')) : q'.now = t.due := by
  obtain ⟨-, hq, hnow, -⟩ := pop?_eq_some_iff.mp hpop
  rw [hnow, Nat.max_eq_right]
  exact h.not_overdue t (by rw [hq]; exact List.mem_cons_self)

theorem Valid.fires_of_pop? {q q' : Queue α} (h : q.Valid) {target : Nat} {t : Timer α}
    (hpop : q.pop? target = some (t, q')) : ∀ u ∈ q'.pending, fires t u = true := by
  obtain ⟨-, hq, -⟩ := pop?_eq_some_iff.mp hpop
  have hord := h.ordered
  rw [hq] at hord
  exact (List.pairwise_cons.mp hord).1

theorem Valid.pop? {q q' : Queue α} (h : q.Valid) {target : Nat} {t : Timer α}
    (hpop : q.pop? target = some (t, q')) : q'.Valid := by
  obtain ⟨-, hq, -, hseq⟩ := pop?_eq_some_iff.mp hpop
  have hsub : q'.pending.Sublist q.pending := by rw [hq]; exact List.sublist_cons_self t _
  have ht : t ∈ q.pending := by rw [hq]; exact List.mem_cons_self
  have hrest := h.sublist hsub
  refine ⟨hrest.ordered, hrest.nodup, ?_, ?_, hrest.due_le, ?_⟩
  · rw [hseq]
    exact hrest.fresh
  · intro u hu
    rw [h.pop?_now hpop]
    exact due_le_of_fires (h.fires_of_pop? hpop u hu)
  · rw [h.pop?_now hpop]
    exact h.due_le t ht

theorem Valid.settle {q : Queue α} (h : q.Valid) {target : Nat} (hpop : q.pop? target = none) :
    (q.settle target).Valid := by
  refine ⟨h.ordered, h.nodup, h.fresh, ?_, h.due_le, ?_⟩
  · intro t ht
    have hlt := h.lt_due_of_pop?_eq_none hpop t ht
    have hle := h.not_overdue t ht
    show max q.now (min target lastTime) ≤ t.due
    omega
  · have hle := h.now_le
    show max q.now (min target lastTime) ≤ lastTime
    omega

/-! ## Moving the clock in steps -/

section Settle

variable {q q' : Queue α} {a b : Nat} {t : Timer α}

theorem pop?_mono (hab : a ≤ b) (hpop : q.pop? a = some (t, q')) : q.pop? b = some (t, q') := by
  rw [pop?_eq_some_iff] at hpop ⊢
  exact ⟨Nat.le_trans hpop.1 hab, hpop.2⟩

/-- A queue whose clock has been moved gives out the same timers at the same times. -/
theorem pop?_settle (hpop : q.pop? a = none) (b : Nat) : (q.settle a).pop? b = q.pop? b := by
  rw [pop?_eq_none_iff] at hpop
  unfold settle pop?
  cases hq : q.pending with
  | nil => rfl
  | cons u rest =>
    have hu : a < u.due := hpop u (by rw [hq]; rfl)
    have hnow : max (max q.now (min a lastTime)) u.due = max q.now u.due := by omega
    simp only [hnow]

theorem settle_settle (q : Queue α) (hab : a ≤ b) : (q.settle a).settle b = q.settle b := by
  have hnow : max (max q.now (min a lastTime)) (min b lastTime) = max q.now (min b lastTime) := by
    omega
  unfold settle
  simp only [hnow]

end Settle

/-! ## Queues with related tasks -/

section Alike

variable {β : Type v} {R : α → β → Prop} {q : Queue α} {q' : Queue β}

/-- Whether two timers are due at the same time, for related tasks. -/
def Paired (R : α → β → Prop) (t : Timer α) (u : Timer β) : Prop :=
  t.due = u.due ∧ R t.task u.task

/-- Whether two queues have the same time and related tasks, due at the same times. -/
structure Alike (R : α → β → Prop) (q : Queue α) (q' : Queue β) : Prop where
  now : q.now = q'.now
  pending : List.Forall₂ (Paired R) q.pending q'.pending
  fresh : ∀ t ∈ q.pending, t.seq < q.nextSeq
  fresh' : ∀ u ∈ q'.pending, u.seq < q'.nextSeq

/-- A timer scheduled last fires before those only that are due later. -/
theorem fires_of_seq_lt {a b : Timer α} (h : b.seq < a.seq) : fires a b = decide (a.due < b.due) := by
  rw [Bool.eq_iff_iff, fires_iff, decide_eq_true_iff]
  omega

theorem forall₂_place {t : Timer α} {u : Timer β} (htu : Paired R t u) {ts : List (Timer α)}
    {us : List (Timer β)} (h : List.Forall₂ (Paired R) ts us) (hts : ∀ a ∈ ts, a.seq < t.seq)
    (hus : ∀ b ∈ us, b.seq < u.seq) : List.Forall₂ (Paired R) (place t ts) (place u us) := by
  induction h with
  | nil => exact .cons htu .nil
  | @cons a b ts us hab hrest ih =>
    obtain ⟨ha, hts⟩ := List.forall_mem_cons.mp hts
    obtain ⟨hb, hus⟩ := List.forall_mem_cons.mp hus
    unfold place
    rw [fires_of_seq_lt ha, fires_of_seq_lt hb, htu.1, hab.1]
    split
    · exact .cons htu (.cons hab hrest)
    · exact .cons hab (ih hts hus)

theorem Alike.schedule (h : q.Alike R q') (delay : Nat) {task : α} {task' : β}
    (htask : R task task') : (q.schedule delay task).Alike R (q'.schedule delay task') where
  now := h.now
  pending := by
    refine forall₂_place ⟨?_, htask⟩ h.pending h.fresh h.fresh'
    rw [h.now]
  fresh t ht := by
    rcases mem_schedule.mp ht with rfl | ht
    · exact Nat.lt_succ_self _
    · exact Nat.lt_succ_of_lt (h.fresh t ht)
  fresh' u hu := by
    rcases mem_schedule.mp hu with rfl | hu
    · exact Nat.lt_succ_self _
    · exact Nat.lt_succ_of_lt (h.fresh' u hu)

theorem Alike.settle (h : q.Alike R q') (target : Nat) :
    (q.settle target).Alike R (q'.settle target) := by
  refine ⟨?_, h.pending, h.fresh, h.fresh'⟩
  show max q.now _ = max q'.now _
  rw [h.now]

/-- Queues without timers are alike at the same time. -/
theorem alike_of_empty (hnow : q.now = q'.now) (hq : q.pending = []) (hq' : q'.pending = []) :
    q.Alike R q' := by
  refine ⟨hnow, ?_, ?_, ?_⟩
  · rw [hq, hq']
    exact .nil
  · rw [hq]
    exact List.forall_mem_nil _
  · rw [hq']
    exact List.forall_mem_nil _

theorem Alike.pop?_eq_none (h : q.Alike R q') {target : Nat} (hpop : q.pop? target = none) :
    q'.pop? target = none := by
  rw [pop?_eq_none_iff] at hpop ⊢
  have hpending := h.pending
  generalize q.pending = ts at hpop hpending
  generalize q'.pending = us at hpending
  cases hpending with
  | nil => exact fun _ hu => nomatch hu
  | cons htu _ =>
    rintro _ ⟨⟩
    rw [← htu.1]
    exact hpop _ rfl

/-- Queues that are alike give out related tasks. -/
theorem Alike.pop?_eq_some (h : q.Alike R q') {target : Nat} {t : Timer α} {p : Queue α}
    (hpop : q.pop? target = some (t, p)) :
    ∃ u p', q'.pop? target = some (u, p') ∧ R t.task u.task ∧ p.Alike R p' := by
  obtain ⟨hdue, hq, hnow, hseq⟩ := pop?_eq_some_iff.mp hpop
  have hpending := h.pending
  have hfresh := h.fresh
  rw [hq] at hpending hfresh
  obtain ⟨u, us, htu, hrest, hq'⟩ := List.forall₂_cons_left_iff.mp hpending
  have hfresh' := h.fresh'
  rw [hq'] at hfresh'
  refine ⟨u, { q' with now := max q'.now u.due, pending := us },
    pop?_eq_some_iff.mpr ⟨htu.1 ▸ hdue, hq', rfl, rfl⟩, htu.2, ?_, hrest, ?_, ?_⟩
  · rw [hnow, h.now, htu.1]
  · rw [hseq]
    exact (List.forall_mem_cons.mp hfresh).2
  · exact (List.forall_mem_cons.mp hfresh').2

end Alike

end VirtualTerminal.Queue
