/-!
# Timers

A queue holds tasks that are due at a time of a clock counted in milliseconds. The clock moves only
when it is told to, and then every task fires that is due, in the order of the due times; tasks due
at the same time fire in the order in which they were scheduled.
-/

namespace VirtualTerminal

/-- A task and when it is due. Its number tells timers apart and grows with every one scheduled. -/
structure Timer (α : Type u) where
  due : Nat
  seq : Nat
  task : α

/-- A clock and the tasks that wait for it, in the order in which they fire. -/
structure Queue (α : Type u) where
  now : Nat := 0
  nextSeq : Nat := 0
  pending : List (Timer α) := []

namespace Queue

variable {α : Type u}

/-- The last time of the clock. -/
def lastTime : Nat := 0xFFFFFFFFFFFFFFFF

/-- Whether a timer fires before another one. -/
def fires (a b : Timer α) : Bool :=
  a.due < b.due || (a.due == b.due && a.seq < b.seq)

/-- The timers with one more, which goes before the first one that it fires before. -/
def place (t : Timer α) : List (Timer α) → List (Timer α)
  | [] => [t]
  | u :: rest => if fires t u then t :: u :: rest else u :: place t rest

theorem mem_place {t u : Timer α} {ts : List (Timer α)} : u ∈ place t ts ↔ u = t ∨ u ∈ ts := by
  induction ts with
  | nil => simp [place]
  | cons v ts ih =>
    by_cases h : fires t v
    · simp [place, h]
    · simp only [place, h, Bool.false_eq_true, if_false, List.mem_cons, ih]
      constructor
      · rintro (rfl | rfl | h) <;> simp_all
      · rintro (rfl | rfl | h) <;> simp_all

/-- Whether timers are in the order in which they fire. -/
def Ordered (ts : List (Timer α)) : Prop :=
  ts.Pairwise fun a b => fires a b

theorem fires_of_not_fires {a b : Timer α} (hne : a.seq ≠ b.seq) (h : fires a b = false) :
    fires b a := by
  simp only [fires, Bool.or_eq_false_iff, Bool.and_eq_false_iff, decide_eq_false_iff_not,
    beq_eq_false_iff_ne, Bool.or_eq_true, Bool.and_eq_true, decide_eq_true_eq, beq_iff_eq] at h ⊢
  omega

theorem fires_trans {a b c : Timer α} (hab : fires a b) (hbc : fires b c) : fires a c := by
  simp only [fires, Bool.or_eq_true, Bool.and_eq_true, decide_eq_true_eq, beq_iff_eq] at hab hbc ⊢
  omega

theorem ordered_place {t : Timer α} {ts : List (Timer α)} (h : Ordered ts)
    (fresh : ∀ u ∈ ts, u.seq ≠ t.seq) : Ordered (place t ts) := by
  induction ts with
  | nil => exact List.pairwise_singleton ..
  | cons v ts ih =>
    obtain ⟨hv, hts⟩ := List.pairwise_cons.1 h
    have hfresh := fresh v List.mem_cons_self
    by_cases ht : fires t v
    · simp only [place, ht, if_true]
      refine List.pairwise_cons.2 ⟨fun u hu => ?_, h⟩
      rcases List.mem_cons.1 hu with rfl | hu
      · exact ht
      · exact fires_trans ht (hv u hu)
    · simp only [place, ht, Bool.false_eq_true, if_false]
      refine List.pairwise_cons.2 ⟨fun u hu => ?_, ih hts fun u hu =>
        fresh u (List.mem_cons_of_mem _ hu)⟩
      rcases mem_place.1 hu with rfl | hu
      · exact fires_of_not_fires hfresh.symm (by simpa using ht)
      · exact hv u hu

/-- Schedules a task after a delay, at the last time of the clock at the latest. -/
def schedule (q : Queue α) (delay : Nat) (task : α) : Queue α :=
  let t : Timer α := ⟨min (q.now + delay) lastTime, q.nextSeq, task⟩
  { q with nextSeq := q.nextSeq + 1, pending := place t q.pending }

/-- Whether a timer is still pending. -/
def isPending (q : Queue α) (seq : Nat) : Bool :=
  q.pending.any (·.seq == seq)

/-- Drops a pending timer. -/
def cancel (q : Queue α) (seq : Nat) : Queue α :=
  { q with pending := q.pending.filter (·.seq != seq) }

/-- Drops all pending timers. -/
def clear (q : Queue α) : Queue α :=
  { q with pending := [] }

/-- The time at which the next timer is due. -/
def nextDue? (q : Queue α) : Option Nat :=
  q.pending.head?.map (·.due)

/-- Takes the next timer that is due by `target` out of the queue and moves the clock to its due
time. -/
def pop? (q : Queue α) (target : Nat) : Option (Timer α × Queue α) :=
  match q.pending with
  | [] => none
  | t :: rest =>
    if t.due ≤ target then some (t, { q with now := max q.now t.due, pending := rest }) else none

/-- Moves the clock to `target`, if that is later, but never past its last time. -/
def settle (q : Queue α) (target : Nat) : Queue α :=
  { q with now := max q.now (min target lastTime) }

end Queue

end VirtualTerminal
