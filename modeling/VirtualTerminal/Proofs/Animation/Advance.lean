import Mathlib.Algebra.Group.Action.Defs
import Mathlib.Algebra.Order.BigOperators.Group.List
import Mathlib.Algebra.Order.Ring.Nat
import Mathlib.Tactic.Common
import VirtualTerminal.Proofs.Animation.Settled

/-!
# Moving the clock of a stage

On a settled stage only so many timers fire before a time: each firing lowers a budget
(`budget_fired_lt`), since the next picture is due later, or, at the last time of the clock, after the
timer that ends its animation. So `advanceTo` fires all timers that are due, and moving the clock in
steps leaves the stage that one move leaves (`Settled.advanceTo_advanceTo`). Before the last time of the
clock, animations that go on forever do no harm (`SettledBut.advanceTo`).
-/

namespace VirtualTerminal.Animation.Stage

/-! ## Firing all timers that are due -/

/-- Firing timers until none is due by `target`: the stages before and after it and the number of
firings. -/
inductive Drains (target : Nat) : Stage → Nat → Stage → Prop where
  | arrive {s : Stage} (hpop : s.timers.pop? target = none) :
    Drains target s 0 { s with timers := s.timers.settle target }
  | fire {s s' : Stage} {n : Nat} {t : Timer Cue} {timers : Queue Cue}
    (hpop : s.timers.pop? target = some (t, timers)) (hrest : Drains target (s.fired t timers) n s') :
    Drains target s (n + 1) s'

/-- Firing what is due by `a` and then by `b` is firing what is due by `b`. -/
theorem Drains.trans {a b n m : Nat} {s s₁ s₂ : Stage} (hab : a ≤ b) (h₁ : Drains a s n s₁)
    (h₂ : Drains b s₁ m s₂) : Drains b s (n + m) s₂ := by
  induction h₁ with
  | arrive hpop =>
    rw [Nat.zero_add]
    cases h₂ with
    | arrive hpop' =>
      rw [Queue.pop?_settle hpop] at hpop'
      rw [Queue.settle_settle _ hab]
      exact .arrive hpop'
    | fire hpop' hrest =>
      rw [Queue.pop?_settle hpop] at hpop'
      exact .fire hpop' hrest
  | fire hpop _ ih =>
    rw [Nat.add_right_comm]
    exact .fire (Queue.pop?_mono hab hpop) (ih h₂)

theorem Drains.deterministic {target n m : Nat} {s s₁ s₂ : Stage} (h₁ : Drains target s n s₁)
    (h₂ : Drains target s m s₂) : n = m ∧ s₁ = s₂ := by
  induction h₁ generalizing m s₂ with
  | arrive hpop =>
    cases h₂ with
    | arrive => exact ⟨rfl, rfl⟩
    | fire hpop' => rw [hpop] at hpop'; cases hpop'
  | fire hpop _ ih =>
    cases h₂ with
    | arrive hpop' => rw [hpop] at hpop'; cases hpop'
    | fire hpop' hrest =>
      rw [hpop] at hpop'
      cases hpop'
      obtain ⟨rfl, rfl⟩ := ih hrest
      exact ⟨rfl, rfl⟩

/-- Fuel for all firings finds them. -/
theorem Drains.advanceFuel_eq {target n : Nat} {s s' : Stage} (h : Drains target s n s') :
    ∀ fuel count, n ≤ fuel → advanceFuel target fuel count s = (count + n, s') := by
  induction h with
  | arrive hpop =>
    intro fuel count _
    cases fuel with
    | zero => rfl
    | succ fuel =>
      unfold advanceFuel
      rw [hpop]
      rfl
  | fire hpop _ ih =>
    intro fuel count hle
    cases fuel with
    | zero => exact absurd hle (Nat.not_succ_le_zero _)
    | succ fuel =>
      unfold advanceFuel
      rw [hpop]
      show advanceFuel target fuel (count + 1) _ = _
      refine (ih fuel (count + 1) (Nat.le_of_succ_le_succ hle)).trans ?_
      rw [Nat.add_right_comm, Nat.add_assoc]

/-! ## The budget of firings -/

/-- Whether a timer schedules another one when it fires, as far as the pending timers tell: it paints
a picture of an animation that none of them ends before. -/
def repeats (s : Stage) (t : Timer Cue) : Bool :=
  match t.task with
  | .picture h .. =>
    s.isActive h && s.timers.pending.all fun u => endedBy? u.task != some h || !Queue.fires u t
  | _ => false

/-- A bound for the firings by `target` that a timer leads to. -/
def rounds (s : Stage) (target : Nat) (t : Timer Cue) : Nat :=
  if t.due ≤ target then min target Queue.lastTime - t.due + (if s.repeats t then 2 else 1) else 0

/-- A bound for the firings by `target`. -/
def budget (s : Stage) (target : Nat) : Nat :=
  (s.timers.pending.map (s.rounds target)).sum

theorem repeats_iff {s : Stage} {t : Timer Cue} :
    s.repeats t = true ↔ ∃ h painter count start delay, t.task = .picture h painter count start delay ∧
      s.isActive h = true ∧
        ∀ u ∈ s.timers.pending, endedBy? u.task = some h → ¬ Queue.fires u t = true := by
  unfold repeats
  cases ht : t.task with
  | picture h painter count start delay =>
    simp only [Bool.and_eq_true, List.all_eq_true, Bool.or_eq_true, bne_iff_ne,
      Bool.not_eq_true', Cue.picture.injEq]
    constructor
    · rintro ⟨hactive, hall⟩
      refine ⟨h, painter, count, start, delay, ⟨rfl, rfl, rfl, rfl, rfl⟩, hactive, ?_⟩
      intro u hu hends hfires
      rcases hall u hu with hne | hnot
      · exact hne hends
      · rw [hfires] at hnot
        cases hnot
    · rintro ⟨_, _, _, _, _, ⟨rfl, rfl, rfl, rfl, rfl⟩, hactive, hall⟩
      refine ⟨hactive, fun u hu => ?_⟩
      by_cases hends : endedBy? u.task = some h
      · exact .inr (by simpa using hall u hu hends)
      · exact .inl hends
  | lines h ls => simp
  | finish h last => simp

theorem rounds_le (s : Stage) (target : Nat) (t : Timer Cue) :
    s.rounds target t ≤ min target Queue.lastTime - t.due + 2 := by
  unfold rounds
  split
  · split <;> omega
  · omega

theorem rounds_le_rounds {s s' : Stage} {t : Timer Cue}
    (h : s'.repeats t = true → s.repeats t = true) (target : Nat) :
    s'.rounds target t ≤ s.rounds target t := by
  unfold rounds
  by_cases hdue : t.due ≤ target
  · rw [if_pos hdue, if_pos hdue]
    by_cases hrepeats : s'.repeats t = true
    · rw [if_pos hrepeats, if_pos (h hrepeats)]
    · rw [if_neg hrepeats]
      split <;> omega
  · rw [if_neg hdue]
    exact Nat.zero_le _

theorem budget_le {spared : Handle → Prop} {s : Stage} (hs : s.SettledBut spared) (target : Nat) :
    s.budget target ≤ s.timers.pending.length * (target - s.timers.now + 2) := by
  unfold budget
  have hle : ∀ n ∈ s.timers.pending.map (s.rounds target), n ≤ target - s.timers.now + 2 := by
    intro n hn
    obtain ⟨t, ht, rfl⟩ := List.mem_map.mp hn
    have hrounds := s.rounds_le target t
    have hdue := hs.valid.not_overdue t ht
    omega
  have hsum := List.sum_le_card_nsmul _ _ hle
  rwa [List.length_map, smul_eq_mul] at hsum

section Fire

variable {spared : Handle → Prop} {s : Stage} {target : Nat} {t : Timer Cue} {timers : Queue Cue}

/-- A timer that repeats after a firing has repeated before it. -/
theorem repeats_of_repeats_fired (hpop : s.timers.pop? target = some (t, timers)) {u : Timer Cue}
    (h : (s.fired t timers).repeats u = true) : s.repeats u = true := by
  obtain ⟨-, hpending, -⟩ := Queue.pop?_eq_some_iff.mp hpop
  obtain ⟨g, painter, count, start, delay, htask, hactive, hall⟩ := repeats_iff.mp h
  refine repeats_iff.mpr ⟨g, painter, count, start, delay, htask,
    (s.quietens_fired t timers).isActive hactive, ?_⟩
  intro w hw hends
  rw [hpending] at hw
  rcases List.mem_cons.mp hw with rfl | hw
  · -- the timer that has fired has ended the animation
    rw [show (s.fired w timers).isActive g = false from isActive_play_of_endedBy? hends] at hactive
    cases hactive
  · exact hall w (pending_subset_play { s with timers := timers } _ hw) hends

/-- The next picture of an animation leads to fewer firings than the one that has fired. -/
theorem rounds_next_lt (hs : s.SettledBut spared)
    (hspared : ∀ h, spared h → target < Queue.lastTime)
    (hpop : s.timers.pop? target = some (t, timers)) {h : Handle} {painter : Painter} {count start delay : Nat}
    (htask : t.task = .picture h painter count start delay) (hactive : s.isActive h = true) :
    (s.fired t timers).rounds target
        (timers.nextTimer delay (.picture h painter (count + 1) start delay)) <
      s.rounds target t := by
  obtain ⟨hdue, hpending, -, hnext⟩ := Queue.pop?_eq_some_iff.mp hpop
  have hnow := hs.valid.pop?_now hpop
  have hmem : t ∈ s.timers.pending := by rw [hpending]; exact List.mem_cons_self
  obtain ⟨hpos, hend⟩ := hs.repeats t hmem h painter count start delay htask
  have hlast := hs.valid.due_le t hmem
  -- no timer fires before the one that has fired
  have hrepeats : s.repeats t = true := by
    refine repeats_iff.mpr ⟨h, painter, count, start, delay, htask, hactive, fun u hu hends => ?_⟩
    rw [hpending] at hu
    rcases List.mem_cons.mp hu with rfl | hu
    · rw [Queue.fires_iff]
      omega
    · exact Queue.not_fires_of_fires (hs.valid.fires_of_pop? hpop u hu)
  have hbefore : s.rounds target t = min target Queue.lastTime - t.due + 2 := by
    unfold rounds
    rw [if_pos hdue, if_pos hrepeats]
  generalize hv : timers.nextTimer delay (.picture h painter (count + 1) start delay) = v
  have hvdue : v.due = min (t.due + delay) Queue.lastTime := by rw [← hv, ← hnow]; rfl
  have hvseq : v.seq = s.timers.nextSeq := by rw [← hv, ← hnext]; rfl
  have hvtask : v.task = .picture h painter (count + 1) start delay := by rw [← hv]; rfl
  rw [hbefore]
  by_cases htime : t.due < Queue.lastTime
  · -- the next picture is due later
    by_cases hvtarget : v.due ≤ target
    · have hle := (s.fired t timers).rounds_le target v
      omega
    · unfold rounds
      rw [if_neg hvtarget]
      omega
  · -- at the last time of the clock, the animation is ended before its next picture
    have hnot : ¬ (s.fired t timers).repeats v = true := by
      rw [repeats_iff]
      rintro ⟨g, _, _, _, _, hg, -, hall⟩
      rw [hvtask] at hg
      cases hg
      rcases hend with hspare | hinactive | ⟨u, hu, hends⟩
      · exact htime (Nat.lt_of_le_of_lt hdue (hspared h hspare))
      · rw [hactive] at hinactive
        cases hinactive
      · have hudue := hs.valid.due_le u hu
        have huseq := hs.valid.fresh u hu
        rw [hpending] at hu
        rcases List.mem_cons.mp hu with rfl | hu
        · rw [htask] at hends
          cases hends
        · have hafter := Queue.due_le_of_fires (hs.valid.fires_of_pop? hpop u hu)
          refine hall u (pending_subset_play { s with timers := timers } _ hu) hends ?_
          rw [Queue.fires_iff]
          omega
    unfold rounds
    rw [if_neg hnot]
    split <;> omega

/-- Every firing lowers the budget. -/
theorem budget_fired_lt (hs : s.SettledBut spared) (hspared : ∀ h, spared h → target < Queue.lastTime)
    (hpop : s.timers.pop? target = some (t, timers)) :
    (s.fired t timers).budget target < s.budget target := by
  obtain ⟨hdue, hpending, -⟩ := Queue.pop?_eq_some_iff.mp hpop
  have hrest : (timers.pending.map ((s.fired t timers).rounds target)).sum ≤
      (timers.pending.map (s.rounds target)).sum :=
    List.sum_le_sum fun u _ => rounds_le_rounds (repeats_of_repeats_fired hpop) target
  have hbefore : s.budget target =
      s.rounds target t + (timers.pending.map (s.rounds target)).sum := by
    unfold budget
    rw [hpending, List.map_cons, List.sum_cons]
  rw [hbefore]
  rcases play_timers { s with timers := timers } t.task with
    heq | ⟨h, painter, count, start, delay, htask, hactive, heq⟩
  · have hpos : 0 < s.rounds target t := by
      unfold rounds
      rw [if_pos hdue]
      split <;> omega
    have hafter : (s.fired t timers).budget target =
        (timers.pending.map ((s.fired t timers).rounds target)).sum := by
      show ((s.fired t timers).timers.pending.map _).sum = _
      rw [show (s.fired t timers).timers = timers from heq]
    omega
  · have hlt := rounds_next_lt hs hspared hpop htask hactive
    have hafter : (s.fired t timers).budget target =
        (s.fired t timers).rounds target
            (timers.nextTimer delay (.picture h painter (count + 1) start delay)) +
          (timers.pending.map ((s.fired t timers).rounds target)).sum := by
      show ((s.fired t timers).timers.pending.map _).sum = _
      rw [show (s.fired t timers).timers = _ from heq, Queue.pending_schedule,
        ((Queue.place_perm _ _).map _).sum_eq, List.map_cons, List.sum_cons]
    omega

end Fire

/-! ## Moving the clock -/

section Move

variable {spared : Handle → Prop} {s : Stage} {target : Nat}

theorem SettledBut.settle (hs : s.SettledBut spared) (hpop : s.timers.pop? target = none) :
    ({ s with timers := s.timers.settle target } : Stage).SettledBut spared :=
  ⟨hs.valid.settle hpop, hs.frameDelay_pos, hs.repeats⟩

/-- As many firings as the budget allows leave no timer that is due. -/
theorem exists_drains (k : Nat) (hs : s.SettledBut spared)
    (hspared : ∀ h, spared h → target < Queue.lastTime) (hk : s.budget target ≤ k) :
    ∃ n s', n ≤ k ∧ Drains target s n s' ∧ s'.SettledBut spared := by
  induction k generalizing s with
  | zero =>
    cases hpop : s.timers.pop? target with
    | none => exact ⟨0, _, Nat.zero_le _, .arrive hpop, hs.settle hpop⟩
    | some r =>
      have hlt := budget_fired_lt hs hspared hpop
      omega
  | succ k ih =>
    cases hpop : s.timers.pop? target with
    | none => exact ⟨0, _, Nat.zero_le _, .arrive hpop, hs.settle hpop⟩
    | some r =>
      obtain ⟨t, timers⟩ := r
      have hlt := budget_fired_lt hs hspared hpop
      obtain ⟨n, s', hn, hdrains, hs'⟩ := ih (hs.fired hpop) (by omega)
      exact ⟨n + 1, s', Nat.succ_le_succ hn, .fire hpop hdrains, hs'⟩

/-- Moving the clock fires all timers that are due and keeps a stage settled. Animations that do not end
are allowed for if the clock does not get to its last time. -/
theorem SettledBut.advanceTo (hs : s.SettledBut spared)
    (hspared : ∀ h, spared h → target < Queue.lastTime) :
    Drains target s (s.advanceTo target).1 (s.advanceTo target).2 ∧
      (s.advanceTo target).2.SettledBut spared := by
  obtain ⟨n, s', hn, hdrains, hs'⟩ := exists_drains _ hs hspared (Nat.le_refl (s.budget target))
  have hfuel : n ≤ s.timers.pending.length * (target - s.timers.now + 3) + 1 := by
    have hbudget := budget_le hs target
    have hmul : s.timers.pending.length * (target - s.timers.now + 2) ≤
        s.timers.pending.length * (target - s.timers.now + 3) :=
      Nat.mul_le_mul_left _ (Nat.le_succ _)
    omega
  have heq : s.advanceTo target = (n, s') := by
    unfold Stage.advanceTo
    rw [hdrains.advanceFuel_eq _ 0 hfuel, Nat.zero_add]
  rw [heq]
  exact ⟨hdrains, hs'⟩

end Move

theorem Settled.advanceTo {s : Stage} (hs : s.Settled) (target : Nat) :
    Drains target s (s.advanceTo target).1 (s.advanceTo target).2 ∧
      (s.advanceTo target).2.Settled :=
  SettledBut.advanceTo hs fun _ h => h.elim

/-- Each timer leads to at most one firing a millisecond, and one more. -/
theorem Settled.firings_le {s : Stage} (hs : s.Settled) (target : Nat) :
    (s.advanceTo target).1 ≤ s.timers.pending.length * (target - s.timers.now + 2) := by
  obtain ⟨n, s', hn, hdrains, -⟩ :=
    exists_drains _ hs (fun _ h => h.elim) (Nat.le_refl (s.budget target))
  obtain ⟨heq, -⟩ := (hs.advanceTo target).1.deterministic hdrains
  rw [heq]
  exact Nat.le_trans hn (budget_le hs target)

/-- Moving the clock to `a` and then to `b` leaves the stage that moving it to `b` leaves, and as many
timers fire. -/
theorem Settled.advanceTo_advanceTo {s : Stage} (hs : s.Settled) {a b : Nat} (hab : a ≤ b) :
    s.advanceTo b = ((s.advanceTo a).1 + ((s.advanceTo a).2.advanceTo b).1,
      ((s.advanceTo a).2.advanceTo b).2) := by
  obtain ⟨ha, hsa⟩ := hs.advanceTo a
  obtain ⟨hb, -⟩ := hsa.advanceTo b
  obtain ⟨hab', -⟩ := hs.advanceTo b
  obtain ⟨hcount, hstage⟩ := hab'.deterministic (ha.trans hab hb)
  exact Prod.ext hcount hstage

/-! ## Clocks that arrive -/

section Arrive

variable {s s' : Stage}

/-- Whether moving the clock comes back. Before the last time of the clock it always does; there it does
once no timer is due any more, which never happens if an animation goes on for ever. -/
def Arrives (s : Stage) (target : Nat) : Prop :=
  target < Queue.lastTime ∨ (s.advanceTo target).2.timers.pop? target = none

theorem Drains.settledBut {spared : Handle → Prop} {target n : Nat} (h : Drains target s n s')
    (hs : s.SettledBut spared) : s'.SettledBut spared := by
  induction h with
  | arrive hpop => exact hs.settle hpop
  | fire hpop _ ih => exact ih (hs.fired hpop)

theorem Drains.pop?_eq_none {target n : Nat} (h : Drains target s n s') :
    s'.timers.pop? target = none := by
  induction h with
  | arrive hpop => rw [Queue.pop?_settle hpop, hpop]
  | fire _ _ ih => exact ih

/-- If no timer is due any more, all have fired that were. -/
theorem drains_of_advanceFuel {target fuel count : Nat}
    (hpop : (advanceFuel target fuel count s).2.timers.pop? target = none) :
    ∃ n ≤ fuel, Drains target s n (advanceFuel target fuel count s).2 := by
  induction fuel generalizing s count with
  | zero =>
    -- moving the clock leaves the timers as they are
    have hsettled : (s.timers.settle target).pop? target = none := hpop
    have hhead := Queue.pop?_eq_none_iff.mp hsettled
    exact ⟨0, Nat.le_refl 0, .arrive (Queue.pop?_eq_none_iff.mpr hhead)⟩
  | succ fuel ih =>
    unfold advanceFuel at hpop ⊢
    cases hnext : s.timers.pop? target with
    | none => exact ⟨0, Nat.zero_le _, .arrive hnext⟩
    | some r =>
      rw [hnext] at hpop
      obtain ⟨n, hn, hdrains⟩ := ih hpop
      exact ⟨n + 1, Nat.succ_le_succ hn, .fire hnext hdrains⟩

/-- The firings that `advanceTo` has fuel for. -/
def fuelTo (s : Stage) (target : Nat) : Nat :=
  s.timers.pending.length * (target - s.timers.now + 3) + 1

theorem Drains.advanceTo_eq {target n : Nat} (h : Drains target s n s') (hn : n ≤ s.fuelTo target) :
    s.advanceTo target = (n, s') := by
  show advanceFuel target (s.fuelTo target) 0 s = _
  rw [h.advanceFuel_eq _ 0 hn, Nat.zero_add]

/-- A stage is going if its timers are in order and no picture follows another one at once. Its animations
may go on for ever. -/
abbrev Going (s : Stage) : Prop :=
  s.SettledBut fun _ => True

/-- If moving the clock comes back, all timers have fired that were due. -/
theorem Going.drains (hs : s.Going) {target : Nat} (h : s.Arrives target) :
    ∃ n ≤ s.fuelTo target, Drains target s n (s.advanceTo target).2 := by
  refine drains_of_advanceFuel ?_
  rcases h with hlt | hpop
  · exact (hs.advanceTo fun _ _ => hlt).1.pop?_eq_none
  · exact hpop

theorem Going.advanceTo (hs : s.Going) {target : Nat} (h : s.Arrives target) :
    (s.advanceTo target).2.Going := by
  obtain ⟨n, -, hdrains⟩ := hs.drains h
  exact hdrains.settledBut hs

end Arrive

end VirtualTerminal.Animation.Stage
