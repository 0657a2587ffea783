import VirtualTerminal.Proofs.Animation.Advance
import VirtualTerminal.Proofs.Animation.Plan

/-!
# Deadlines

An animation ends by a time if it is not active any more or a timer that ends it is due by then
(`EndsBy`). Whatever an animation does, no animation loses its deadline (`EndsBy.of_precedes`), and
once the clock has been moved there the animation is not active (`Drains.isActive_eq_false`). A stage
is punctual if every animation on it ends within a limit from now on (`Punctual`).
-/

namespace VirtualTerminal.Animation.Stage

variable {s s' s'' : Stage} {h : Handle} {time limit target : Nat}

/-! ## Stages that come after each other -/

/-- Whether no animation has become active again, no timer is lost, and the clock has not gone back. -/
structure Precedes (s s' : Stage) : Prop where
  quietens : s.Quietens s'
  pending : s.timers.pending ⊆ s'.timers.pending
  now_le : s.timers.now ≤ s'.timers.now

theorem Precedes.trans (h₁ : s.Precedes s') (h₂ : s'.Precedes s'') : s.Precedes s'' :=
  ⟨h₁.quietens.trans h₂.quietens, List.Subset.trans h₁.pending h₂.pending,
    Nat.le_trans h₁.now_le h₂.now_le⟩

theorem Quietens.precedes (hquiet : s.Quietens s') (htimers : s'.timers = s.timers) :
    s.Precedes s' := by
  refine ⟨hquiet, ?_, ?_⟩
  · rw [htimers]
    exact List.Subset.refl _
  · rw [htimers]

theorem now_perform (s : Stage) (h : Handle) (step : Step) :
    (s.perform h step).timers.now = s.timers.now := by
  cases step with
  | paint ls => exact congrArg Queue.now (s.update_timers h ls)
  | frames pictures delay =>
    show (s.animateFrames h pictures delay).timers.now = _
    unfold animateFrames
    split
    · rfl
    · exact s.now_play _
  | continuous painter framesPerSecond => exact s.now_play _
  | _ => rfl

theorem precedes_perform (s : Stage) (h : Handle) (step : Step) : s.Precedes (s.perform h step) :=
  ⟨s.quietens_perform h step, s.pending_subset_perform h step, Nat.le_of_eq (s.now_perform h step).symm⟩

theorem precedes_foldl_perform (s : Stage) (h : Handle) (steps : List Step) :
    s.Precedes (steps.foldl (fun s step => s.perform h step) s) :=
  List.foldlRecOn (motive := s.Precedes) steps _ ((Quietens.refl s).precedes rfl)
    fun s' hprecedes step _ => hprecedes.trans (s'.precedes_perform h step)

theorem precedes_run (plan : Plan) (name : Text) (i : Invocation) (s : Stage) :
    s.Precedes (plan.run name i s).2 := by
  rw [stage_run]
  exact ((s.quietens_launch _).precedes rfl).trans (precedes_foldl_perform _ _ _)

/-! ## Deadlines -/

/-- Whether an animation is not active, or a timer that ends it is due by a time. -/
def EndsBy (s : Stage) (time : Nat) (h : Handle) : Prop :=
  s.isActive h = false ∨ ∃ t ∈ s.timers.pending, endedBy? t.task = some h ∧ t.due ≤ time

theorem EndsBy.mono {time' : Nat} (hend : s.EndsBy time h) (hle : time ≤ time') : s.EndsBy time' h :=
  hend.imp_right fun ⟨t, ht, hends, hdue⟩ => ⟨t, ht, hends, Nat.le_trans hdue hle⟩

theorem EndsBy.of_precedes (hend : s.EndsBy time h) (hprecedes : s.Precedes s') :
    s'.EndsBy time h :=
  hend.imp (hprecedes.quietens h) fun ⟨t, ht, hends⟩ => ⟨t, hprecedes.pending ht, hends⟩

/-- No timer is due after the last time of the clock. -/
theorem EndsBy.min_lastTime (hend : s.EndsBy time h) (hvalid : s.timers.Valid) :
    s.EndsBy (min time Queue.lastTime) h :=
  hend.imp_right fun ⟨t, ht, hends, hdue⟩ => ⟨t, ht, hends, Nat.le_min.mpr ⟨hdue, hvalid.due_le t ht⟩⟩

theorem endsBy_finishAfter (s : Stage) (h : Handle) (delay : Nat) (last : Option (List Line)) :
    (s.perform h (.finishAfter delay last)).EndsBy (s.timers.now + delay) h :=
  .inr ⟨_, Queue.mem_schedule.mpr (.inl rfl), rfl, Nat.min_le_left _ _⟩

/-- Of the steps of an animation one may set a deadline. -/
theorem endsBy_foldl_perform {steps : List Step} {delay : Nat} {last : Option (List Line)}
    (hmem : .finishAfter delay last ∈ steps) :
    (steps.foldl (fun s step => s.perform h step) s).EndsBy (s.timers.now + delay) h := by
  induction steps generalizing s with
  | nil => cases hmem
  | cons step steps ih =>
    rcases List.mem_cons.mp hmem with rfl | hmem
    · exact (s.endsBy_finishAfter h delay last).of_precedes (precedes_foldl_perform _ _ _)
    · rw [← s.now_perform h step]
      exact ih hmem

/-! ## Moving the clock -/

theorem EndsBy.fired {t : Timer Cue} {timers : Queue Cue} (hend : s.EndsBy time h)
    (hpop : s.timers.pop? target = some (t, timers)) : (s.fired t timers).EndsBy time h := by
  obtain ⟨-, hpending, -⟩ := Queue.pop?_eq_some_iff.mp hpop
  rcases hend with hinactive | ⟨u, hu, hends, hdue⟩
  · exact .inl (s.quietens_fired t timers h hinactive)
  · rw [hpending] at hu
    rcases List.mem_cons.mp hu with rfl | hu
    · exact .inl (isActive_play_of_endedBy? hends)
    · exact .inr ⟨u, pending_subset_play { s with timers := timers } _ hu, hends, hdue⟩

/-- A clock that has been moved to the deadline of an animation has ended it. -/
theorem Drains.isActive_eq_false {n : Nat} (hdrains : Drains target s n s') (hs : s.Settled)
    (hend : s.EndsBy time h) (hle : time ≤ target) : s'.isActive h = false := by
  induction hdrains with
  | arrive hpop =>
    rcases hend with hinactive | ⟨t, ht, -, hdue⟩
    · exact hinactive
    · -- a timer that is left is due later
      have hlt := hs.valid.lt_due_of_pop?_eq_none hpop t ht
      omega
  | fire hpop _ ih => exact ih (hs.fired hpop) (hend.fired hpop)

/-! ## Punctual stages -/

/-- Whether some animations end within a limit. -/
def Punctual (limit : Nat) (hs : List Handle) (s : Stage) : Prop :=
  ∀ h ∈ hs, s.EndsBy (s.timers.now + limit) h

variable {hs : List Handle}

theorem Punctual.of_precedes (hp : Punctual limit hs s) (hprecedes : s.Precedes s') :
    Punctual limit hs s' := by
  intro h hh
  have hle : s.timers.now + limit ≤ s'.timers.now + limit :=
    Nat.add_le_add_right hprecedes.now_le limit
  exact ((hp h hh).of_precedes hprecedes).mono hle

theorem Punctual.of_quietens (hp : Punctual limit hs s) (htimers : s'.timers = s.timers)
    (hquiet : s.Quietens s') : Punctual limit hs s' :=
  hp.of_precedes (hquiet.precedes htimers)

/-- An animation whose plan sets a deadline within the limit may join. -/
theorem Punctual.run (hp : Punctual limit hs s) {plan : Plan}
    (hplan : ∀ scene, ∃ delay last, .finishAfter delay last ∈ plan.steps scene ∧ delay ≤ limit)
    (name : Text) (i : Invocation) :
    Punctual limit (hs ++ [(s.launch name.lower).1]) (plan.run name i s).2 := by
  refine List.forall_mem_append.mpr
    ⟨hp.of_precedes (precedes_run plan name i s), List.forall_mem_singleton.mpr ?_⟩
  obtain ⟨delay, last, hmem, hdelay⟩ := hplan ((s.launch name.lower).2.scene (s.launch name.lower).1 i)
  have hnow := (precedes_run plan name i s).now_le
  rw [stage_run] at hnow ⊢
  refine (endsBy_foldl_perform hmem).mono ?_
  show s.timers.now + delay ≤ _
  omega

theorem Punctual.advanceTo (hp : Punctual limit hs s) (target : Nat) :
    Punctual limit hs (s.advanceTo target).2 := by
  refine advanceTo_rec (P := Punctual limit hs) (fun {s t timers} hpop hp h hh => ?_)
    (fun {s} hp => hp.of_precedes ⟨.refl s, List.Subset.refl _, Nat.le_max_left _ _⟩) hp
  obtain ⟨-, -, hnow, -⟩ := Queue.pop?_eq_some_iff.mp hpop
  have hle : s.timers.now ≤ (s.fired t timers).timers.now := by
    rw [show (s.fired t timers).timers.now = timers.now from now_play _ _, hnow]
    exact Nat.le_max_left _ _
  exact ((hp h hh).fired hpop).mono (Nat.add_le_add_right hle limit)

end VirtualTerminal.Animation.Stage
