import Mathlib.Tactic.Common
import VirtualTerminal.Animation.Plan
import VirtualTerminal.Proofs.Animation.Settled

/-!
# Plans that end

A plan ends its animation if it runs for a time, if one of its steps ends the animation, or if it
fails. While such a plan runs, only its own animation may go on forever; after it, none does
(`Settled.run`).
-/

namespace VirtualTerminal.Animation

/-- Whether a step ends the animation, now or later. -/
def Step.Ends : Step → Prop
  | .finish => True
  | .finishAfter .. => True
  | _ => False

/-- Whether a plan ends its animation, whatever the scene. -/
def Plan.Ends (plan : Plan) : Prop :=
  ∀ scene, (∃ e, (plan.start scene).2 = some e) ∨
    (∃ duration, plan.duration? scene.invocation = some duration ∧ 0 < duration) ∨
      ∃ step ∈ (plan.start scene).1, step.Ends

/-- All steps of a plan: those of the start, and the one that ends the animation if the start fails or
a duration is given. -/
def Plan.steps (plan : Plan) (scene : Scene) : List Step :=
  (plan.start scene).1 ++
    match (plan.start scene).2, (plan.duration? scene.invocation).filter (0 < ·) with
    | some _, _ => [.abandon]
    | none, some duration => [.finishAfter duration none]
    | none, none => []

/-- A plan that ends abandons its animation or has a step that ends it. -/
theorem Plan.Ends.exists_mem_steps {plan : Plan} (hplan : plan.Ends) (scene : Scene) :
    ∃ step ∈ plan.steps scene, step = .abandon ∨ step.Ends := by
  unfold Plan.steps
  rcases hplan scene with ⟨e, he⟩ | ⟨duration, hsome, hpos⟩ | ⟨step, hmem, hends⟩
  · rw [he]
    exact ⟨.abandon, List.mem_append_right _ List.mem_cons_self, .inl rfl⟩
  · rw [hsome, Option.filter_some, if_pos (decide_eq_true hpos)]
    cases (plan.start scene).2 with
    | some e => exact ⟨.abandon, List.mem_append_right _ List.mem_cons_self, .inl rfl⟩
    | none =>
      exact ⟨.finishAfter duration none, List.mem_append_right _ List.mem_cons_self, .inr trivial⟩
  · exact ⟨step, List.mem_append_left _ hmem, .inr hends⟩

namespace Stage

variable {s : Stage} {h : Handle}

theorem quietens_cancel (s : Stage) (h : Handle) :
    s.Quietens { s with registry := s.registry.cancel h.token } :=
  quietens_of_subset (List.Subset.refl _) fun token hc => by
    unfold Registry.isCancelled at hc ⊢
    rw [List.contains_iff_mem] at hc ⊢
    exact List.mem_cons_of_mem _ hc

/-- Every step is a timer that fires now or is scheduled, unless it cancels or abandons the animation or
does nothing. -/
theorem perform_rec {P : Stage → Prop} (nothing : P s) (play : ∀ c, c.handle = h → P (s.play c))
    (schedule : ∀ delay c, c.handle = h → P (s.schedule delay c))
    (cancel : P { s with registry := s.registry.cancel h.token }) (abandon : P (s.abandon h))
    (step : Step) : P (s.perform h step) := by
  cases step with
  | paint ls => exact play (.lines h ls) rfl
  | paintAfter delay ls => exact schedule delay (.lines h ls) rfl
  | frames pictures delay =>
    show P (s.animateFrames h pictures delay)
    unfold animateFrames
    split
    · exact nothing
    · exact play (.picture h _ _ _ _) rfl
  | continuous painter framesPerSecond => exact play (.picture h _ _ _ _) rfl
  | finish => exact play (.finish h none) rfl
  | finishAfter delay last => exact schedule delay (.finish h last) rfl
  | cancel => exact cancel
  | abandon => exact abandon

theorem quietens_perform (s : Stage) (h : Handle) (step : Step) : s.Quietens (s.perform h step) :=
  perform_rec (P := s.Quietens) (.refl s) (fun c _ => s.quietens_play c) (fun _ _ _ => .refl s)
    (s.quietens_cancel h) (s.quietens_finish h) step

theorem pending_subset_perform (s : Stage) (h : Handle) (step : Step) :
    s.timers.pending ⊆ (s.perform h step).timers.pending :=
  perform_rec (P := fun s' => s.timers.pending ⊆ s'.timers.pending) (List.Subset.refl _)
    (fun c _ => s.pending_subset_play c) (fun _ _ _ => s.pending_subset_schedule _ _)
    (List.Subset.refl _) (List.Subset.refl _) step

theorem WillEnd.perform (hend : s.WillEnd h) (step : Step) : (s.perform h step).WillEnd h :=
  hend.of_quietens (s.quietens_perform h step) (s.pending_subset_perform h step)

theorem willEnd_finishAfter (s : Stage) (h : Handle) (delay : Nat) (last : Option (List Line)) :
    (s.schedule delay (.finish h last)).WillEnd h :=
  .inr ⟨_, Queue.mem_schedule.mpr (.inl rfl), rfl⟩

theorem willEnd_perform {step : Step} (hstep : step = .abandon ∨ step.Ends) :
    (s.perform h step).WillEnd h := by
  rcases hstep with rfl | hends
  · exact .inl (s.isActive_finish h)
  · cases step with
    | finish => exact .inl (s.isActive_finish h)
    | finishAfter delay last => exact s.willEnd_finishAfter h delay last
    | _ => exact hends.elim

/-! ## Steps -/

theorem SettledBut.update {spared : Handle → Prop} (hs : s.SettledBut spared) (h : Handle)
    (ls : List Line) : (s.update h ls).SettledBut spared :=
  hs.of_quietens (s.update_timers h ls) (s.update_frameDelay h ls) (s.quietens_update h ls)

theorem SettledBut.finish {spared : Handle → Prop} (hs : s.SettledBut spared) (h : Handle) :
    (s.finish h).SettledBut spared :=
  hs.of_quietens rfl rfl (s.quietens_finish h)

/-- An animation that is spared may paint pictures over and over. -/
theorem SettledBut.play_picture {spared : Handle → Prop} (hs : s.SettledBut spared) (hh : spared h)
    (painter : Painter) (count start : Nat) {delay : Nat} (hdelay : 0 < delay) :
    (s.play (.picture h painter count start delay)).SettledBut spared := by
  by_cases hactive : s.isActive h = true
  · rw [play_picture_of_active hactive]
    refine (hs.update h _).schedule delay _ fun h' painter' count' start' delay' heq => ?_
    cases heq
    exact ⟨hdelay, .inl hh⟩
  · rw [play_picture_of_not_active hactive]
    exact hs

theorem SettledBut.delayOf_pos {spared : Handle → Prop} (hs : s.SettledBut spared)
    (requested : Nat) : 0 < s.delayOf requested :=
  Nat.lt_of_lt_of_le hs.frameDelay_pos (Nat.le_max_right _ _)

theorem SettledBut.perform_of_spared {spared : Handle → Prop} (hs : s.SettledBut spared)
    (hh : spared h) (step : Step) : (s.perform h step).SettledBut spared := by
  cases step with
  | paint ls => exact hs.update h ls
  | paintAfter delay ls => exact hs.schedule _ _ fun _ _ _ _ _ heq => by cases heq
  | frames pictures delay =>
    show (s.animateFrames h pictures delay).SettledBut spared
    unfold animateFrames
    split
    · exact hs
    · exact hs.play_picture hh _ _ _ (hs.delayOf_pos _)
  | continuous painter framesPerSecond => exact hs.play_picture hh _ _ _ (hs.delayOf_pos _)
  | finish => exact hs.finish h
  | finishAfter delay last => exact hs.schedule _ _ fun _ _ _ _ _ heq => by cases heq
  | cancel => exact hs.of_quietens rfl rfl (s.quietens_cancel h)
  | abandon => exact hs.of_quietens rfl rfl (s.quietens_finish h)

theorem SettledBut.perform (hs : s.SettledBut (· = h)) (step : Step) :
    (s.perform h step).SettledBut (· = h) :=
  hs.perform_of_spared rfl step

theorem SettledBut.foldl_perform (hs : s.SettledBut (· = h)) (steps : List Step) :
    (steps.foldl (fun s step => s.perform h step) s).SettledBut (· = h) := by
  induction steps generalizing s with
  | nil => exact hs
  | cons step steps ih => exact ih (hs.perform step)

theorem WillEnd.foldl_perform (hend : s.WillEnd h) (steps : List Step) :
    (steps.foldl (fun s step => s.perform h step) s).WillEnd h := by
  induction steps generalizing s with
  | nil => exact hend
  | cons step steps ih => exact ih (hend.perform step)

theorem willEnd_foldl_perform {steps : List Step}
    (hsteps : ∃ step ∈ steps, step = .abandon ∨ step.Ends) :
    (steps.foldl (fun s step => s.perform h step) s).WillEnd h := by
  obtain ⟨step, hmem, hends⟩ := hsteps
  obtain ⟨before, after, rfl⟩ := List.append_of_mem hmem
  rw [List.foldl_append, List.foldl_cons]
  exact (willEnd_perform hends).foldl_perform after

/-! ## Plans -/

theorem quietens_launch (s : Stage) (name : Text) : s.Quietens (s.launch name).2 := by
  refine quietens_of_subset (List.Subset.refl _) fun token hc => ?_
  have hfresh : s.registry.freshToken.2.isCancelled token = true := hc
  exact Registry.isCancelled_run hfresh _

/-- Running a plan begins an animation and has it do the steps of the plan. -/
theorem stage_run (plan : Plan) (name : Text) (i : Invocation) (s : Stage) :
    (plan.run name i s).2 =
      (plan.steps ((s.launch name.lower).2.scene (s.launch name.lower).1 i)).foldl
        (fun s' step => s'.perform (s.launch name.lower).1 step) (s.launch name.lower).2 := by
  unfold Plan.run Plan.steps scene
  dsimp only
  rw [List.foldl_append]
  cases (plan.start _).2 with
  | some e => rfl
  | none =>
    cases (plan.duration? i).filter (0 < ·) with
    | some duration => rfl
    | none => rfl

/-- Running a plan gives no output, or the failure of the start. -/
theorem result_run (plan : Plan) (name : Text) (i : Invocation) (s : Stage) :
    (plan.run name i s).1 =
      match (plan.start ((s.launch name.lower).2.scene (s.launch name.lower).1 i)).2 with
      | some e => .error e
      | none => .ok .nothing := by
  unfold Plan.run scene
  dsimp only
  cases (plan.start _).2 with
  | some e => rfl
  | none => cases (plan.duration? i).filter (0 < ·) <;> rfl

theorem quietens_plan (plan : Plan) (name : Text) (i : Invocation) (s : Stage) :
    s.Quietens (plan.run name i s).2 := by
  rw [stage_run]
  exact List.foldlRecOn (motive := s.Quietens) _ _ (s.quietens_launch _)
    fun s' hquiet step _ => hquiet.trans (s'.quietens_perform _ step)

theorem Settled.launch (hs : s.Settled) (name : Text) (h : Handle) :
    (s.launch name).2.SettledBut (· = h) := by
  have hlaunch : (s.launch name).2.Settled := hs.of_quietens rfl rfl (s.quietens_launch name)
  refine ⟨hlaunch.valid, hlaunch.frameDelay_pos, fun t ht g painter count start delay htask => ?_⟩
  obtain ⟨hpos, hend⟩ := hlaunch.repeats t ht g painter count start delay htask
  exact ⟨hpos, hend.imp_left False.elim⟩

theorem SettledBut.settled (hs : s.SettledBut (· = h)) (hend : s.WillEnd h) : s.Settled := by
  refine ⟨hs.valid, hs.frameDelay_pos, fun t ht g painter count start delay htask => ?_⟩
  obtain ⟨hpos, hspared⟩ := hs.repeats t ht g painter count start delay htask
  refine ⟨hpos, .inr ?_⟩
  rcases hspared with rfl | hend'
  · exact hend
  · exact hend'

/-- Running a plan that ends keeps a stage settled. -/
theorem Settled.run {plan : Plan} (hs : s.Settled) (hplan : plan.Ends) (name : Text)
    (i : Invocation) : (plan.run name i s).2.Settled := by
  rw [stage_run]
  refine ((hs.launch name.lower _).foldl_perform _).settled (willEnd_foldl_perform ?_)
  exact hplan.exists_mem_steps _

/-! ## Speeds -/

/-- Whether the speeds of a stage are those of a new one. -/
def Paced (pace : Pace) (s : Stage) : Prop :=
  s.framesPerSecond = (new pace).framesPerSecond ∧ s.frameDelay = (new pace).frameDelay

section Paced

variable {pace : Pace}

theorem Paced.update (hs : s.Paced pace) (h : Handle) (ls : List Line) : (s.update h ls).Paced pace := by
  unfold Stage.update
  split
  · exact hs
  · exact hs

theorem Paced.play (hs : s.Paced pace) (c : Cue) : (s.play c).Paced pace := by
  cases c with
  | picture h painter count start delay =>
    by_cases hactive : s.isActive h = true
    · rw [play_picture_of_active hactive]
      exact hs.update h _
    · rw [play_picture_of_not_active hactive]
      exact hs
  | lines h ls => exact hs.update h ls
  | finish h last =>
    cases last with
    | none => exact hs
    | some ls => exact hs.update h ls

theorem Paced.perform (hs : s.Paced pace) (h : Handle) (step : Step) : (s.perform h step).Paced pace :=
  perform_rec (P := Paced pace) hs (fun c _ => hs.play c) (fun _ _ _ => hs) hs hs step

theorem Paced.run (hs : s.Paced pace) (plan : Plan) (name : Text) (i : Invocation) :
    (plan.run name i s).2.Paced pace := by
  rw [stage_run]
  exact List.foldlRecOn (motive := Paced pace) _ _ (show (s.launch name.lower).2.Paced pace from hs)
    fun _ hs step _ => hs.perform _ step

theorem Paced.advanceTo (hs : s.Paced pace) (target : Nat) : (s.advanceTo target).2.Paced pace := by
  refine advanceTo_rec (P := Paced pace) (fun {s t timers} _ hs => ?_) (fun hs => hs) hs
  have hpopped : Paced pace { s with timers := timers } := hs
  exact hpopped.play t.task

end Paced

end Stage

end VirtualTerminal.Animation
