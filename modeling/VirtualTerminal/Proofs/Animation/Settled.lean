import Mathlib.Tactic.Common
import VirtualTerminal.Animation.Stage
import VirtualTerminal.Proofs.Timer.Queue

/-!
# Settled stages

An animation that has stopped never becomes active again, whatever the registry has to do. A stage
is settled if every animation that repeats will end: it has stopped, or a timer that ends it is
pending. Firing a timer keeps a stage settled (`SettledBut.fired`).
-/

namespace VirtualTerminal.Animation

/-! ## Cancelled tokens -/

namespace Registry

theorem cancelled_subset_step (g : Registry) (w : Work) :
    g.cancelled ⊆ (g.step w).2.cancelled := by
  intro token htoken
  unfold step
  split
  · exact htoken
  · split
    · exact htoken
    · exact htoken
  · exact htoken
  · exact htoken
  · exact List.mem_cons_of_mem _ htoken
  · exact htoken

theorem cancelled_subset_runFuel (fuel : Nat) (work : List Work) (g : Registry) :
    g.cancelled ⊆ (runFuel fuel work g).cancelled := by
  induction fuel generalizing work g with
  | zero =>
    unfold runFuel
    exact fun _ htoken => htoken
  | succ fuel ih =>
    cases work with
    | nil =>
      unfold runFuel
      exact fun _ htoken => htoken
    | cons w rest =>
      unfold runFuel
      exact fun _ htoken => ih _ _ (g.cancelled_subset_step w htoken)

/-- A token stays cancelled. -/
theorem isCancelled_run {g : Registry} {token : Nat} (h : g.isCancelled token = true)
    (work : List Work) : (g.run work).isCancelled token = true := by
  unfold isCancelled at h ⊢
  rw [List.contains_iff_mem] at h ⊢
  exact cancelled_subset_runFuel _ work g h

end Registry

/-- The animation that a timer belongs to. -/
def Cue.handle : Cue → Handle
  | .picture h .. => h
  | .lines h _ => h
  | .finish h _ => h

namespace Stage

/-! ## Active animations -/

theorem isActive_eq_false_iff {s : Stage} {h : Handle} :
    s.isActive h = false ↔ h.seq ∈ s.ended ∨ s.registry.isCancelled h.token = true := by
  unfold isActive
  rw [Bool.and_eq_false_iff, Bool.not_eq_false', Bool.not_eq_false', List.contains_iff_mem]

/-- Whether no animation that is not active on one stage is active on the next. -/
def Quietens (s s' : Stage) : Prop :=
  ∀ h, s.isActive h = false → s'.isActive h = false

theorem Quietens.refl (s : Stage) : s.Quietens s :=
  fun _ hinactive => hinactive

theorem Quietens.trans {s₁ s₂ s₃ : Stage} (h₁₂ : s₁.Quietens s₂) (h₂₃ : s₂.Quietens s₃) :
    s₁.Quietens s₃ :=
  fun h hinactive => h₂₃ h (h₁₂ h hinactive)

theorem Quietens.isActive {s s' : Stage} (hquiet : s.Quietens s') {h : Handle}
    (hactive : s'.isActive h = true) : s.isActive h = true := by
  cases hs : s.isActive h with
  | true => rfl
  | false =>
    rw [hquiet h hs] at hactive
    cases hactive

/-- Numbers of ended animations and cancelled tokens that only grow quieten a stage. -/
theorem quietens_of_subset {s s' : Stage} (hended : s.ended ⊆ s'.ended)
    (hcancelled : ∀ token, s.registry.isCancelled token = true →
      s'.registry.isCancelled token = true) : s.Quietens s' := by
  intro h hinactive
  rw [isActive_eq_false_iff] at hinactive ⊢
  exact hinactive.imp (fun hseq => hended hseq) (hcancelled h.token)

theorem quietens_run (s : Stage) (work : List Work) :
    s.Quietens { s with registry := s.registry.run work } :=
  quietens_of_subset (List.Subset.refl _) fun _ h => Registry.isCancelled_run h work

theorem update_timers (s : Stage) (h : Handle) (ls : List Line) :
    (s.update h ls).timers = s.timers := by
  unfold update
  split <;> rfl

theorem update_frameDelay (s : Stage) (h : Handle) (ls : List Line) :
    (s.update h ls).frameDelay = s.frameDelay := by
  unfold update
  split <;> rfl

theorem isActive_update (s : Stage) (h h' : Handle) (ls : List Line) :
    (s.update h ls).isActive h' = s.isActive h' := by
  unfold update
  split <;> rfl

theorem quietens_update (s : Stage) (h : Handle) (ls : List Line) : s.Quietens (s.update h ls) :=
  fun h' hinactive => by rwa [isActive_update]

theorem quietens_finish (s : Stage) (h : Handle) : s.Quietens (s.finish h) :=
  quietens_of_subset (List.subset_cons_self _ _) fun _ hc => Registry.isCancelled_run hc _

/-- An animation that has been ended is not active. -/
theorem isActive_finish (s : Stage) (h : Handle) : (s.finish h).isActive h = false := by
  simp [isActive, finish]

/-! ## Playing cues -/

/-- The animation that a timer ends. -/
def endedBy? : Cue → Option Handle
  | .finish h _ => some h
  | _ => none

theorem play_picture_of_active {s : Stage} {h : Handle} (hactive : s.isActive h = true)
    (painter : Painter) (count start delay : Nat) :
    s.play (.picture h painter count start delay) =
      (s.update h (painter count (s.timers.now - start))).schedule delay
        (.picture h painter (count + 1) start delay) :=
  if_pos hactive

theorem play_picture_of_not_active {s : Stage} {h : Handle} (hactive : ¬ s.isActive h = true)
    (painter : Painter) (count start delay : Nat) :
    s.play (.picture h painter count start delay) = s :=
  if_neg hactive

theorem quietens_play (s : Stage) (c : Cue) : s.Quietens (s.play c) := by
  cases c with
  | picture h painter count start delay =>
    by_cases hactive : s.isActive h = true
    · rw [play_picture_of_active hactive]
      exact s.quietens_update h _
    · rw [play_picture_of_not_active hactive]
      exact .refl s
  | lines h ls => exact s.quietens_update h ls
  | finish h last =>
    cases last with
    | none => exact s.quietens_finish h
    | some ls => exact (s.quietens_update h ls).trans ((s.update h ls).quietens_finish h)

theorem isActive_play_of_endedBy? {s : Stage} {c : Cue} {h : Handle}
    (hends : endedBy? c = some h) : (s.play c).isActive h = false := by
  cases c with
  | picture => cases hends
  | lines => cases hends
  | finish h' last =>
    cases hends
    cases last with
    | none => exact s.isActive_finish h
    | some ls => exact (s.update h ls).isActive_finish h

theorem play_frameDelay (s : Stage) (c : Cue) : (s.play c).frameDelay = s.frameDelay := by
  cases c with
  | picture h painter count start delay =>
    by_cases hactive : s.isActive h = true
    · rw [play_picture_of_active hactive]
      exact s.update_frameDelay h _
    · rw [play_picture_of_not_active hactive]
  | lines h ls => exact s.update_frameDelay h ls
  | finish h last =>
    cases last with
    | none => rfl
    | some ls => exact s.update_frameDelay h ls

/-- The picture of an active animation schedules the next one, and nothing else schedules. -/
theorem play_timers (s : Stage) (c : Cue) :
    (s.play c).timers = s.timers ∨
      ∃ h painter count start delay, c = .picture h painter count start delay ∧
        s.isActive h = true ∧
        (s.play c).timers =
          s.timers.schedule delay (.picture h painter (count + 1) start delay) := by
  cases c with
  | picture h painter count start delay =>
    by_cases hactive : s.isActive h = true
    · refine .inr ⟨h, painter, count, start, delay, rfl, hactive, ?_⟩
      rw [play_picture_of_active hactive]
      show (s.update h _).timers.schedule delay _ = _
      rw [update_timers]
    · refine .inl ?_
      rw [play_picture_of_not_active hactive]
  | lines h ls => exact .inl (s.update_timers h ls)
  | finish h last =>
    cases last with
    | none => exact .inl rfl
    | some ls => exact .inl (s.update_timers h ls)

theorem now_play (s : Stage) (c : Cue) : (s.play c).timers.now = s.timers.now := by
  rcases s.play_timers c with heq | ⟨_, _, _, _, _, -, -, heq⟩
  · rw [heq]
  · rw [heq]
    rfl

theorem valid_play {s : Stage} (hs : s.timers.Valid) (c : Cue) : (s.play c).timers.Valid := by
  rcases s.play_timers c with heq | ⟨_, _, _, _, _, -, -, heq⟩
  · rw [heq]
    exact hs
  · rw [heq]
    exact hs.schedule _ _

theorem pending_subset_schedule (s : Stage) (delay : Nat) (c : Cue) :
    s.timers.pending ⊆ (s.schedule delay c).timers.pending :=
  fun _ ht => Queue.mem_schedule.mpr (.inr ht)

theorem pending_subset_play (s : Stage) (c : Cue) :
    s.timers.pending ⊆ (s.play c).timers.pending := by
  intro t ht
  rcases s.play_timers c with heq | ⟨_, _, _, _, _, -, -, heq⟩
  · rwa [heq]
  · rw [heq]
    exact Queue.mem_schedule.mpr (.inr ht)

/-! ## Settled stages -/

/-- Whether an animation has stopped or a timer that ends it is pending. -/
def WillEnd (s : Stage) (h : Handle) : Prop :=
  s.isActive h = false ∨ ∃ t ∈ s.timers.pending, endedBy? t.task = some h

/-- Whether every animation that repeats will end, those that `spared` has aside. -/
structure SettledBut (spared : Handle → Prop) (s : Stage) : Prop where
  valid : s.timers.Valid
  frameDelay_pos : 0 < s.frameDelay
  repeats : ∀ t ∈ s.timers.pending, ∀ h painter count start delay,
    t.task = .picture h painter count start delay → 0 < delay ∧ (spared h ∨ s.WillEnd h)

/-- Whether every animation that repeats will end. -/
abbrev Settled (s : Stage) : Prop :=
  s.SettledBut fun _ => False

theorem settled_new (pace : Pace) : (Stage.new pace).Settled where
  valid := Queue.valid_empty
  frameDelay_pos := Nat.lt_of_lt_of_le Nat.zero_lt_one (Nat.le_max_right _ _)
  repeats _ ht := nomatch ht

theorem WillEnd.of_quietens {s s' : Stage} {h : Handle} (hend : s.WillEnd h)
    (hquiet : s.Quietens s') (hsub : s.timers.pending ⊆ s'.timers.pending) : s'.WillEnd h := by
  rcases hend with hinactive | ⟨t, ht, hends⟩
  · exact .inl (hquiet h hinactive)
  · exact .inr ⟨t, hsub ht, hends⟩

/-- A stage that is only made quieter stays settled. -/
theorem SettledBut.of_quietens {spared : Handle → Prop} {s s' : Stage} (hs : s.SettledBut spared)
    (htimers : s'.timers = s.timers) (hdelay : s'.frameDelay = s.frameDelay)
    (hquiet : s.Quietens s') : s'.SettledBut spared := by
  refine ⟨by rw [htimers]; exact hs.valid, by rw [hdelay]; exact hs.frameDelay_pos, ?_⟩
  intro t ht h painter count start delay htask
  rw [htimers] at ht
  obtain ⟨hpos, hend⟩ := hs.repeats t ht h painter count start delay htask
  refine ⟨hpos, hend.imp_right fun hend => hend.of_quietens hquiet ?_⟩
  rw [htimers]
  exact List.Subset.refl _

theorem SettledBut.schedule {spared : Handle → Prop} {s : Stage} (hs : s.SettledBut spared)
    (delay : Nat) (c : Cue) (hc : ∀ h painter count start period,
      c = .picture h painter count start period → 0 < period ∧ (spared h ∨ s.WillEnd h)) :
    (s.schedule delay c).SettledBut spared := by
  have hsub := s.pending_subset_schedule delay c
  have hquiet : s.Quietens (s.schedule delay c) := .refl s
  refine ⟨hs.valid.schedule delay c, hs.frameDelay_pos, ?_⟩
  intro t ht h painter count start period htask
  rcases Queue.mem_schedule.mp ht with rfl | ht
  · obtain ⟨hpos, hend⟩ := hc h painter count start period htask
    exact ⟨hpos, hend.imp_right fun hend => hend.of_quietens hquiet hsub⟩
  · obtain ⟨hpos, hend⟩ := hs.repeats t ht h painter count start period htask
    exact ⟨hpos, hend.imp_right fun hend => hend.of_quietens hquiet hsub⟩

section Fire

variable {s : Stage} {target : Nat} {t : Timer Cue} {timers : Queue Cue}

/-- The stage after the firing of a timer. -/
def fired (s : Stage) (t : Timer Cue) (timers : Queue Cue) : Stage :=
  play { s with timers := timers } t.task

theorem quietens_fired (s : Stage) (t : Timer Cue) (timers : Queue Cue) :
    s.Quietens (s.fired t timers) :=
  quietens_play { s with timers := timers } t.task

/-- Moving the clock is firing timers and setting the clock, so what these keep it keeps. -/
theorem advanceTo_rec {P : Stage → Prop}
    (hfire : ∀ {s t timers}, s.timers.pop? target = some (t, timers) → P s → P (s.fired t timers))
    (hsettle : ∀ {s}, P s → P { s with timers := s.timers.settle target }) (hs : P s) :
    P (s.advanceTo target).2 := by
  have hfuel : ∀ fuel count s, P s → P (advanceFuel target fuel count s).2 := by
    intro fuel
    induction fuel with
    | zero => exact fun _ _ => hsettle
    | succ fuel ih =>
      intro count s hs
      unfold advanceFuel
      split
      · exact hsettle hs
      next t timers hpop => exact ih _ _ (hfire hpop hs)
  exact hfuel _ _ _ hs

/-- An animation that will end does so also after a firing, which may be what ends it. -/
theorem WillEnd.fired {h : Handle} (hend : s.WillEnd h)
    (hpop : s.timers.pop? target = some (t, timers)) : (s.fired t timers).WillEnd h := by
  obtain ⟨-, hpending, -⟩ := Queue.pop?_eq_some_iff.mp hpop
  rcases hend with hinactive | ⟨u, hu, hends⟩
  · exact .inl (s.quietens_fired t timers h hinactive)
  · rw [hpending] at hu
    rcases List.mem_cons.mp hu with rfl | hu
    · exact .inl (isActive_play_of_endedBy? hends)
    · exact .inr ⟨u, pending_subset_play { s with timers := timers } _ hu, hends⟩

/-- The timers after a firing: those that were left, and perhaps the next picture. -/
theorem mem_fired {u : Timer Cue} (hu : u ∈ (s.fired t timers).timers.pending) :
    u ∈ timers.pending ∨ ∃ h painter count start delay,
      t.task = .picture h painter count start delay ∧ s.isActive h = true ∧
      u = timers.nextTimer delay (.picture h painter (count + 1) start delay) := by
  rcases play_timers { s with timers := timers } t.task with
    heq | ⟨h, painter, count, start, delay, htask, hactive, heq⟩
  · unfold Stage.fired at hu
    rw [heq] at hu
    exact .inl hu
  · unfold Stage.fired at hu
    rw [heq] at hu
    rcases Queue.mem_schedule.mp hu with rfl | hu
    · exact .inr ⟨h, painter, count, start, delay, htask, hactive, rfl⟩
    · exact .inl hu

/-- Firing a timer keeps a stage settled. -/
theorem SettledBut.fired {spared : Handle → Prop} (hs : s.SettledBut spared)
    (hpop : s.timers.pop? target = some (t, timers)) : (s.fired t timers).SettledBut spared := by
  obtain ⟨-, hpending, -⟩ := Queue.pop?_eq_some_iff.mp hpop
  have hvalid : timers.Valid := hs.valid.pop? hpop
  have hrepeats : ∀ u ∈ s.timers.pending, ∀ h painter count start delay,
      u.task = .picture h painter count start delay →
        0 < delay ∧ (spared h ∨ (s.fired t timers).WillEnd h) := by
    intro u hu h painter count start delay htask
    obtain ⟨hpos, hend⟩ := hs.repeats u hu h painter count start delay htask
    exact ⟨hpos, hend.imp_right fun hend => hend.fired hpop⟩
  refine ⟨valid_play hvalid t.task, ?_, ?_⟩
  · unfold Stage.fired
    rw [play_frameDelay]
    exact hs.frameDelay_pos
  · intro u hu h painter count start delay htask
    rcases mem_fired hu with hu | ⟨h', painter', count', start', delay', htask', -, rfl⟩
    · refine hrepeats u ?_ h painter count start delay htask
      rw [hpending]
      exact List.mem_cons_of_mem _ hu
    · cases htask
      refine hrepeats t ?_ h painter count' start delay htask'
      rw [hpending]
      exact List.mem_cons_self

end Fire

end Stage

end VirtualTerminal.Animation
