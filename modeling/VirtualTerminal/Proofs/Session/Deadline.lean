import VirtualTerminal.Proofs.Animation.Deadline
import VirtualTerminal.Proofs.Session.Active

/-!
# Ticks end animations

No tick goes on forever, at whatever speed pictures are painted and however far the clock is moved, and
a built-in animation is over when a minute has passed, or when the clock has come to its last time
(`ticks_end_animations`).
-/

namespace VirtualTerminal

open Animation

namespace Life

/-- Events that bring in animations by commands only lead to sessions that can be reached. -/
theorem reachable_next {l : Life} (hl : l.session.Reachable) {e : Event} (he : e.IsInput) :
    (l.next e).session.Reachable := by
  cases he with
  | submit line => exact hl.submit line
  | run line => exact hl.run line
  | tick now => exact hl.tick now
  | reset => exact hl.reset
  | endTakeover => exact hl.endTakeover
  | stop id => exact hl.manage [.stop id]
  | stopAll => exact hl.manage [.stopAll]

theorem reachable_after (config : Config) {events : List Event} (hinput : ∀ e ∈ events, e.IsInput) :
    ((start config Builtin.table).after events).session.Reachable :=
  List.foldlRecOn (motive := fun l : Life => l.session.Reachable) events _ (.new config)
    fun _ hl e he => reachable_next hl (hinput e he)

end Life

/-- Built-in animations end within a minute. -/
theorem lasts_punctual : Lasts Builtin.table fun hs s => s.Hosts hs ∧ s.Punctual 60000 hs where
  plan {hs s c name plan} i hget hbody h := by
    refine ⟨lasts_hosts.plan i hget hbody h.1, h.2.run (fun scene => ?_) name i⟩
    obtain ⟨first, delay, last, hsteps, -, hdelay⟩ := Builtin.steps_of_get? hget hbody scene
    refine ⟨delay, last, ?_, hdelay⟩
    rw [hsteps]
    exact List.mem_cons_of_mem _ List.mem_cons_self
  write lines h := ⟨lasts_hosts.write lines h.1, h.2.of_quietens rfl (.refl _)⟩
  stop id h := ⟨lasts_hosts.stop id h.1, h.2.of_quietens rfl (Stage.quietens_run _ _)⟩
  stopAll h := ⟨h.1.stopAll, h.2.of_quietens rfl (Stage.quietens_run _ _)⟩
  clear h := ⟨h.1.clear, h.2.of_quietens rfl (Stage.quietens_run _ [.task .stopAll])⟩
  -- the timers are dropped, but no animation is left
  reset h := ⟨h.1.reset, fun g hg => .inl (h.1.isActive_stopAll g hg)⟩
  advance now h := ⟨h.1.advanceTo now, h.2.advanceTo now⟩

/-- Whatever a host has done to a session with the built-in commands, a tick fires only so many timers
and then no timer is due. If animations have been begun by commands only, and the clock is moved a
minute on or to its last time, then no animation is active. -/
theorem ticks_end_animations :
    (∀ s : Session, s.Reachable → ∀ now,
      Stage.Drains now s.stage (s.tick now).1 (s.tick now).2.stage ∧
        (s.tick now).1 ≤ s.stage.timers.pending.length * (now - s.stage.timers.now + 2)) ∧
      ∀ (config : Config) (events : List Event), (∀ e ∈ events, e.IsInput) →
        let l := (Life.start config Builtin.table).after events
        l.session.Reachable ∧
          ∀ now, min (l.session.stage.timers.now + 60000) Queue.lastTime ≤ now →
            (l.session.tick now).2.stage.registry.active = .empty ∧
              ∀ h ∈ l.animations, (l.session.tick now).2.stage.isActive h = false := by
  refine ⟨fun s hs now => ⟨(hs.sound.settled.advanceTo now).1, hs.sound.settled.firings_le now⟩, ?_⟩
  intro config events hinput l
  have hreachable : l.session.Reachable := Life.reachable_after config hinput
  have hsettled := hreachable.sound.settled
  obtain ⟨-, hhosts, hpunctual⟩ := lasts_punctual.after config
    ⟨Stage.hosts_new config.pace, fun _ h => nomatch h⟩ hinput
  refine ⟨hreachable, fun now hnow => ?_⟩
  obtain ⟨hdrains, -⟩ := hsettled.advanceTo now
  have hinactive : ∀ h ∈ l.animations, (l.session.tick now).2.stage.isActive h = false := fun h hh =>
    hdrains.isActive_eq_false hsettled ((hpunctual h hh).min_lastTime hsettled.valid) hnow
  exact ⟨(hhosts.advanceTo now).active_eq_empty hinactive, hinactive⟩

/-- Two animations that begin when the clock is almost at its last time. -/
def lateAnimations : List Event :=
  [.tick (Queue.lastTime - 5), .submit "matrix --seconds=60".toList, .submit "spinner".toList]

/-- The two animations, which are to run for a minute and for three seconds, are over when the clock
comes to its last time, five milliseconds later. -/
theorem ticks_end_animations_late :
    let l := (Life.start {} Builtin.table).after lateAnimations
    l.animations.map l.session.stage.isActive = [true, true] ∧
      (∃ n, Stage.Drains Queue.lastTime l.session.stage n (l.session.tick Queue.lastTime).2.stage) ∧
      ∀ h ∈ l.animations, (l.session.tick Queue.lastTime).2.stage.isActive h = false := by
  have hinput : ∀ e ∈ lateAnimations, e.IsInput := by
    unfold lateAnimations
    simp only [List.forall_mem_cons]
    exact ⟨.tick _, .submit _, .submit _, List.forall_mem_nil _⟩
  obtain ⟨hends, hover⟩ := ticks_end_animations
  obtain ⟨hreachable, htick⟩ := hover {} lateAnimations hinput
  have hactive : (let l := (Life.start {} Builtin.table).after lateAnimations
    l.animations.map l.session.stage.isActive = [true, true]) := by decide +kernel
  exact ⟨hactive, ⟨_, (hends _ hreachable _).1⟩, (htick _ (Nat.min_le_right _ _)).2⟩

end VirtualTerminal
