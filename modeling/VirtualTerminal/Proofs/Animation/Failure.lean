import VirtualTerminal.Proofs.Animation.Moves

/-!
# Animations whose start fails

While an animation starts, it leaves alone what other animations have (`Starts`). If the start fails, its
animation is gone afterwards, and the stage is as it was before, up to timers without effect (`Without`).
-/

namespace VirtualTerminal.Animation.Stage

open Queue

variable {before s s' t : Stage} {h : Handle}

/-! ## While an animation starts -/

/-- Whether a stage differs from the one before an animation was begun only in what is that animation's. -/
structure Starts (before : Stage) (h : Handle) (s : Stage) : Prop where
  free : before.registry.active.find? h.id = none
  active : s.registry.active = before.registry.active ∨
    s.registry.active = before.registry.active.insert h.id ⟨h.token, []⟩
  cancelled : ∀ token ≠ h.token, token ∈ s.registry.cancelled ↔ token ∈ before.registry.cancelled
  nextToken : before.registry.nextToken ≤ s.registry.nextToken
  ended : ∀ n ≠ h.seq, n ∈ s.ended ↔ n ∈ before.ended
  now : s.timers.now = before.timers.now
  others : s.timers.pending.filter (·.task.handle ≠ h) = before.timers.pending

theorem Prepared.starts (hs : s.Prepared) (name : Text) :
    Starts s (s.launch name).1 (s.launch name).2 := by
  have hfree : s.registry.active.find? (s.nextId name) = none :=
    hs.ids.find?_eq_none (s.isNumbered_nextId name).not_behind
  have hregistry : (s.launch name).2.registry = { s.registry with
      nextToken := s.registry.nextToken + 1
      active := s.registry.active.insert (s.nextId name) ⟨s.registry.nextToken, []⟩ } :=
    Registry.register_of_absent (g := s.registry.freshToken.2) hfree _ _
  refine ⟨hfree, .inr ?_, fun token _ => ?_, ?_, fun _ _ => Iff.rfl, rfl, ?_⟩
  · rw [hregistry]
    rfl
  · rw [hregistry]
  · rw [hregistry]
    exact Nat.le_succ _
  · refine List.filter_eq_self.mpr fun t ht => decide_eq_true fun heq => ?_
    have hseq : t.task.handle.seq < s.begun := hs.orderly.timers t ht
    rw [heq] at hseq
    exact Nat.lt_irrefl _ hseq

namespace Starts

theorem update (hs : Starts before h s) (ls : List Line) : Starts before h (s.update h ls) := by
  unfold Stage.update
  split
  · exact ⟨hs.free, hs.active, hs.cancelled, hs.nextToken, hs.ended, hs.now, hs.others⟩
  · exact hs

theorem schedule (hs : Starts before h s) (delay : Nat) {c : Cue} (hc : c.handle = h) :
    Starts before h (s.schedule delay c) := by
  refine ⟨hs.free, hs.active, hs.cancelled, hs.nextToken, hs.ended, hs.now, ?_⟩
  refine (filter_place_of_neg ?_).trans hs.others
  exact decide_eq_false fun hne => hne hc

theorem cancel (hs : Starts before h s) :
    Starts before h { s with registry := s.registry.cancel h.token } := by
  refine ⟨hs.free, hs.active, fun token hne => ?_, hs.nextToken, hs.ended, hs.now, hs.others⟩
  exact (List.mem_cons.trans (or_iff_right hne)).trans (hs.cancelled token hne)

/-- Once the animation has ended, the others are all that is active. -/
theorem finish (hs : Starts before h s) : Starts before h (s.finish h) ∧
    (s.finish h).registry.active = before.registry.active := by
  have hended : ∀ n ≠ h.seq, n ∈ h.seq :: s.ended ↔ n ∈ before.ended := fun n hne =>
    (List.mem_cons.trans (or_iff_right hne)).trans (hs.ended n hne)
  unfold Stage.finish
  rcases hs.active with hactive | hactive
  · rw [Registry.stop_of_absent (hactive ▸ hs.free)]
    exact ⟨⟨hs.free, hs.active, hs.cancelled, hs.nextToken, hended, hs.now, hs.others⟩, hactive⟩
  · have hfind : s.registry.active.find? h.id = some ⟨h.token, []⟩ := by
      rw [hactive, Table.find?_insert, if_pos rfl]
    have herase : s.registry.active.erase h.id = before.registry.active := by
      rw [hactive, Table.erase_insert, Table.erase_of_absent hs.free]
    rw [Registry.stop_of_present hfind rfl]
    exact ⟨⟨hs.free, .inl herase, hs.cancel.cancelled, hs.nextToken, hended, hs.now, hs.others⟩,
      herase⟩

theorem abandon (hs : Starts before h s) : Starts before h (s.abandon h) ∧
    (s.abandon h).registry.active = before.registry.active := by
  obtain ⟨hfinish, hactive⟩ := hs.finish
  exact ⟨⟨hfinish.free, hfinish.active, hfinish.cancelled, hfinish.nextToken, hfinish.ended, hfinish.now,
    hfinish.others⟩, hactive⟩

theorem play (hs : Starts before h s) {c : Cue} (hc : c.handle = h) : Starts before h (s.play c) := by
  subst hc
  cases c with
  | picture h painter count start delay =>
    by_cases hactive : s.isActive h = true
    · rw [play_picture_of_active hactive]
      exact (hs.update _).schedule delay rfl
    · rw [play_picture_of_not_active hactive]
      exact hs
  | lines h ls => exact hs.update ls
  | finish h last =>
    cases last with
    | none => exact hs.finish.1
    | some ls => exact (hs.update ls).finish.1

theorem perform (hs : Starts before h s) (step : Step) : Starts before h (s.perform h step) :=
  perform_rec (P := Starts before h) hs (fun _ hc => hs.play hc) (fun delay _ hc => hs.schedule delay hc)
    hs.cancel hs.abandon.1 step

theorem foldl_perform (hs : Starts before h s) (steps : List Step) :
    Starts before h (steps.foldl (fun s step => s.perform h step) s) :=
  List.foldlRecOn (motive := Starts before h) steps _ hs fun _ hs step _ => hs.perform step

end Starts

/-! ## Starts that fail -/

/-- Whether the start of a plan fails on a stage. -/
def Fails (s : Stage) (plan : Plan) (name : Text) (i : Invocation) (e : Error) : Prop :=
  (plan.start ((s.launch name.lower).2.scene (s.launch name.lower).1 i)).2 = some e

section Fail

variable {plan : Plan} {name : Text} {i : Invocation} {e : Error}

/-- An animation whose start fails is abandoned after the steps of the start. -/
theorem stage_run_of_fails (hfail : s.Fails plan name i e) :
    (plan.run name i s).2 =
      ((plan.start ((s.launch name.lower).2.scene (s.launch name.lower).1 i)).1.foldl
        (fun s' step => s'.perform (s.launch name.lower).1 step) (s.launch name.lower).2).abandon
          (s.launch name.lower).1 := by
  unfold Fails at hfail
  rw [stage_run]
  unfold Plan.steps
  rw [hfail, List.foldl_append]
  rfl

/-- If a start fails, the same animations are active as before. -/
theorem Prepared.active_run (hs : s.Prepared) (hfail : s.Fails plan name i e) :
    Starts s (s.launch name.lower).1 (plan.run name i s).2 ∧
      (plan.run name i s).2.registry.active = s.registry.active := by
  rw [stage_run_of_fails hfail]
  exact ((hs.starts name.lower).foldl_perform _).abandon

/-- If a start fails, the transcript is what it was before. -/
theorem Prepared.transcript_run (hs : s.Prepared) (hfail : s.Fails plan name i e) :
    (plan.run name i s).2.transcript = s.transcript := by
  unfold Fails at hfail
  rw [hs.orderly.transcript_run plan name i]
  unfold Plan.opened
  rw [hfail]
  exact List.append_nil _

/-- An animation whose start fails is gone afterwards. -/
theorem Prepared.gone_run (hs : s.Prepared) (hfail : s.Fails plan name i e) :
    (plan.run name i s).2.Gone (s.launch name.lower).1 where
  begun := by
    rw [stage_run]
    exact ((hs.orderly.launch name.lower).foldl_perform (s.knows_launch name.lower) _).2.seq
  ended := by
    rw [stage_run_of_fails hfail]
    exact List.mem_cons_self
  region := by
    rw [hs.transcript_run hfail, Transcript.mem_ids]
    exact Bool.eq_false_iff.mp (hs.orderly.hasRegion_nextId name.lower)
  registry := by
    have hold : s.registry.UsesOnly (· ≠ s.nextId name.lower) :=
      hs.ids.mono fun id hid heq => (s.isNumbered_nextId name.lower).not_behind (heq ▸ hid)
    unfold Registry.UsesOnly
    rw [(hs.active_run hfail).2]
    exact hold

end Fail

/-! ## Stages without an animation -/

/-- Whether two stages are the same, but for what an animation has left on the second. -/
structure Without (h : Handle) (s t : Stage) : Prop where
  gone : t.Gone h
  transcript : t.transcript = s.transcript
  registry : s.registry.Alike h.token t.registry
  ended : ∀ n ≠ h.seq, n ∈ t.ended ↔ n ∈ s.ended
  timers : List.Forall₂ (Paired Eq) s.timers.pending (t.timers.pending.filter (·.task.handle ≠ h))
  known : ∀ u ∈ s.timers.pending, u.task.handle.seq ≠ h.seq ∧ u.task.handle.token < h.token
  valid : s.timers.Valid
  valid' : t.timers.Valid

/-- A start that fails leaves the stage as it was, but for an animation that is gone. -/
theorem Prepared.without_run (hs : s.Prepared) {plan : Plan} {name : Text} {i : Invocation} {e : Error}
    (hfail : s.Fails plan name i e) : Without (s.launch name.lower).1 s (plan.run name i s).2 where
  gone := hs.gone_run hfail
  transcript := hs.transcript_run hfail
  registry := by
    obtain ⟨hstarts, hactive⟩ := hs.active_run hfail
    refine ⟨by rw [hactive], fun token htoken => ?_, Nat.le_refl _, hstarts.nextToken⟩
    exact (hstarts.cancelled token (Nat.ne_of_lt htoken)).symm
  ended := (hs.active_run hfail).1.ended
  timers := by
    rw [(hs.active_run hfail).1.others]
    exact List.forall₂_same.mpr fun _ _ => ⟨rfl, rfl⟩
  known u hu := ⟨Nat.ne_of_lt (hs.orderly.timers u hu), hs.tokens u hu⟩
  valid := hs.going.valid
  valid' := (hs.leads (s.leads_run plan name i)).going.valid

namespace Without

theorem isActive_eq (hw : Without h s t) {g : Handle} (hseq : g.seq ≠ h.seq) (htoken : g.token < h.token) :
    t.isActive g = s.isActive g := by
  rw [Bool.eq_iff_iff, isActive_iff, isActive_iff, hw.ended g.seq hseq, hw.registry.cancelled g.token htoken]

theorem update (hw : Without h s t) {g : Handle} (hseq : g.seq ≠ h.seq) (htoken : g.token < h.token)
    (ls : List Line) : Without h (s.update g ls) (t.update g ls) := by
  have hgone : (t.update g ls).Gone h := hw.gone.of_touches (t.touches_update g ls)
  have hactive := hw.isActive_eq hseq htoken
  unfold Stage.update at hgone ⊢
  rw [hactive] at hgone ⊢
  split
  next hact =>
    rw [if_pos hact] at hgone
    have htranscript := congrArg (Transcript.updateRegion g.id ls) hw.transcript
    exact ⟨hgone, htranscript, hw.registry, hw.ended, hw.timers, hw.known, hw.valid, hw.valid'⟩
  · exact hw

theorem schedule (hw : Without h s t) (hnow : s.timers.now = t.timers.now) {c : Cue}
    (hseq : c.handle.seq ≠ h.seq) (htoken : c.handle.token < h.token) (delay : Nat) :
    Without h (s.schedule delay c) (t.schedule delay c) := by
  have hne : decide (c.handle ≠ h) = true := decide_eq_true fun heq => hseq (congrArg Handle.seq heq)
  refine ⟨hw.gone.withTimers _, hw.transcript, hw.registry, hw.ended, ?_, fun u hu => ?_,
    hw.valid.schedule delay c, hw.valid'.schedule delay c⟩
  · show List.Forall₂ _ (place (s.timers.nextTimer delay c) _)
      ((place (t.timers.nextTimer delay c) _).filter _)
    rw [filter_place_of_pos hne hw.valid'.ordered]
    have hfresh : ∀ u ∈ t.timers.pending.filter (·.task.handle ≠ h), u.seq < t.timers.nextSeq :=
      fun u hu => hw.valid'.fresh u (List.mem_of_mem_filter hu)
    refine forall₂_place (t := s.timers.nextTimer delay c) (u := t.timers.nextTimer delay c)
      ⟨?_, rfl⟩ hw.timers hw.valid.fresh hfresh
    unfold nextTimer
    rw [hnow]
  · rcases mem_schedule.mp hu with rfl | hu
    · exact ⟨hseq, htoken⟩
    · exact hw.known u hu

theorem finish (hw : Without h s t) (g : Handle) : Without h (s.finish g) (t.finish g) := by
  have hgone : (t.finish g).Gone h := hw.gone.of_touches ((Touches.refl g t).finish rfl)
  refine ⟨hgone, hw.transcript, hw.registry.stop g.id, fun n hne => ?_, hw.timers, hw.known,
    hw.valid, hw.valid'⟩
  exact List.mem_cons.trans ((or_congr_right (hw.ended n hne)).trans List.mem_cons.symm)

/-- The same timer of another animation has the same effect. -/
theorem play (hw : Without h s t) (hnow : s.timers.now = t.timers.now) {c : Cue}
    (hseq : c.handle.seq ≠ h.seq) (htoken : c.handle.token < h.token) :
    Without h (s.play c) (t.play c) := by
  cases c with
  | picture g painter count start delay =>
    have hactive : t.isActive g = s.isActive g := hw.isActive_eq hseq htoken
    by_cases hact : s.isActive g = true
    · rw [play_picture_of_active hact, play_picture_of_active (hactive.trans hact), hnow]
      refine (hw.update (g := g) hseq htoken _).schedule
        (c := .picture g painter (count + 1) start delay) ?_ hseq htoken delay
      rw [update_timers, update_timers, hnow]
    · rw [play_picture_of_not_active hact, play_picture_of_not_active (hactive ▸ hact)]
      exact hw
  | lines g ls => exact hw.update hseq htoken ls
  | finish g last =>
    cases last with
    | none => exact hw.finish g
    | some ls => exact (hw.update hseq htoken ls).finish g

/-! ### Moving the clock -/

section Fire

variable {target : Nat}

/-- The timers that an animation has pending. -/
def left (h : Handle) (t : Stage) : Nat :=
  (t.timers.pending.filter fun u => !decide (u.task.handle ≠ h)).length

theorem length_pending (hw : Without h s t) :
    t.timers.pending.length = s.timers.pending.length + left h t := by
  rw [hw.timers.length_eq]
  exact List.length_eq_length_filter_add _

theorem pop?_eq_none (hw : Without h s t) (hpop : t.timers.pop? target = none) :
    s.timers.pop? target = none := by
  have hdue := hw.valid'.lt_due_of_pop?_eq_none hpop
  have htimers := hw.timers
  rw [pop?_eq_none_iff]
  intro u hu
  obtain ⟨rest, hpending⟩ := List.head?_eq_some_iff.mp hu
  rw [hpending] at htimers
  obtain ⟨v, vs, hpair, -, hfilter⟩ := List.forall₂_cons_left_iff.mp htimers
  have hv : v ∈ t.timers.pending := List.mem_of_mem_filter (hfilter ▸ List.mem_cons_self)
  rw [hpair.1]
  exact hdue v hv

variable {v : Timer Cue} {q : Queue Cue}

/-- Nothing comes of a timer of the animation. -/
theorem fired_own (hw : Without h s t) (hpop : t.timers.pop? target = some (v, q))
    (hv : v.task.handle = h) :
    Without h s (t.fired v q) ∧ (t.fired v q).timers = q ∧ left h (t.fired v q) + 1 = left h t := by
  obtain ⟨-, hpending, -⟩ := pop?_eq_some_iff.mp hpop
  have hout : ¬ decide (v.task.handle ≠ h) = true := by simp [hv]
  have hfilter :
      t.timers.pending.filter (·.task.handle ≠ h) = q.pending.filter (·.task.handle ≠ h) := by
    rw [hpending, List.filter_cons, if_neg hout]
  have hleft : left h t = (q.pending.filter fun u => !decide (u.task.handle ≠ h)).length + 1 := by
    unfold left
    rw [hpending, List.filter_cons, if_pos (by simp [hv])]
    rfl
  have htimers := hw.timers
  rw [hfilter] at htimers
  have hgone := hw.gone.fired hpop
  unfold Stage.fired at hgone ⊢
  have hpopped : Without h s { t with timers := q } :=
    ⟨hw.gone.withTimers q, hw.transcript, hw.registry, hw.ended, htimers, hw.known, hw.valid,
      hw.valid'.pop? hpop⟩
  rcases hpopped.gone.play hv with heq | heq
  · rw [heq]
    exact ⟨hpopped, rfl, hleft.symm⟩
  · rw [heq] at hgone ⊢
    refine ⟨⟨hgone, hw.transcript, hw.registry, fun n hne => ?_, htimers, hw.known, hw.valid,
      hw.valid'.pop? hpop⟩, rfl, hleft.symm⟩
    exact (List.mem_cons.trans (or_iff_right hne)).trans (hw.ended n hne)

/-- A timer of another animation fires on both stages. -/
theorem fired_other (hw : Without h s t) (hpop : t.timers.pop? target = some (v, q))
    (hv : v.task.handle ≠ h) : ∃ u p, s.timers.pop? target = some (u, p) ∧
      Without h (s.fired u p) (t.fired v q) ∧
      (s.fired u p).timers.now = (t.fired v q).timers.now ∧ left h (t.fired v q) = left h t := by
  obtain ⟨hdue, hpending, -⟩ := pop?_eq_some_iff.mp hpop
  have htimers := hw.timers
  rw [hpending, List.filter_cons, if_pos (decide_eq_true hv)] at htimers
  obtain ⟨u, us, ⟨hud, htask⟩, hrest, hs⟩ := List.forall₂_cons_right_iff.mp htimers
  obtain ⟨p, hp, rfl⟩ : ∃ p, s.timers.pop? target = some (u, p) ∧ p.pending = us :=
    ⟨{ s.timers with now := max s.timers.now u.due, pending := us },
      pop?_eq_some_iff.mpr ⟨hud ▸ hdue, hs, rfl, rfl⟩, rfl⟩
  have hnow : p.now = q.now := by
    rw [hw.valid.pop?_now hp, hw.valid'.pop?_now hpop, hud]
  have hpopped : Without h { s with timers := p } { t with timers := q } :=
    ⟨hw.gone.withTimers q, hw.transcript, hw.registry, hw.ended, hrest,
      fun w hmem => hw.known w (hs ▸ List.mem_cons_of_mem _ hmem), hw.valid.pop? hp, hw.valid'.pop? hpop⟩
  obtain ⟨hseq, htoken⟩ := hw.known u (hs ▸ List.mem_cons_self)
  refine ⟨u, p, hp, ?_, ?_, ?_⟩
  · unfold Stage.fired
    rw [← htask]
    exact hpopped.play hnow hseq htoken
  · unfold Stage.fired
    rw [now_play, now_play]
    exact hnow
  · have hleft : left h t = (q.pending.filter fun w => !decide (w.task.handle ≠ h)).length := by
      unfold left
      rw [hpending, List.filter_cons, if_neg (by simp [hv])]
    rw [hleft]
    unfold left Stage.fired
    rcases play_timers { t with timers := q } v.task with
      heq | ⟨g, painter, count, start, delay, hcue, -, heq⟩
    · rw [heq]
    · rw [heq]
      refine congrArg List.length (filter_place_of_neg ?_)
      have hg : g ≠ h := by rwa [hcue] at hv
      show (!decide (g ≠ h)) = false
      simp [hg]

/-- Whatever timers fire on a stage, they fire on the other one, and the animation makes no difference.
Its own timers may move the clock of the other stage on, but not past the target. -/
theorem drains (k : Nat) {n : Nat} (hw : Without h s t) (hnow : s.timers.now ≤ t.timers.now)
    (hlate : t.timers.now ≤ max s.timers.now (min target lastTime)) (hd : Drains target s n s')
    (hk : n + left h t = k) : ∃ m ≤ k, ∃ t', Drains target t m t' ∧ Without h s' t' ∧
      s'.timers.now = t'.timers.now := by
  induction k using Nat.strongRecOn generalizing s t n with
  | ind k ih =>
    cases hpop : t.timers.pop? target with
    | none =>
      have hpop' := hw.pop?_eq_none hpop
      cases hd with
      | arrive =>
        refine ⟨0, Nat.zero_le _, _, .arrive hpop, ?_, ?_⟩
        · exact ⟨hw.gone.withTimers _, hw.transcript, hw.registry, hw.ended, hw.timers, hw.known,
            hw.valid.settle hpop', hw.valid'.settle hpop⟩
        · show max s.timers.now (min target lastTime) = max t.timers.now (min target lastTime)
          omega
      | fire hfire =>
        rw [hpop'] at hfire
        cases hfire
    | some r =>
      obtain ⟨v, q⟩ := r
      obtain ⟨hdue, hpending, -⟩ := pop?_eq_some_iff.mp hpop
      by_cases hv : v.task.handle = h
      · obtain ⟨hfired, htimers, hleft⟩ := hw.fired_own hpop hv
        have hvdue := hw.valid'.pop?_now hpop
        have hmem : v ∈ t.timers.pending := hpending ▸ List.mem_cons_self
        have hoverdue := hw.valid'.not_overdue v hmem
        have hlast := hw.valid'.due_le v hmem
        obtain ⟨m, hm, t', hdrains, hrest⟩ := ih (n + left h (t.fired v q)) (by omega) hfired
          (by rw [htimers]; omega) (by rw [htimers]; omega) hd rfl
        exact ⟨m + 1, by omega, t', .fire hpop hdrains, hrest⟩
      · obtain ⟨u, p, hp, hfired, heq, hleft⟩ := hw.fired_other hpop hv
        cases hd with
        | arrive hpop' =>
          rw [hp] at hpop'
          cases hpop'
        | @fire _ _ n _ _ hpop' hd =>
          rw [hp] at hpop'
          cases hpop'
          obtain ⟨m, hm, t', hdrains, hrest⟩ := ih (n + left h (t.fired v q)) (by omega) hfired
            (Nat.le_of_eq heq) (by omega) hd rfl
          exact ⟨m + 1, by omega, t', .fire hpop hdrains, hrest⟩

end Fire

/-- Moving the clock leaves stages the same that were so before, and comes back if it does without the
animation. -/
theorem advanceTo (hw : Without h s t) (hs : s.Going) (hnow : s.timers.now = t.timers.now) {target : Nat}
    (harrives : s.Arrives target) : t.Arrives target ∧
      Without h (s.advanceTo target).2 (t.advanceTo target).2 ∧
      (s.advanceTo target).2.timers.now = (t.advanceTo target).2.timers.now := by
  obtain ⟨n, hn, hd⟩ := hs.drains harrives
  obtain ⟨m, hm, t', hdrains, hrest⟩ := hw.drains _ (Nat.le_of_eq hnow) (by omega) hd rfl
  have hfuel : m ≤ t.fuelTo target := by
    unfold fuelTo at hn ⊢
    rw [hw.length_pending, ← hnow, Nat.add_mul]
    have hleft : left h t ≤ left h t * (target - s.timers.now + 3) :=
      Nat.le_mul_of_pos_right _ (Nat.succ_pos _)
    omega
  rw [Arrives, hdrains.advanceTo_eq hfuel]
  exact ⟨.inr hdrains.pop?_eq_none, hrest⟩

end Without

end VirtualTerminal.Animation.Stage
