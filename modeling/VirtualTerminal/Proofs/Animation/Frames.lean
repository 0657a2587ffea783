import VirtualTerminal.Proofs.Animation.Advance
import VirtualTerminal.Proofs.Animation.Repaint

/-!
# Pictures follow the clock

An animation that shows pictures in turn counts them, it never looks up which one is due. Between two
moves of the clock one timer of it is pending that paints, and its due time and its count belong together
(`Ticking`), whatever others do in the meantime. So the picture shown is told by the time that has passed
(`pictures_of_elapsed`).
-/

namespace VirtualTerminal

namespace Transcript

variable {id id' : Text}

theorem region?_updateRegion (id : Text) (ls : List Line) (t : Transcript) :
    (updateRegion id ls t).region? id = (t.region? id).map fun _ => ls := by
  unfold region?
  induction t with
  | nil => rfl
  | cons e rest ih =>
    unfold updateRegion
    cases he : e.isRegion id with
    | true =>
      rw [if_pos rfl, List.find?_cons_of_pos (by simp [Entry.isRegion]), List.find?_cons_of_pos he]
      rfl
    | false =>
      have hnot : ¬ e.isRegion id = true := Bool.eq_false_iff.mp he
      rw [if_neg Bool.false_ne_true, List.find?_cons_of_neg hnot, List.find?_cons_of_neg hnot, ih]

theorem region?_updateRegion_of_ne (hne : id' ≠ id) (ls : List Line) (t : Transcript) :
    (updateRegion id' ls t).region? id = t.region? id := by
  unfold region?
  induction t with
  | nil => rfl
  | cons e rest ih =>
    unfold updateRegion
    split
    next he =>
      have hother : ∀ ls, ¬ (Entry.region id' ls).isRegion id = true := fun ls =>
        mt of_decide_eq_true hne
      cases e with
      | line l => cases he
      | region i ls' =>
        obtain rfl : i = id' := of_decide_eq_true he
        rw [List.find?_cons_of_neg (hother _), List.find?_cons_of_neg (hother _)]
    next =>
      rw [List.find?_cons, List.find?_cons]
      cases e.isRegion id with
      | true => rfl
      | false => exact ih

end Transcript

namespace Animation

/-- Whether a timer paints for an animation without ending it. -/
def Cue.Paints (h : Handle) (c : Cue) : Prop :=
  c.handle = h ∧ Stage.endedBy? c = none

namespace Stage

variable {h : Handle} {painter : Painter} {count start delay target : Nat} {s s' : Stage}
  {t : Timer Cue} {timers : Queue Cue}

/-! ## What goes on around an animation -/

/-- Whether what others have done spares an animation: the clock and the timers that paint for it are as
they were, it is not active again if it was not, and its region shows what it showed or has been
removed. -/
structure Spares (h : Handle) (s s' : Stage) : Prop where
  now_eq : s'.timers.now = s.timers.now
  valid : s.timers.Valid → s'.timers.Valid
  paints : ∀ t : Timer Cue, t.task.Paints h → (t ∈ s'.timers.pending ↔ t ∈ s.timers.pending)
  quiet : s.isActive h = false → s'.isActive h = false
  region : s'.transcript.region? h.id = s.transcript.region? h.id ∨
    s'.transcript.region? h.id = none

/-- What goes on around an animation: others act, or the clock is being moved. -/
inductive Course where
  | acting
  | moving (target : Nat)

/-- What may happen to a stage around an animation. Others act in ways that spare it, and move the clock.
A move fires the timers that are due, one after the other. Those of the animation do what they are for;
others may do anything that spares the animation, and even move the clock in turn. -/
inductive Passes (h : Handle) : Course → Stage → Stage → Prop where
  | rest (s : Stage) : Passes h .acting s s
  | act {s s₁ s' : Stage} (hspares : Spares h s s₁) (hrest : Passes h .acting s₁ s') :
    Passes h .acting s s'
  | move {s s₁ s' : Stage} {target : Nat} (hmove : Passes h (.moving target) s s₁)
    (hrest : Passes h .acting s₁ s') : Passes h .acting s s'
  | arrive {s : Stage} {target : Nat} (hpop : s.timers.pop? target = none) :
    Passes h (.moving target) s { s with timers := s.timers.settle target }
  | own {s s' : Stage} {target : Nat} {t : Timer Cue} {timers : Queue Cue}
    (hpop : s.timers.pop? target = some (t, timers)) (hown : t.task.handle = h)
    (hrest : Passes h (.moving target) (s.fired t timers) s') : Passes h (.moving target) s s'
  | other {s s₁ s' : Stage} {target : Nat} {t : Timer Cue} {timers : Queue Cue}
    (hpop : s.timers.pop? target = some (t, timers)) (hother : t.task.handle ≠ h)
    (hfire : Passes h .acting { s with timers := timers } s₁)
    (hrest : Passes h (.moving target) s₁ s') : Passes h (.moving target) s s'

/-! ## The next picture -/

/-- Whether an animation has painted its picture `count` and the next one is due one delay later: the
timer for that is the only one that paints for it. -/
structure Ticking (h : Handle) (painter : Painter) (start delay count : Nat) (s : Stage) : Prop where
  next : ∃ t ∈ s.timers.pending, t.task = .picture h painter (count + 1) start delay ∧
    t.due = min (start + (count + 1) * delay) Queue.lastTime ∧
    ∀ u ∈ s.timers.pending, u.task.Paints h → u = t
  painted : start + count * delay ≤ s.timers.now
  region : ∀ ls, s.transcript.region? h.id = some ls → ls = painter count (count * delay)

/-- Whether an animation keeps time: before the last time of the clock, one of its pictures has been
painted and the next one is to come, as long as it is active. -/
structure OnTime (h : Handle) (painter : Painter) (start delay : Nat) (s : Stage) : Prop where
  valid : s.timers.Valid
  ticking : s.isActive h = true → s.timers.now < Queue.lastTime →
    ∃ count, Ticking h painter start delay count s

/-- The next picture is still to come if the clock has moved on and the timers that paint are the same. -/
theorem Ticking.of_paints_iff (hs : Ticking h painter start delay count s)
    (hnow : s.timers.now ≤ s'.timers.now)
    (hpaints : ∀ t : Timer Cue, t.task.Paints h → (t ∈ s'.timers.pending ↔ t ∈ s.timers.pending))
    (hregion : s'.transcript.region? h.id = s.transcript.region? h.id ∨
      s'.transcript.region? h.id = none) :
    Ticking h painter start delay count s' := by
  obtain ⟨t, ht, htask, hdue, honly⟩ := hs.next
  have hpaint : t.task.Paints h := by
    rw [htask]
    exact ⟨rfl, rfl⟩
  refine ⟨⟨t, (hpaints t hpaint).mpr ht, htask, hdue, fun u hu hup => ?_⟩,
    Nat.le_trans hs.painted hnow, fun ls hls => ?_⟩
  · exact honly u ((hpaints u hup).mp hu) hup
  · rcases hregion with heq | hnone
    · exact hs.region ls (heq ▸ hls)
    · rw [hnone] at hls
      cases hls

theorem OnTime.spares (hs : OnTime h painter start delay s) (hspares : Spares h s s') :
    OnTime h painter start delay s' := by
  refine ⟨hspares.valid hs.valid, fun hactive hlast => ?_⟩
  have hbefore : s.isActive h = true := by
    rw [← Bool.not_eq_false]
    intro hinactive
    rw [hspares.quiet hinactive] at hactive
    cases hactive
  obtain ⟨count, hticking⟩ := hs.ticking hbefore (hspares.now_eq ▸ hlast)
  exact ⟨count, hticking.of_paints_iff (Nat.le_of_eq hspares.now_eq.symm) hspares.paints
    hspares.region⟩

/-- The clock moves on, and no timer of the animation fires. -/
theorem OnTime.withTimers (hs : OnTime h painter start delay s) {q : Queue Cue} (hq : q.Valid)
    (hnow : s.timers.now ≤ q.now)
    (hpaints : ∀ t : Timer Cue, t.task.Paints h → (t ∈ q.pending ↔ t ∈ s.timers.pending)) :
    OnTime h painter start delay { s with timers := q } := by
  refine ⟨hq, fun hactive hlast => ?_⟩
  obtain ⟨count, hticking⟩ := hs.ticking hactive (Nat.lt_of_le_of_lt hnow hlast)
  exact ⟨count, hticking.of_paints_iff hnow hpaints (.inl rfl)⟩

theorem OnTime.settle (hs : OnTime h painter start delay s) (hpop : s.timers.pop? target = none) :
    OnTime h painter start delay { s with timers := s.timers.settle target } :=
  hs.withTimers (hs.valid.settle hpop) (Nat.le_max_left _ _) fun _ _ => Iff.rfl

theorem OnTime.pop (hs : OnTime h painter start delay s)
    (hpop : s.timers.pop? target = some (t, timers)) (hother : t.task.handle ≠ h) :
    OnTime h painter start delay { s with timers := timers } := by
  obtain ⟨-, hpending, hnow, -⟩ := Queue.pop?_eq_some_iff.mp hpop
  refine hs.withTimers (hs.valid.pop? hpop) (hnow ▸ Nat.le_max_left _ _) fun u hu => ?_
  rw [hpending, List.mem_cons]
  refine (or_iff_right ?_).symm
  rintro rfl
  exact hother hu.1

theorem handle_of_endedBy? {c : Cue} (hends : endedBy? c = some h) : c.handle = h := by
  cases c with
  | finish h' last => exact Option.some.inj hends
  | _ => cases hends

/-- A picture that is painted shows what its painter makes, and the next one is the only one to come. -/
theorem ticking_play_picture (hactive : s.isActive h = true)
    (hnone : ∀ u ∈ s.timers.pending, ¬ u.task.Paints h) (hnow : s.timers.now = start + count * delay) :
    Ticking h painter start delay count (s.play (.picture h painter count start delay)) := by
  have hupdate : (s.update h (painter count (s.timers.now - start))).timers = s.timers :=
    s.update_timers h _
  rw [play_picture_of_active hactive]
  refine ⟨⟨s.timers.nextTimer delay (.picture h painter (count + 1) start delay), ?_, rfl, ?_, ?_⟩,
    ?_, ?_⟩
  · exact Queue.mem_schedule.mpr (.inl (by rw [hupdate]))
  · show min (s.timers.now + delay) _ = _
    rw [hnow, Nat.add_assoc, Nat.succ_mul]
  · intro u hu hup
    rcases Queue.mem_schedule.mp hu with rfl | hu
    · rw [hupdate]
    · rw [hupdate] at hu
      exact absurd hup (hnone u hu)
  · show _ ≤ (s.update h _).timers.now
    rw [hupdate, hnow]
  · intro ls hls
    have hshown : (s.update h (painter count (s.timers.now - start))).transcript.region? h.id =
        some ls := hls
    unfold Stage.update at hshown
    rw [if_pos hactive] at hshown
    dsimp only at hshown
    rw [Transcript.region?_updateRegion] at hshown
    obtain ⟨-, -, rfl⟩ := Option.map_eq_some_iff.mp hshown
    rw [hnow, Nat.add_sub_cancel_left]

/-- When a timer of the animation fires, either it ends the animation, or it is the one for the next
picture. -/
theorem OnTime.fired (hs : OnTime h painter start delay s)
    (hpop : s.timers.pop? target = some (t, timers)) (hown : t.task.handle = h) :
    OnTime h painter start delay (s.fired t timers) := by
  have hvalid := hs.valid.pop? hpop
  have hnow := hs.valid.pop?_now hpop
  obtain ⟨-, hpending, -⟩ := Queue.pop?_eq_some_iff.mp hpop
  have hmem : t ∈ s.timers.pending := hpending ▸ List.mem_cons_self
  refine ⟨valid_play hvalid t.task, fun hactive hlast => ?_⟩
  have hbefore : s.isActive h = true := (s.quietens_fired t timers).isActive hactive
  have hpaints : t.task.Paints h := by
    refine ⟨hown, Option.eq_none_iff_forall_ne_some.mpr fun h' hends => ?_⟩
    obtain rfl : h = h' := hown.symm.trans (handle_of_endedBy? hends)
    rw [show (s.fired t timers).isActive h = false from isActive_play_of_endedBy? hends] at hactive
    cases hactive
  have hnow' : (s.fired t timers).timers.now = timers.now := now_play { s with timers := timers } t.task
  have hdue_lt : t.due < Queue.lastTime := by
    rw [← hnow, ← hnow']
    exact hlast
  obtain ⟨count, hticking⟩ := hs.ticking hbefore
    (Nat.lt_of_le_of_lt (hs.valid.not_overdue t hmem) hdue_lt)
  obtain ⟨next, -, htask, hdue, honly⟩ := hticking.next
  obtain rfl : t = next := honly t hmem hpaints
  refine ⟨count + 1, ?_⟩
  unfold Stage.fired
  rw [htask]
  refine ticking_play_picture (s := { s with timers := timers }) hbefore (fun u hu hup => ?_) ?_
  · have hnodup := hs.valid.nodup
    rw [hpending] at hnodup
    obtain rfl : u = t := honly u (hpending ▸ List.mem_cons_of_mem _ hu) hup
    exact (List.nodup_cons.mp hnodup).1 (List.mem_map.mpr ⟨u, hu, rfl⟩)
  · show timers.now = _
    omega

/-! ## Between moves of the clock -/

/-- Whether no timer that paints for an animation is due, unless the clock shows its last time. -/
def CaughtUp (h : Handle) (s : Stage) : Prop :=
  s.timers.now < Queue.lastTime → ∀ t ∈ s.timers.pending, t.task.Paints h → s.timers.now < t.due

/-- Whether an animation has caught up with the clock after some course of things, or the clock has not
moved, and a move was to an earlier time. -/
def Catches (h : Handle) (course : Course) (s s' : Stage) : Prop :=
  CaughtUp h s' ∨ s'.timers.now = s.timers.now ∧ (CaughtUp h s → CaughtUp h s') ∧
    ∀ target, course = .moving target → target < s.timers.now

theorem CaughtUp.spares (hs : CaughtUp h s) (hspares : Spares h s s') : CaughtUp h s' := by
  intro hlast t ht hpaints
  rw [hspares.now_eq] at hlast ⊢
  exact hs hlast t ((hspares.paints t hpaints).mp ht) hpaints

theorem Catches.caughtUp (hcatches : Catches h .acting s s') (hs : CaughtUp h s) : CaughtUp h s' := by
  rcases hcatches with hcaught | ⟨-, hkeeps, -⟩
  · exact hcaught
  · exact hkeeps hs

/-- After a move of the clock no timer is due. -/
theorem catches_settle (hs : s.timers.Valid) (hpop : s.timers.pop? target = none) :
    Catches h (.moving target) s { s with timers := s.timers.settle target } := by
  have hnow : (s.timers.settle target).now = max s.timers.now (min target Queue.lastTime) := rfl
  by_cases hearlier : target < s.timers.now
  · have hsame : (s.timers.settle target).now = s.timers.now := by omega
    refine .inr ⟨hsame, fun hcaught hlast t ht hpaints => ?_, fun _ heq => ?_⟩
    · show (s.timers.settle target).now < t.due
      rw [hsame]
      exact hcaught (hsame ▸ hlast) t ht hpaints
    · cases heq
      exact hearlier
  · refine .inl fun hlast t ht _ => ?_
    have hdue := hs.lt_due_of_pop?_eq_none hpop t ht
    have hlast' : (s.timers.settle target).now < Queue.lastTime := hlast
    show (s.timers.settle target).now < t.due
    omega

theorem now_le_of_pop? (hs : s.timers.Valid) (hpop : s.timers.pop? target = some (t, timers)) :
    timers.now ≤ target := by
  rw [hs.pop?_now hpop]
  exact (Queue.pop?_eq_some_iff.mp hpop).1

/-- Whatever goes on around an animation that keeps time, it does so afterwards, and it has caught up with
every move of the clock. -/
theorem Passes.onTime {course : Course} (hpasses : Passes h course s s')
    (hs : OnTime h painter start delay s) :
    OnTime h painter start delay s' ∧ Catches h course s s' := by
  induction hpasses with
  | rest s => exact ⟨hs, .inr ⟨rfl, id, fun _ heq => nomatch heq⟩⟩
  | @act s s₁ s' hspares _ ih =>
    obtain ⟨hs', hcatches⟩ := ih (hs.spares hspares)
    refine ⟨hs', ?_⟩
    rcases hcatches with hcaught | ⟨hnow, hkeeps, -⟩
    · exact .inl hcaught
    · exact .inr ⟨hnow.trans hspares.now_eq, fun hcaught => hkeeps (hcaught.spares hspares),
        fun _ heq => nomatch heq⟩
  | @move s s₁ s' target _ _ ih ih' =>
    obtain ⟨hs₁, hmove⟩ := ih hs
    obtain ⟨hs', hcatches⟩ := ih' hs₁
    refine ⟨hs', ?_⟩
    rcases hmove with hcaught | ⟨hnow, hkeeps, -⟩
    · exact .inl (hcatches.caughtUp hcaught)
    · rcases hcatches with hcaught | ⟨hnow', hkeeps', -⟩
      · exact .inl hcaught
      · exact .inr ⟨hnow'.trans hnow, fun hcaught => hkeeps' (hkeeps hcaught),
          fun _ heq => nomatch heq⟩
  | arrive hpop => exact ⟨hs.settle hpop, catches_settle hs.valid hpop⟩
  | @own s s' target t timers hpop hown _ ih =>
    obtain ⟨hs', hcatches⟩ := ih (hs.fired hpop hown)
    refine ⟨hs', .inl (hcatches.resolve_right ?_)⟩
    rintro ⟨-, -, hearlier⟩
    have hnow : (s.fired t timers).timers.now = timers.now := now_play { s with timers := timers } t.task
    exact Nat.not_lt_of_le (now_le_of_pop? hs.valid hpop) (hnow ▸ hearlier target rfl)
  | @other s s₁ s' target t timers hpop hother _ _ ih ih' =>
    obtain ⟨hs₁, hfire⟩ := ih (hs.pop hpop hother)
    obtain ⟨hs', hcatches⟩ := ih' hs₁
    refine ⟨hs', ?_⟩
    rcases hcatches with hcaught | ⟨-, hkeeps, hearlier⟩
    · exact .inl hcaught
    · rcases hfire with hcaught | ⟨hnow, -, -⟩
      · exact .inl (hkeeps hcaught)
      · have hlt := hearlier target rfl
        rw [hnow] at hlt
        exact absurd hlt (Nat.not_lt_of_le (now_le_of_pop? hs.valid hpop))

/-- Between moves of the clock, the picture shown is told by the time that has passed. -/
theorem OnTime.region_eq (hs : OnTime h painter start delay s) (hcaught : CaughtUp h s)
    (hlast : s.timers.now < Queue.lastTime) (hactive : s.isActive h = true) {ls : List Line}
    (hls : s.transcript.region? h.id = some ls) :
    ls = painter ((s.timers.now - start) / delay) ((s.timers.now - start) / delay * delay) := by
  obtain ⟨count, ⟨t, ht, htask, hdue, -⟩, hpainted, hregion⟩ := hs.ticking hactive hlast
  have hpaints : t.task.Paints h := by
    rw [htask]
    exact ⟨rfl, rfl⟩
  have hnext : s.timers.now < start + (count + 1) * delay :=
    Nat.lt_of_lt_of_le (hcaught hlast t ht hpaints) (hdue ▸ Nat.min_le_left _ _)
  have hcount : (s.timers.now - start) / delay = count :=
    Nat.div_eq_of_lt_le (by omega) (by omega)
  rw [hcount]
  exact hregion ls hls

/-- An animation that starts to show pictures keeps time. -/
theorem onTime_play_picture (hvalid : s.timers.Valid)
    (hnone : ∀ t ∈ s.timers.pending, ¬ t.task.Paints h) (painter : Painter) (hdelay : 0 < delay) :
    OnTime h painter s.timers.now delay (s.play (.picture h painter 0 s.timers.now delay)) ∧
      CaughtUp h (s.play (.picture h painter 0 s.timers.now delay)) := by
  by_cases hactive : s.isActive h = true
  · have hticking : Ticking h painter s.timers.now delay 0
        (s.play (.picture h painter 0 s.timers.now delay)) :=
      ticking_play_picture hactive hnone (by rw [Nat.zero_mul, Nat.add_zero])
    refine ⟨⟨valid_play hvalid _, fun _ _ => ⟨0, hticking⟩⟩, fun hlast u hu hpaints => ?_⟩
    obtain ⟨t, -, -, hdue, honly⟩ := hticking.next
    obtain rfl : u = t := honly u hu hpaints
    rw [now_play] at hlast ⊢
    omega
  · rw [play_picture_of_not_active hactive]
    refine ⟨⟨hvalid, fun h => absurd h hactive⟩, fun _ t ht hpaints => ?_⟩
    exact absurd hpaints (hnone t ht)

/-! ## Moves of a stage -/

/-- Whether the timers that wait on a stage paint for an animation or into other regions. -/
def Apart (h : Handle) (s : Stage) : Prop :=
  ∀ t ∈ s.timers.pending, t.task.handle ≠ h → t.task.handle.id ≠ h.id

theorem region?_update_of_ne {h' : Handle} (hid : h'.id ≠ h.id) (s : Stage) (ls : List Line) :
    (s.update h' ls).transcript.region? h.id = s.transcript.region? h.id := by
  unfold Stage.update
  split
  · exact Transcript.region?_updateRegion_of_ne hid ls _
  · rfl

/-- A timer of an animation with another id spares an animation. -/
theorem spares_play {c : Cue} (hother : c.handle ≠ h) (hid : c.handle.id ≠ h.id) (s : Stage) :
    Spares h s (s.play c) where
  now_eq := s.now_play c
  valid hs := valid_play hs c
  paints t ht := by
    refine ⟨fun hmem => (pending_play hmem).resolve_right fun heq => hother ?_,
      fun hmem => pending_subset_play s c hmem⟩
    exact heq.symm.trans ht.1
  quiet := s.quietens_play c h
  region := by
    refine .inl ?_
    cases c with
    | picture h' painter count start delay =>
      by_cases hactive : s.isActive h' = true
      · rw [play_picture_of_active hactive]
        exact region?_update_of_ne hid s _
      · rw [play_picture_of_not_active hactive]
    | lines h' ls => exact region?_update_of_ne hid s ls
    | finish h' last =>
      cases last with
      | none => rfl
      | some ls => exact region?_update_of_ne hid s ls

theorem Apart.fired (hs : Apart h s) (hpop : s.timers.pop? target = some (t, timers)) :
    Apart h (s.fired t timers) := by
  intro u hu hother
  obtain ⟨v, hv, heq⟩ := handle_mem_fired hpop hu
  rw [heq] at hother ⊢
  exact hs v hv hother

/-- Firing all timers that are due is a move of the clock, and may go on around an animation. -/
theorem Drains.passes {n : Nat} (hdrains : Drains target s n s') (hs : Apart h s) :
    Passes h (.moving target) s s' ∧ Apart h s' := by
  induction hdrains with
  | arrive hpop => exact ⟨.arrive hpop, hs⟩
  | @fire s s' n t timers hpop _ ih =>
    obtain ⟨hrest, hs'⟩ := ih (hs.fired hpop)
    refine ⟨?_, hs'⟩
    by_cases hown : t.task.handle = h
    · exact .own hpop hown hrest
    · obtain ⟨-, hpending, -⟩ := Queue.pop?_eq_some_iff.mp hpop
      have hid := hs t (hpending ▸ List.mem_cons_self) hown
      exact .other hpop hown (.act (spares_play hown hid _) (.rest _)) hrest

/-- So may any moves of the clock before its last time. -/
theorem passes_advanceTo {spared : Handle → Prop} {targets : List Nat} (hs : s.SettledBut spared)
    (hapart : Apart h s) (htargets : ∀ target ∈ targets, target < Queue.lastTime) :
    Passes h .acting s (targets.foldl (fun s target => (s.advanceTo target).2) s) := by
  induction targets generalizing s with
  | nil => exact .rest s
  | cons target rest ih =>
    obtain ⟨htarget, hrest⟩ := List.forall_mem_cons.mp htargets
    obtain ⟨hdrains, hs'⟩ := hs.advanceTo fun _ _ => htarget
    obtain ⟨hpasses, hapart'⟩ := hdrains.passes hapart
    exact .move hpasses (ih hs' hapart' hrest)

/-! ## Frames and pictures of the time -/

/-- What an animation shows is told by the time that has passed since its start. Let the clock show `t₀`
at the start and `t` now, before its last time, and let `d` be the delay asked for, or the least one if
that is longer, which is at least one. While the animation is active and its region is there, that shows
the frame with the number of delays that have passed, counted round the list of frames, or the picture
made for that number of delays: however the clock has been moved, whatever other timers have fired in
between, and whatever else has been done that neither paints for the animation nor drops its timers. Among
that are all moves of the clock of a stage, if no other animation has the same id. -/
theorem pictures_of_elapsed {pace : Pace} (hpaced : s.Paced pace) (hvalid : s.timers.Valid)
    (hnone : ∀ t ∈ s.timers.pending, ¬ t.task.Paints h) :
    let delayOf (requested : Nat) := max requested (max pace.frameDelay 1)
    (∀ frames requested s' ls, frames ≠ [] → Passes h .acting (s.animateFrames h frames requested) s' →
      s'.timers.now < Queue.lastTime → s'.isActive h = true →
      s'.transcript.region? h.id = some ls →
        frames[(s'.timers.now - s.timers.now) / delayOf requested % frames.length]? = some ls) ∧
    (∀ painter framesPerSecond s' ls,
      Passes h .acting (s.animateContinuous h painter framesPerSecond) s' →
      s'.timers.now < Queue.lastTime → s'.isActive h = true →
      s'.transcript.region? h.id = some ls →
        let d := delayOf (1000 / max framesPerSecond 1)
        let k := (s'.timers.now - s.timers.now) / d
        ls = painter k (d * k)) ∧
    ∀ (spared : Handle → Prop) (s₁ : Stage) (targets : List Nat), s₁.SettledBut spared →
      Apart h s₁ → (∀ target ∈ targets, target < Queue.lastTime) →
        Passes h .acting s₁ (targets.foldl (fun s target => (s.advanceTo target).2) s₁) := by
  intro delayOf
  have hdelayOf : ∀ requested, s.delayOf requested = delayOf requested := fun requested =>
    congrArg (max requested) hpaced.2
  have hpos : ∀ requested, 0 < delayOf requested := fun requested =>
    Nat.lt_of_lt_of_le (Nat.lt_of_lt_of_le Nat.one_pos (Nat.le_max_right _ _)) (Nat.le_max_right _ _)
  have hshown : ∀ (painter : Painter) requested s' ls,
      Passes h .acting (s.play (.picture h painter 0 s.timers.now (s.delayOf requested))) s' →
      s'.timers.now < Queue.lastTime → s'.isActive h = true → s'.transcript.region? h.id = some ls →
        ls = painter ((s'.timers.now - s.timers.now) / delayOf requested)
          (delayOf requested * ((s'.timers.now - s.timers.now) / delayOf requested)) := by
    intro painter requested s' ls hpasses hlast hactive hls
    rw [hdelayOf] at hpasses
    obtain ⟨hstart, hcaught⟩ := onTime_play_picture hvalid hnone painter (hpos requested)
    obtain ⟨hs', hcatches⟩ := hpasses.onTime hstart
    rw [Nat.mul_comm]
    exact hs'.region_eq (hcatches.caughtUp hcaught) hlast hactive hls
  refine ⟨fun frames requested s' ls hne hpasses hlast hactive hls => ?_,
    fun painter framesPerSecond s' ls => hshown painter _ s' ls,
    fun spared s₁ targets hs hapart htargets => passes_advanceTo hs hapart htargets⟩
  have hempty : ¬ frames.isEmpty = true := fun h => hne (List.isEmpty_iff.mp h)
  unfold animateFrames at hpasses
  rw [if_neg hempty] at hpasses
  have hls' := hshown _ requested s' ls hpasses hlast hactive hls
  have hlt := Nat.mod_lt ((s'.timers.now - s.timers.now) / delayOf requested)
    (List.length_pos_iff.mpr hne)
  rw [hls', List.getD_eq_getElem?_getD, List.getElem?_eq_getElem hlt]
  rfl

/-- Another animation repaints in between, and the clock is moved unevenly, once not at all. -/
theorem pictures_of_elapsed_beside_another :
    let other : Plan := { start := fun _ => ([.frames [[.blank], []] 7, .finishAfter 1000 none], none) }
    let before := ((other.run "other".toList {} (Stage.new {})).2.advanceTo 5).2
    let h := (before.launch "clock".toList).1
    let s := (before.launch "clock".toList).2
    let frames : List (List Line) := [[.plain ['x']], [.plain ['y']], [.plain ['z']]]
    let s' := [47, 30, 170].foldl (fun s target => (s.advanceTo target).2) (s.animateFrames h frames 40)
    s'.timers.now = 170 ∧ s'.isActive h = true ∧
      s'.transcript.region? h.id = some [.plain ['y']] := by
  intro other before h s frames s'
  have hother : other.Ends := fun _ => .inr (.inr ⟨.finishAfter 1000 none, by simp [other], trivial⟩)
  have hsettled : s.SettledBut (· = h) :=
    (((settled_new _).run hother "other".toList {}).advanceTo 5).2.launch _ h
  have hnone : ∀ t ∈ s.timers.pending, t.task.handle ≠ h := by decide +kernel
  have hapart : ∀ t ∈ (s.animateFrames h frames 40).timers.pending,
      t.task.handle ≠ h → t.task.handle.id ≠ h.id := by decide +kernel
  have hpaced : s.Paced {} := ⟨by decide +kernel, by decide +kernel⟩
  obtain ⟨hframes, -, hmoves⟩ :=
    pictures_of_elapsed hpaced hsettled.valid fun t ht hpaints => hnone t ht hpaints.1
  have hpasses : Passes h .acting (s.animateFrames h frames 40) s' :=
    hmoves _ _ [47, 30, 170] (hsettled.perform (.frames frames 40)) hapart (by decide)
  have hnow : s'.timers.now = 170 := by decide +kernel
  have hactive : s'.isActive h = true := by decide +kernel
  have hregion : (s'.transcript.region? h.id).isSome = true := by decide +kernel
  obtain ⟨ls, hls⟩ := Option.isSome_iff_exists.mp hregion
  refine ⟨hnow, hactive, hls.trans ?_⟩
  rw [← hframes frames 40 s' ls (by simp [frames]) hpasses (by rw [hnow]; decide) hactive hls, hnow]
  decide +kernel

end Stage

end Animation

end VirtualTerminal
