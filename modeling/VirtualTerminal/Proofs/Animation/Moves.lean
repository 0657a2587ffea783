import Mathlib.Logic.Relation
import VirtualTerminal.Proofs.Animation.Advance
import VirtualTerminal.Proofs.Animation.Drawing
import VirtualTerminal.Proofs.Animation.Registers

/-!
# Whatever happens on a stage

A stage that comes about by any moves is prepared for the next animation (`Prepared.leads`): nothing on it
has the id or the token that this animation gets. An animation that has ended and whose region has been
removed is gone (`Gone`): whatever happens afterwards, nothing that it still does can be seen
(`Gone.leads`, `Gone.perform`, `Gone.play`).
-/

namespace VirtualTerminal.Animation

/-- Whether an id is none that an animation ever gets. -/
def Foreign (id : Text) : Prop :=
  ∀ n, ¬ IsNumbered id n

theorem Foreign.behind {id : Text} (h : Foreign id) (begun : Nat) : Behind begun id :=
  fun n hn => absurd hn (h n)

namespace Stage

variable {s s' : Stage} {h : Handle}

/-! ## Moves -/

/-- What may happen on a stage. -/
inductive Moves : Stage → Stage → Prop where
  | launch {s : Stage} (name : Text) : Moves s (s.launch name).2
  /-- An animation may at any time do any step, as from a timer of its own. -/
  | perform {s : Stage} {h : Handle} (known : s.Knows h) (step : Step) : Moves s (s.perform h step)
  | advance {s : Stage} {target : Nat} (arrives : s.Arrives target) : Moves s (s.advanceTo target).2
  | clear {s : Stage} : Moves s s.clear
  | reset {s : Stage} : Moves s s.reset
  /-- A host may stop animations and register others under ids of its own. -/
  | manage {s : Stage} (tasks : List Task) (foreign : ∀ id ∈ registersAll tasks, Foreign id) :
    Moves s { s with registry := s.registry.run (tasks.map .task) }
  /-- A host may write into the transcript and open regions with ids of its own. -/
  | rewrite {s : Stage} (t : Transcript)
    (foreign : ∀ id ∈ t.ids, id ∈ s.transcript.ids ∨ Foreign id) : Moves s { s with transcript := t }

/-- Whether one stage comes about from another one. -/
abbrev Leads : Stage → Stage → Prop :=
  Relation.ReflTransGen Moves

theorem leads_launch_foldl (s : Stage) (name : Text) (steps : List Step) :
    s.Leads (steps.foldl (fun s' step => s'.perform (s.launch name).1 step) (s.launch name).2) := by
  have hsteps : ∀ {s' : Stage}, s.Leads s' → s'.Knows (s.launch name).1 →
      s.Leads (steps.foldl (fun s' step => s'.perform (s.launch name).1 step) s') := by
    induction steps with
    | nil => exact fun hs _ => hs
    | cons step steps ih => exact fun hs hh => ih (hs.tail (.perform hh step)) (hh.perform step)
  exact hsteps (.single (.launch name)) (s.knows_launch name)

/-- Running a plan is beginning an animation and doing its steps. -/
theorem leads_run (s : Stage) (plan : Plan) (name : Text) (i : Invocation) :
    s.Leads (plan.run name i s).2 := by
  rw [stage_run]
  exact s.leads_launch_foldl name.lower _

theorem leads_write (s : Stage) (lines : List Line) :
    s.Leads { s with transcript := s.transcript.extend lines } := by
  refine .single (.rewrite _ fun id hid => .inl ?_)
  rwa [Transcript.ids_extend] at hid

/-! ## What cues and steps change -/

/-- Whether one stage may come of another one by a timer or a step of an animation: no animation is begun,
no region is opened, the registry at most loses the animation, and other timers stay what they are. -/
structure Touches (h : Handle) (s s' : Stage) : Prop where
  begun : s'.begun = s.begun
  ended : s.ended ⊆ s'.ended
  registry : s'.registry = s.registry ∨ s'.registry = s.registry.stop h.id ∨
    s'.registry = s.registry.cancel h.token
  ids : s'.transcript.ids ⊆ s.transcript.ids
  pending : ∀ t ∈ s'.timers.pending, t ∈ s.timers.pending ∨ t.task.handle = h

theorem Touches.refl (h : Handle) (s : Stage) : s.Touches h s :=
  ⟨rfl, List.Subset.refl _, .inl rfl, List.Subset.refl _, fun _ => .inl⟩

theorem touches_update (s : Stage) (h : Handle) (ls : List Line) : s.Touches h (s.update h ls) := by
  unfold update
  split
  · refine ⟨rfl, List.Subset.refl _, .inl rfl, ?_, fun _ => .inl⟩
    rw [Transcript.ids_updateRegion]
    exact List.Subset.refl _
  · exact .refl h s

theorem Touches.schedule (ht : Touches h s s') (delay : Nat) {c : Cue} (hc : c.handle = h) :
    Touches h s (s'.schedule delay c) := by
  refine ⟨ht.begun, ht.ended, ht.registry, ht.ids, fun t hmem => ?_⟩
  rcases Queue.mem_schedule.mp hmem with rfl | hmem
  · exact .inr hc
  · exact ht.pending t hmem

/-- An animation that ends is taken out of the registry. -/
theorem Touches.finish (ht : Touches h s s') (hregistry : s'.registry = s.registry) :
    Touches h s (s'.finish h) := by
  refine ⟨ht.begun, fun n hn => List.mem_cons_of_mem _ (ht.ended hn), .inr (.inl ?_), ht.ids, ht.pending⟩
  show s'.registry.stop h.id = _
  rw [hregistry]

theorem touches_play (s : Stage) (c : Cue) : s.Touches c.handle (s.play c) := by
  cases c with
  | picture h painter count start delay =>
    by_cases hactive : s.isActive h = true
    · rw [play_picture_of_active hactive]
      exact (s.touches_update h _).schedule delay rfl
    · rw [play_picture_of_not_active hactive]
      exact .refl _ s
  | lines h ls => exact s.touches_update h ls
  | finish h last =>
    cases last with
    | none => exact (Touches.refl h s).finish rfl
    | some ls =>
      refine (s.touches_update h ls).finish ?_
      unfold update
      split <;> rfl

theorem touches_perform (s : Stage) (h : Handle) (step : Step) : s.Touches h (s.perform h step) := by
  have hrefl : s.Touches h s := .refl h s
  refine perform_rec (h := h) (P := s.Touches h) hrefl (fun c hc => hc ▸ s.touches_play c)
    (fun delay c hc => hrefl.schedule delay hc) ?cancel ?abandon step
  case cancel => exact ⟨rfl, List.Subset.refl _, .inr (.inr rfl), List.Subset.refl _, fun _ => .inl⟩
  case abandon =>
    have hfinish := hrefl.finish rfl
    refine ⟨rfl, hfinish.ended, hfinish.registry, ?_, hfinish.pending⟩
    show (s.transcript.removeRegion h.id).ids ⊆ _
    rw [Transcript.ids_removeRegion]
    exact List.filter_sublist.subset

/-- A timer that fires leaves the queue before. -/
theorem Touches.fired {target : Nat} {t : Timer Cue} {timers : Queue Cue}
    (hpop : s.timers.pop? target = some (t, timers)) : s.Touches t.task.handle (s.fired t timers) := by
  obtain ⟨-, hpending, -⟩ := Queue.pop?_eq_some_iff.mp hpop
  obtain ⟨hbegun, hended, hregistry, hids, hmem⟩ := touches_play { s with timers := timers } t.task
  refine ⟨hbegun, hended, hregistry, hids, fun u hu => (hmem u hu).imp_left fun hu => ?_⟩
  rw [hpending]
  exact List.mem_cons_of_mem _ hu

theorem Touches.usesOnly {P : Text → Prop} (ht : Touches h s s') (hs : s.registry.UsesOnly P) :
    s'.registry.UsesOnly P := by
  rcases ht.registry with heq | heq | heq
  · rwa [heq]
  · rw [heq]
    exact hs.stop h.id
  · rw [heq]
    exact hs

theorem Touches.nextToken_le (ht : Touches h s s') : s.registry.nextToken ≤ s'.registry.nextToken := by
  rcases ht.registry with heq | heq | heq
  · rw [heq]
  · rw [heq]
    exact Registry.nextToken_le_runFuel _ _ _
  · rw [heq]
    exact Nat.le_refl _

/-! ## Prepared stages -/

/-- Whether a stage is prepared for the next animation: nothing has its id, and no timer its token. -/
structure Prepared (s : Stage) : Prop where
  orderly : s.Orderly
  going : s.Going
  ids : s.registry.UsesOnly (Behind s.begun)
  tokens : ∀ t ∈ s.timers.pending, t.task.handle.token < s.registry.nextToken

theorem prepared_new (pace : Pace) : (Stage.new pace).Prepared where
  orderly := orderly_new pace
  going := ⟨Queue.valid_empty, (settled_new pace).frameDelay_pos, fun _ ht => nomatch ht⟩
  ids _ _ hr := nomatch hr
  tokens _ ht := nomatch ht

theorem Prepared.of_touches (hs : s.Prepared) (ht : Touches h s s') (horderly : s'.Orderly)
    (hgoing : s'.Going) (hh : h.token < s.registry.nextToken) : s'.Prepared := by
  refine ⟨horderly, hgoing, ?_, fun t hmem => ?_⟩
  · rw [ht.begun]
    exact ht.usesOnly hs.ids
  · refine Nat.lt_of_lt_of_le ?_ ht.nextToken_le
    rcases ht.pending t hmem with hmem | heq
    · exact hs.tokens t hmem
    · rwa [heq]

/-- Work in the registry that brings in no ids that animations still get. -/
theorem Prepared.withRegistry (hs : s.Prepared) {work : List Work}
    (hwork : ∀ w ∈ work, w.token? = none ∧ ∀ id ∈ w.registers, Behind s.begun id) :
    Prepared { s with registry := s.registry.run work } where
  orderly := hs.orderly.withRegistry <| hs.orderly.ready.run fun w hw token heq => by
    rw [(hwork w hw).1] at heq
    cases heq
  going := hs.going.of_quietens rfl rfl (s.quietens_run _)
  ids := hs.ids.run fun w hw => (hwork w hw).2
  tokens t ht := Nat.lt_of_lt_of_le (hs.tokens t ht) (Registry.nextToken_le_runFuel _ _ _)

theorem Prepared.withTranscript (hs : s.Prepared) {t : Transcript}
    (ht : ∀ id ∈ t.ids, id ∈ s.transcript.ids ∨ Foreign id) :
    Prepared { s with transcript := t } where
  orderly := ⟨fun id hid => (ht id hid).elim (hs.orderly.regions id) (·.behind _), hs.orderly.ended,
    hs.orderly.timers, hs.orderly.ready⟩
  going := hs.going.of_quietens rfl rfl (.refl s)
  ids := hs.ids
  tokens := hs.tokens

theorem Prepared.clear (hs : s.Prepared) : s.clear.Prepared := by
  have hstopped : Prepared { s with registry := s.registry.stopAll } :=
    hs.withRegistry (List.forall_mem_singleton.mpr ⟨rfl, List.forall_mem_nil _⟩)
  exact hstopped.withTranscript (List.forall_mem_nil _)

theorem Prepared.reset (hs : s.Prepared) : s.reset.Prepared where
  orderly := hs.orderly.reset
  going := ⟨hs.going.valid.clear, hs.going.frameDelay_pos, fun _ ht => nomatch ht⟩
  ids := hs.clear.ids
  tokens _ ht := nomatch ht

theorem Prepared.launch (hs : s.Prepared) (name : Text) : (s.launch name).2.Prepared where
  orderly := hs.orderly.launch name
  going := hs.going.of_quietens rfl rfl (s.quietens_launch name)
  ids := by
    have hold : s.registry.UsesOnly (Behind (s.begun + 1)) :=
      hs.ids.mono fun _ hid => hid.mono (Nat.le_succ _)
    have hfresh : s.registry.freshToken.2.UsesOnly (Behind (s.begun + 1)) := hold
    exact hfresh.register ((s.isNumbered_nextId name).behind (Nat.lt_succ_self _)) _
  tokens t ht := Nat.lt_of_lt_of_le (Nat.lt_succ_of_lt (hs.tokens t ht))
    (Registry.nextToken_le_runFuel _ _ s.registry.freshToken.2)

theorem Prepared.fired (hs : s.Prepared) {target : Nat} {t : Timer Cue} {timers : Queue Cue}
    (hpop : s.timers.pop? target = some (t, timers)) : (s.fired t timers).Prepared := by
  obtain ⟨-, hpending, -⟩ := Queue.pop?_eq_some_iff.mp hpop
  refine hs.of_touches (.fired hpop) (hs.orderly.fired hpop) (hs.going.fired hpop) (hs.tokens t ?_)
  rw [hpending]
  exact List.mem_cons_self

theorem Drains.prepared {target n : Nat} (h : Drains target s n s') (hs : s.Prepared) :
    s'.Prepared := by
  induction h with
  | arrive hpop =>
    exact ⟨hs.orderly.withTimers hs.orderly.timers, hs.going.settle hpop, hs.ids, hs.tokens⟩
  | fire hpop _ ih => exact ih (hs.fired hpop)

theorem Prepared.advanceTo (hs : s.Prepared) {target : Nat} (h : s.Arrives target) :
    (s.advanceTo target).2.Prepared := by
  obtain ⟨n, -, hdrains⟩ := hs.going.drains h
  exact hdrains.prepared hs

theorem Prepared.moves (hs : s.Prepared) (h : Moves s s') : s'.Prepared := by
  cases h with
  | launch name => exact hs.launch name
  | @perform h known step =>
    exact hs.of_touches (s.touches_perform h step) (hs.orderly.perform known step)
      (hs.going.perform_of_spared trivial step) known.token
  | advance arrives => exact hs.advanceTo arrives
  | clear => exact hs.clear
  | reset => exact hs.reset
  | manage tasks foreign =>
    refine hs.withRegistry fun w hw => ?_
    obtain ⟨t, ht, rfl⟩ := List.mem_map.mp hw
    exact ⟨rfl, fun id hid => (foreign id (mem_registersAll.mpr ⟨t, ht, hid⟩)).behind _⟩
  | rewrite t foreign => exact hs.withTranscript foreign

/-- Whatever has happened on a prepared stage, it is prepared. -/
theorem Prepared.leads (hs : s.Prepared) (h : s.Leads s') : s'.Prepared := by
  induction h with
  | refl => exact hs
  | tail _ hmove ih => exact ih.moves hmove

/-! ## Animations that are gone -/

/-- Whether an animation has ended and nothing is left of it but timers. -/
structure Gone (h : Handle) (s : Stage) : Prop where
  begun : h.seq < s.begun
  ended : h.seq ∈ s.ended
  region : h.id ∉ s.transcript.ids
  registry : s.registry.UsesOnly (· ≠ h.id)

theorem Gone.isActive (hg : s.Gone h) : s.isActive h = false :=
  isActive_eq_false_iff.mpr (.inl hg.ended)

theorem Gone.stop (hg : s.Gone h) : s.registry.stop h.id = s.registry :=
  Registry.stop_of_absent (hg.registry.find?_eq_none fun hne => hne rfl)

theorem Gone.not_mem_ids (hg : s.Gone h) : h.id ∉ s.registry.ids := by
  unfold Registry.ids
  rw [Table.mem_keys_iff, hg.registry.find?_eq_none fun hne => hne rfl]
  exact Bool.false_ne_true

theorem Gone.of_touches (hg : s.Gone h) {g : Handle} (ht : s.Touches g s') : s'.Gone h where
  begun := ht.begun.symm ▸ hg.begun
  ended := ht.ended hg.ended
  region hmem := hg.region (ht.ids hmem)
  registry := ht.usesOnly hg.registry

theorem Gone.fired (hg : s.Gone h) {target : Nat} {t : Timer Cue} {timers : Queue Cue}
    (hpop : s.timers.pop? target = some (t, timers)) : (s.fired t timers).Gone h :=
  hg.of_touches (.fired hpop)

theorem Gone.withTimers (hg : s.Gone h) (q : Queue Cue) : Gone h { s with timers := q } :=
  ⟨hg.begun, hg.ended, hg.region, hg.registry⟩

theorem Gone.advanceTo (hg : s.Gone h) (target : Nat) : (s.advanceTo target).2.Gone h :=
  advanceTo_rec (P := Gone h) (fun hpop hg => hg.fired hpop) (fun hg => hg.withTimers _) hg

theorem Gone.ne_nextId (hg : s.Gone h) (hid : IsNumbered h.id h.seq) (name : Text) :
    s.nextId name ≠ h.id := by
  intro heq
  have hseq : s.begun = h.seq := (s.isNumbered_nextId name).eq (heq ▸ hid)
  exact Nat.ne_of_gt hg.begun hseq

theorem Gone.launch (hg : s.Gone h) (hid : IsNumbered h.id h.seq) (name : Text) :
    (s.launch name).2.Gone h where
  begun := Nat.lt_succ_of_lt hg.begun
  ended := hg.ended
  region := by
    have hne := hg.ne_nextId hid name
    show h.id ∉ (s.transcript.openRegion (s.nextId name)).ids
    unfold Transcript.openRegion
    split
    · exact hg.region
    · rw [Transcript.ids_append, List.mem_append]
      exact not_or_intro hg.region fun hmem => hne (List.mem_singleton.mp hmem).symm
  registry := by
    have hfresh : s.registry.freshToken.2.UsesOnly (· ≠ h.id) := hg.registry
    exact hfresh.register (hg.ne_nextId hid name) _

theorem Gone.moves (hg : s.Gone h) (hid : IsNumbered h.id h.seq) (hmove : Moves s s') :
    s'.Gone h := by
  have hforeign : ∀ {id}, Foreign id → id ≠ h.id := fun hf heq => hf _ (heq ▸ hid)
  cases hmove with
  | launch name => exact hg.launch hid name
  | @perform g _ step => exact hg.of_touches (s.touches_perform g step)
  | advance _ => exact hg.advanceTo _
  | clear => exact ⟨hg.begun, hg.ended, List.not_mem_nil, hg.registry.stopAll⟩
  | reset => exact ⟨hg.begun, hg.ended, List.not_mem_nil, hg.registry.stopAll⟩
  | manage tasks foreign =>
    refine ⟨hg.begun, hg.ended, hg.region, hg.registry.run fun w hw id hmem => ?_⟩
    obtain ⟨t, ht, rfl⟩ := List.mem_map.mp hw
    exact hforeign (foreign id (mem_registersAll.mpr ⟨t, ht, hmem⟩))
  | rewrite t foreign =>
    refine ⟨hg.begun, hg.ended, fun hmem => ?_, hg.registry⟩
    exact (foreign h.id hmem).elim hg.region fun hf => hforeign hf rfl

/-- An animation that is gone stays so, whatever happens. -/
theorem Gone.leads (hg : s.Gone h) (hid : IsNumbered h.id h.seq) (hleads : s.Leads s') :
    s'.Gone h := by
  induction hleads with
  | refl => exact hg
  | tail _ hmove ih => exact ih.moves hid hmove

theorem Gone.finish (hg : s.Gone h) : s.finish h = { s with ended := h.seq :: s.ended } := by
  unfold Stage.finish
  rw [hg.stop]

/-- A timer of an animation that is gone at most ends it once more. -/
theorem Gone.play (hg : s.Gone h) {c : Cue} (hc : c.handle = h) :
    s.play c = s ∨ s.play c = { s with ended := h.seq :: s.ended } := by
  subst hc
  have hinactive := hg.isActive
  cases c with
  | picture h painter count start delay =>
    exact .inl (play_picture_of_not_active (Bool.eq_false_iff.mp hinactive) _ _ _ _)
  | lines h ls => exact .inl (update_of_inactive hinactive ls)
  | finish h last =>
    refine .inr ?_
    cases last with
    | none => exact hg.finish
    | some ls => exact (congrArg (Stage.finish · h) (update_of_inactive hinactive ls)).trans hg.finish

/-- An animation that is gone shows nothing and registers nothing, whatever step it does. -/
theorem Gone.perform (hg : s.Gone h) (step : Step) :
    (s.perform h step).transcript = s.transcript ∧
      (s.perform h step).registry.ids = s.registry.ids := by
  refine perform_rec (h := h)
    (P := fun s' => s'.transcript = s.transcript ∧ s'.registry.ids = s.registry.ids)
    ⟨rfl, rfl⟩ (fun c hc => ?play) (fun _ _ _ => ⟨rfl, rfl⟩) ⟨rfl, rfl⟩ ?abandon step
  case play => rcases hg.play hc with heq | heq <;> rw [heq] <;> exact ⟨rfl, rfl⟩
  case abandon =>
    have hregion : s.transcript.hasRegion h.id = false :=
      Bool.eq_false_iff.mpr (mt Transcript.mem_ids.mpr hg.region)
    unfold Stage.abandon
    rw [hg.finish]
    exact ⟨Transcript.removeRegion_of_absent hregion, rfl⟩

/-- Every timer fires on a stage from which the animation is still gone. -/
theorem Gone.of_mem_firings (hg : s.Gone h) {target fuel : Nat} {f : Stage × Cue}
    (hf : f ∈ firingsFuel target fuel s) : f.1.Gone h := by
  induction fuel generalizing s with
  | zero => cases hf
  | succ fuel ih =>
    unfold firingsFuel at hf
    split at hf
    · cases hf
    next t timers hpop =>
      rcases List.mem_cons.mp hf with rfl | hf
      · exact hg.withTimers timers
      · exact ih (hg.fired hpop) hf

end Stage

end VirtualTerminal.Animation
