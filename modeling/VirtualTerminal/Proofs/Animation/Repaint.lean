import Mathlib.Data.List.Forall2
import VirtualTerminal.Proofs.Animation.Orderly

/-!
# What timers repaint

A timer changes no transcript but by repainting the region of its own animation, and only while that
is active (`repaints_play`, `play_of_inactive`). An animation that has stopped stays so while timers
fire, so moving the clock repaints only regions of animations that are active before
(`repaints_advanceTo`). A stage owns the handles of the animations begun on it (`Owns`): no two of them
have one id, and every pending timer is of one of them.
-/

namespace VirtualTerminal

namespace Transcript

/-- Whether a transcript differs from another one only in what regions show whose ids are `live`. -/
def Repaints (live : Text → Prop) : Transcript → Transcript → Prop :=
  List.Forall₂ fun e e' => e' = e ∨
    ∃ id ls ls', live id ∧ e = .region id ls ∧ e' = .region id ls'

variable {live : Text → Prop} {t t' t'' : Transcript}

theorem Repaints.refl (live : Text → Prop) (t : Transcript) : t.Repaints live t :=
  List.forall₂_same.mpr fun _ _ => .inl rfl

theorem Repaints.trans (h : t.Repaints live t') (h' : t'.Repaints live t'') :
    t.Repaints live t'' := by
  induction h generalizing t'' with
  | nil => exact h'
  | cons he _ ih =>
    cases h' with
    | cons he' hrest =>
      refine .cons ?_ (ih hrest)
      rcases he with rfl | ⟨id, ls, ls', hlive, rfl, rfl⟩
      · exact he'
      · rcases he' with rfl | ⟨_, _, ls'', -, heq, rfl⟩
        · exact .inr ⟨id, ls, ls', hlive, rfl, rfl⟩
        · cases heq
          exact .inr ⟨id, ls, ls'', hlive, rfl, rfl⟩

theorem Repaints.mono {live' : Text → Prop} (h : t.Repaints live t')
    (hlive : ∀ id, live id → live' id) : t.Repaints live' t' :=
  List.Forall₂.imp (fun _ _ => Or.imp_right fun ⟨id, ls, ls', hid, he, he'⟩ =>
    ⟨id, ls, ls', hlive id hid, he, he'⟩) h

theorem repaints_updateRegion {id : Text} (hlive : live id) (ls : List Line) (t : Transcript) :
    t.Repaints live (t.updateRegion id ls) := by
  induction t with
  | nil => exact .nil
  | cons e rest ih =>
    unfold updateRegion
    split
    next hregion =>
      cases e with
      | line l => cases hregion
      | region id' ls' =>
        obtain rfl : id' = id := of_decide_eq_true hregion
        exact .cons (.inr ⟨id', ls', ls, hlive, rfl, rfl⟩) (Repaints.refl live rest)
    · exact .cons (.inl rfl) ih

end Transcript

namespace Animation.Stage

/-! ## Firing timers -/

variable {live : Text → Prop} {s : Stage}

theorem update_of_inactive {h : Handle} (hinactive : s.isActive h = false) (ls : List Line) :
    s.update h ls = s :=
  if_neg (Bool.eq_false_iff.mp hinactive)

theorem repaints_update {h : Handle} (hlive : s.isActive h = true → live h.id) (ls : List Line) :
    s.transcript.Repaints live (s.update h ls).transcript := by
  cases hactive : s.isActive h with
  | false =>
    rw [update_of_inactive hactive]
    exact .refl live _
  | true =>
    unfold update
    rw [if_pos hactive]
    exact Transcript.repaints_updateRegion (hlive hactive) ls _

/-- A timer repaints the region of its animation while that is active, and nothing else. -/
theorem repaints_play {c : Cue} (hlive : s.isActive c.handle = true → live c.handle.id) :
    s.transcript.Repaints live (s.play c).transcript := by
  cases c with
  | picture h painter count start delay =>
    by_cases hactive : s.isActive h = true
    · rw [play_picture_of_active hactive]
      exact repaints_update hlive _
    · rw [play_picture_of_not_active hactive]
      exact .refl live _
  | lines h ls => exact repaints_update hlive ls
  | finish h last =>
    cases last with
    | none => exact .refl live _
    | some ls => exact repaints_update hlive ls

/-- A timer of an animation that is not active neither paints nor schedules. -/
theorem play_of_inactive {c : Cue} (hinactive : s.isActive c.handle = false) :
    (s.play c).transcript = s.transcript ∧ (s.play c).timers = s.timers := by
  cases c with
  | picture h painter count start delay =>
    have hplay : s.play (.picture h painter count start delay) = s :=
      play_picture_of_not_active (Bool.eq_false_iff.mp hinactive) _ _ _ _
    rw [hplay]
    exact ⟨rfl, rfl⟩
  | lines h ls =>
    have hupdate : s.play (.lines h ls) = s := update_of_inactive hinactive ls
    rw [hupdate]
    exact ⟨rfl, rfl⟩
  | finish h last =>
    cases last with
    | none => exact ⟨rfl, rfl⟩
    | some ls =>
      have hupdate : s.play (.finish h (some ls)) = s.finish h :=
        congrArg (finish · h) (update_of_inactive hinactive ls)
      rw [hupdate]
      exact ⟨rfl, rfl⟩

/-- The timers that `advanceFuel` fires, each with the stage on which it does. -/
def firingsFuel (target : Nat) : (fuel : Nat) → Stage → List (Stage × Cue)
  | 0, _ => []
  | fuel + 1, s =>
    match s.timers.pop? target with
    | none => []
    | some (t, timers) =>
      ({ s with timers := timers }, t.task) ::
        firingsFuel target fuel (play { s with timers := timers } t.task)

/-- The timers that moving the clock fires, each with the stage on which it does. -/
def firings (s : Stage) (target : Nat) : List (Stage × Cue) :=
  firingsFuel target (s.timers.pending.length * (target - s.timers.now + 3) + 1) s

/-- A timer that is pending after a firing is of an animation that had one pending before. -/
theorem handle_mem_fired {target : Nat} {t : Timer Cue} {timers : Queue Cue}
    (hpop : s.timers.pop? target = some (t, timers)) {u : Timer Cue}
    (hu : u ∈ (s.fired t timers).timers.pending) :
    ∃ v ∈ s.timers.pending, u.task.handle = v.task.handle := by
  obtain ⟨-, hpending, -⟩ := Queue.pop?_eq_some_iff.mp hpop
  rw [hpending]
  rcases mem_fired hu with hu | ⟨h, painter, count, start, delay, htask, -, rfl⟩
  · exact ⟨u, List.mem_cons_of_mem _ hu, rfl⟩
  · refine ⟨t, List.mem_cons_self, ?_⟩
    rw [htask]
    rfl

theorem quietens_advanceTo (s : Stage) (target : Nat) : s.Quietens (s.advanceTo target).2 :=
  advanceTo_rec (P := s.Quietens) (fun _ hquiet => hquiet.trans (quietens_fired _ _ _)) id (.refl s)

/-- Every timer fires on a stage on which no animation is active that was not before. -/
theorem quietens_of_mem_firings {target fuel : Nat} {f : Stage × Cue}
    (hf : f ∈ firingsFuel target fuel s) : s.Quietens f.1 := by
  induction fuel generalizing s with
  | zero => cases hf
  | succ fuel ih =>
    unfold firingsFuel at hf
    split at hf
    · cases hf
    next t timers _ =>
      rcases List.mem_cons.mp hf with rfl | hf
      · exact .refl s
      · exact (s.quietens_fired t timers).trans (ih hf)

theorem repaints_advanceFuel (target fuel count : Nat)
    (hlive : ∀ t ∈ s.timers.pending, s.isActive t.task.handle = true → live t.task.handle.id) :
    s.transcript.Repaints live (advanceFuel target fuel count s).2.transcript := by
  induction fuel generalizing s count with
  | zero => exact .refl live _
  | succ fuel ih =>
    unfold advanceFuel
    split
    · exact .refl live _
    next t timers hpop =>
      obtain ⟨-, hpending, -⟩ := Queue.pop?_eq_some_iff.mp hpop
      have hplay : s.transcript.Repaints live (s.fired t timers).transcript :=
        repaints_play (s := { s with timers := timers }) (hlive t (hpending ▸ List.mem_cons_self))
      refine hplay.trans (ih _ fun u hu hactive => ?_)
      obtain ⟨v, hv, heq⟩ := handle_mem_fired hpop hu
      rw [heq] at hactive ⊢
      exact hlive v hv ((s.quietens_fired t timers).isActive hactive)

/-- Moving the clock repaints regions of active animations that have timers pending, and nothing
else. -/
theorem repaints_advanceTo (target : Nat)
    (hlive : ∀ t ∈ s.timers.pending, s.isActive t.task.handle = true → live t.task.handle.id) :
    s.transcript.Repaints live (s.advanceTo target).2.transcript :=
  repaints_advanceFuel target _ 0 hlive

/-! ## The animations of a stage -/

/-- Whether some handles are those of the animations begun on a stage, in order. -/
structure Owns (hs : List Handle) (s : Stage) : Prop where
  seqs : hs.map (·.seq) = List.range s.begun
  ids : ∀ h ∈ hs, ∃ stem, h.id = stem ++ '-' :: Text.ofNat h.seq
  timers : ∀ t ∈ s.timers.pending, t.task.handle ∈ hs

variable {hs : List Handle}

/-- No two animations have one id. -/
theorem Owns.nodup_ids (ho : Owns hs s) : (hs.map (·.id)).Nodup := by
  have hseqs : hs.Pairwise fun a b => a.seq ≠ b.seq := by
    refine List.pairwise_map.mp ?_
    rw [ho.seqs]
    exact List.nodup_range
  refine List.pairwise_map.mpr (hseqs.imp_of_mem fun {a b} ha hb hne heq => hne ?_)
  obtain ⟨stem, hstem⟩ := ho.ids a ha
  obtain ⟨stem', hstem'⟩ := ho.ids b hb
  rw [hstem, hstem'] at heq
  exact number_eq_of_id_eq heq

theorem Owns.withTimers {s' : Stage} (ho : Owns hs s) (hbegun : s'.begun = s.begun)
    (htimers : ∀ t ∈ s'.timers.pending, t ∈ s.timers.pending ∨ t.task.handle ∈ hs) : Owns hs s' :=
  ⟨hbegun ▸ ho.seqs, ho.ids, fun t ht => (htimers t ht).elim (ho.timers t) id⟩

theorem begun_play (s : Stage) (c : Cue) : (s.play c).begun = s.begun := by
  cases c with
  | picture h painter count start delay =>
    by_cases hactive : s.isActive h = true
    · rw [play_picture_of_active hactive]
      exact s.begun_update h _
    · rw [play_picture_of_not_active hactive]
  | lines h ls => exact s.begun_update h ls
  | finish h last =>
    cases last with
    | none => rfl
    | some ls => exact s.begun_update h ls

theorem pending_play {c : Cue} {t : Timer Cue} (ht : t ∈ (s.play c).timers.pending) :
    t ∈ s.timers.pending ∨ t.task.handle = c.handle := by
  rcases s.play_timers c with heq | ⟨h, painter, count, start, delay, rfl, -, heq⟩
  · rw [heq] at ht
    exact .inl ht
  · rw [heq] at ht
    rcases Queue.mem_schedule.mp ht with rfl | ht
    · exact .inr rfl
    · exact .inl ht

theorem Owns.play (ho : Owns hs s) {c : Cue} (hc : c.handle ∈ hs) : Owns hs (s.play c) :=
  ho.withTimers (s.begun_play c) fun t ht =>
    (pending_play ht).imp_right fun heq : t.task.handle = c.handle => heq ▸ hc

theorem Owns.schedule (ho : Owns hs s) {c : Cue} (hc : c.handle ∈ hs) (delay : Nat) :
    Owns hs (s.schedule delay c) := by
  refine ho.withTimers rfl fun t ht => ?_
  rcases Queue.mem_schedule.mp ht with rfl | ht
  · exact .inr hc
  · exact .inl ht

theorem Owns.perform (ho : Owns hs s) {h : Handle} (hh : h ∈ hs) (step : Step) :
    Owns hs (s.perform h step) :=
  perform_rec (P := Owns hs) ho (fun _ hc => ho.play (hc ▸ hh))
    (fun delay _ hc => ho.schedule (hc ▸ hh) delay) (ho.withTimers rfl fun _ => .inl)
    (ho.withTimers rfl fun _ => .inl) step

theorem Owns.foldl_perform (ho : Owns hs s) {h : Handle} (hh : h ∈ hs) (steps : List Step) :
    Owns hs (steps.foldl (fun s step => s.perform h step) s) := by
  induction steps generalizing s with
  | nil => exact ho
  | cons step steps ih => exact ih (ho.perform hh step)

theorem Owns.advanceTo (ho : Owns hs s) (target : Nat) : Owns hs (s.advanceTo target).2 := by
  refine advanceTo_rec (fun {s t timers} hpop ho => ?_) (fun ho => ho.withTimers rfl fun _ => .inl) ho
  refine ho.withTimers (begun_play _ _) fun u hu => .inr ?_
  obtain ⟨v, hv, heq⟩ := handle_mem_fired hpop hu
  exact heq ▸ ho.timers v hv

theorem owns_new (pace : Pace) : Owns [] (Stage.new pace) :=
  ⟨rfl, fun _ h => (nomatch h), fun _ h => nomatch h⟩

theorem Owns.launch (ho : Owns hs s) (name : Text) :
    Owns (hs ++ [(s.launch name).1]) (s.launch name).2 := by
  refine ⟨?_, fun h hh => ?_, fun t ht => List.mem_append_left _ (ho.timers t ht)⟩
  · rw [List.map_append, ho.seqs]
    exact List.range_succ.symm
  · rcases List.mem_append.mp hh with hh | hh
    · exact ho.ids h hh
    · rw [List.mem_singleton.mp hh]
      exact ⟨_, rfl⟩

theorem Owns.run (ho : Owns hs s) (plan : Plan) (name : Text) (i : Invocation) :
    Owns (hs ++ [(s.launch name.lower).1]) (plan.run name i s).2 := by
  rw [stage_run]
  exact (ho.launch name.lower).foldl_perform (List.mem_append_right _ List.mem_cons_self) _

end Animation.Stage

end VirtualTerminal
