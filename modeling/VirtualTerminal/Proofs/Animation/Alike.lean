import VirtualTerminal.Proofs.Animation.Active

/-!
# Stages that differ in numbers

Numbers of animations count on when a stage is emptied, so two stages on which the same happens may
have different numbers for the same animations. They are alike (`Stage.Alike`) if the numbers of one
are those of the other with something added: then the same animations are active, their regions show
the same, and the same timers are pending. Whatever happens on both stages keeps them alike, as long as
no plan looks at the id of its animation.
-/

namespace VirtualTerminal

/-! ## Ids and transcripts -/

/-- Whether two ids differ only in the numbers at their ends, the second having `k` more. -/
def Renumbered (k : Nat) (id id' : Text) : Prop :=
  ∃ stem n, id = stem ++ '-' :: Text.ofNat n ∧ id' = stem ++ '-' :: Text.ofNat (n + k)

section Alike

variable {k : Nat} {id id' : Text}

/-- Renumbering keeps different ids apart. -/
theorem Renumbered.eq_iff {i i' : Text} (h : Renumbered k id id') (h' : Renumbered k i i') :
    id = i ↔ id' = i' := by
  obtain ⟨stem, n, rfl, rfl⟩ := h
  obtain ⟨stem', m, rfl, rfl⟩ := h'
  constructor
  · intro heq
    obtain rfl : n = m := Animation.number_eq_of_id_eq heq
    rw [List.append_cancel_right heq]
  · intro heq
    obtain rfl : n = m := Nat.add_right_cancel (Animation.number_eq_of_id_eq heq)
    rw [List.append_cancel_right heq]

/-- Whether two entries are the same, up to the number in the id of a region. -/
inductive Entry.Alike (k : Nat) : Entry → Entry → Prop where
  | line (l : Line) : Alike k (.line l) (.line l)
  | region {id id' : Text} (hid : Renumbered k id id') (ls : List Line) :
    Alike k (.region id ls) (.region id' ls)

theorem Entry.Alike.isRegion {e e' : Entry} (he : e.Alike k e') (hid : Renumbered k id id') :
    e.isRegion id = e'.isRegion id' := by
  cases he with
  | line l => rfl
  | region hregion ls => exact decide_eq_decide.mpr (hregion.eq_iff hid)

/-- Whether two transcripts are the same, up to the numbers in the ids of regions. -/
def Transcript.Alike (k : Nat) : Transcript → Transcript → Prop :=
  List.Forall₂ (Entry.Alike k)

namespace Transcript.Alike

variable {t t' : Transcript}

theorem append {u u' : Transcript} (h : t.Alike k t') (hu : Transcript.Alike k u u') :
    Transcript.Alike k (t ++ u) (t' ++ u') :=
  List.rel_append h hu

theorem extend (h : t.Alike k t') (ls : List Line) :
    Transcript.Alike k (t.extend ls) (t'.extend ls) :=
  h.append (List.forall₂_map_left_iff.mpr
    (List.forall₂_map_right_iff.mpr (List.forall₂_same.mpr fun l _ => .line l)))

theorem updateRegion (h : t.Alike k t') (hid : Renumbered k id id') (ls : List Line) :
    Transcript.Alike k (t.updateRegion id ls) (t'.updateRegion id' ls) := by
  induction h with
  | nil => exact .nil
  | cons he hrest ih =>
    unfold Transcript.updateRegion
    rw [he.isRegion hid]
    split
    · exact .cons (.region hid ls) hrest
    · exact .cons he ih

theorem removeRegion (h : t.Alike k t') (hid : Renumbered k id id') :
    Transcript.Alike k (t.removeRegion id) (t'.removeRegion id') := by
  refine List.rel_filter (fun e e' he => ?_) h
  show (!e.isRegion id) = true ↔ (!e'.isRegion id') = true
  rw [he.isRegion hid]

end Transcript.Alike

end Alike

namespace Animation

/-! ## Plans, handles and timers -/

/-- Whether a plan does the same whatever the id of its animation is. -/
def Plan.IgnoresId (plan : Plan) : Prop :=
  ∀ scene id, plan.start { scene with id := id } = plan.start scene

theorem Plan.IgnoresId.steps {plan : Plan} (hplan : plan.IgnoresId) (scene : Scene) (id : Text) :
    plan.steps { scene with id := id } = plan.steps scene := by
  unfold Plan.steps
  rw [hplan]

/-- Whether two handles are those of one animation, which has number `k` more on the second stage. -/
structure Twin (k : Nat) (h h' : Handle) : Prop where
  seq : h'.seq = h.seq + k
  id : ∃ stem, h.id = stem ++ '-' :: Text.ofNat h.seq ∧ h'.id = stem ++ '-' :: Text.ofNat h'.seq

theorem Twin.renumbered {k : Nat} {h h' : Handle} (ht : Twin k h h') : Renumbered k h.id h'.id := by
  obtain ⟨stem, hid, hid'⟩ := ht.id
  rw [ht.seq] at hid'
  exact ⟨stem, h.seq, hid, hid'⟩

/-- Whether two timers do the same for one animation. -/
inductive Cue.Alike (k : Nat) : Cue → Cue → Prop where
  | picture {h h' : Handle} (twin : Twin k h h') (painter : Painter) (count start delay : Nat) :
    Alike k (.picture h painter count start delay) (.picture h' painter count start delay)
  | lines {h h' : Handle} (twin : Twin k h h') (ls : List Line) : Alike k (.lines h ls) (.lines h' ls)
  | finish {h h' : Handle} (twin : Twin k h h') (last : Option (List Line)) :
    Alike k (.finish h last) (.finish h' last)

namespace Stage

/-! ## Stages -/

/-- Whether two stages with some animations are the same, up to numbers: the first `k` animations that
were begun on the second are over, and the others are those of the first. -/
structure Alike (k : Nat) (hs hs' : List Handle) (s s' : Stage) : Prop where
  hosts : Hosts hs s
  hosts' : Hosts hs' s'
  begun : s'.begun = s.begun + k
  framesPerSecond : s.framesPerSecond = s'.framesPerSecond
  frameDelay : s.frameDelay = s'.frameDelay
  timers : s.timers.Alike (Cue.Alike k) s'.timers
  transcript : s.transcript.Alike k s'.transcript
  active : ∀ h ∈ hs, ∀ h' ∈ hs', Twin k h h' → (s.isActive h = true ↔ s'.isActive h' = true)
  twin : ∀ h ∈ hs, ∃ h' ∈ hs', Twin k h h'
  twin' : ∀ h' ∈ hs', s'.isActive h' = true → ∃ h ∈ hs, Twin k h h'

variable {k : Nat} {hs hs' : List Handle} {s s' : Stage} {h h' : Handle}

/-- Stages on which nothing is active, pending or shown. -/
theorem alike_of_empty (ho : Hosts [] s) (ho' : Hosts hs' s')
    (hframes : s.framesPerSecond = s'.framesPerSecond) (hdelay : s.frameDelay = s'.frameDelay)
    (hnow : s.timers.now = s'.timers.now) (hpending : s.timers.pending = [])
    (hpending' : s'.timers.pending = []) (ht : s.transcript = []) (ht' : s'.transcript = [])
    (hinactive : ∀ h' ∈ hs', s'.isActive h' = false) : Alike s'.begun [] hs' s s' where
  hosts := ho
  hosts' := ho'
  begun := by
    have hbegun := congrArg List.length ho.owns.seqs
    rw [List.length_range] at hbegun
    rw [← hbegun]
    exact (Nat.zero_add _).symm
  framesPerSecond := hframes
  frameDelay := hdelay
  timers := Queue.alike_of_empty hnow hpending hpending'
  transcript := by
    rw [ht, ht']
    exact .nil
  active _ hh := nomatch hh
  twin _ hh := nomatch hh
  twin' h' hh' hactive := by
    rw [hinactive h' hh'] at hactive
    cases hactive

namespace Alike

/-- As many animations are active on both stages. -/
theorem size_active (ha : Alike k hs hs' s s') :
    s.registry.active.size = s'.registry.active.size := by
  have hnodup : ((hs.filter s.isActive).map fun h => h.seq + k).Nodup := by
    have hseqs : ((hs.filter s.isActive).map (·.seq)).Nodup := by
      refine (List.filter_sublist.map _).nodup ?_
      rw [ha.hosts.owns.seqs]
      exact List.nodup_range
    have hshift := hseqs.map (f := (· + k)) fun _ _ => Nat.add_right_cancel
    rwa [List.map_map] at hshift
  have hnodup' : ((hs'.filter s'.isActive).map (·.seq)).Nodup := by
    refine (List.filter_sublist.map _).nodup ?_
    rw [ha.hosts'.owns.seqs]
    exact List.nodup_range
  have hperm : ((hs.filter s.isActive).map fun h => h.seq + k).Perm
      ((hs'.filter s'.isActive).map (·.seq)) := by
    refine (List.perm_ext_iff_of_nodup hnodup hnodup').mpr fun n => ?_
    simp only [List.mem_map, List.mem_filter]
    constructor
    · rintro ⟨h, ⟨hh, hactive⟩, rfl⟩
      obtain ⟨h', hh', htwin⟩ := ha.twin h hh
      exact ⟨h', ⟨hh', (ha.active h hh h' hh' htwin).mp hactive⟩, htwin.seq⟩
    · rintro ⟨h', ⟨hh', hactive⟩, rfl⟩
      obtain ⟨h, hh, htwin⟩ := ha.twin' h' hh' hactive
      exact ⟨h, ⟨hh, (ha.active h hh h' hh' htwin).mpr hactive⟩, htwin.seq.symm⟩
  have hlength := hperm.length_eq
  rw [List.length_map, List.length_map] at hlength
  rw [ha.hosts.size_active, ha.hosts'.size_active, hlength]

/-! ## What happens on both stages -/

theorem withTimers (ha : Alike k hs hs' s s') {q q' : Queue Cue} (hq : q.Alike (Cue.Alike k) q')
    (hpending : q.pending ⊆ s.timers.pending) (hpending' : q'.pending ⊆ s'.timers.pending) :
    Alike k hs hs' { s with timers := q } { s' with timers := q' } :=
  { ha with
    hosts := ha.hosts.withTimers hpending
    hosts' := ha.hosts'.withTimers hpending'
    timers := hq }

theorem write (ha : Alike k hs hs' s s') (ls : List Line) :
    Alike k hs hs' { s with transcript := s.transcript.extend ls }
      { s' with transcript := s'.transcript.extend ls } :=
  { ha with
    hosts := ha.hosts.write ls
    hosts' := ha.hosts'.write ls
    transcript := ha.transcript.extend ls }

theorem schedule (ha : Alike k hs hs' s s') {c c' : Cue} (hcue : c.Alike k c')
    (hc : c.handle ∈ hs) (hc' : c'.handle ∈ hs') (delay : Nat) :
    Alike k hs hs' (s.schedule delay c) (s'.schedule delay c') :=
  { ha with
    hosts := ha.hosts.schedule hc delay
    hosts' := ha.hosts'.schedule hc' delay
    timers := ha.timers.schedule delay hcue }

theorem update (ha : Alike k hs hs' s s') (hh : h ∈ hs) (hh' : h' ∈ hs') (htwin : Twin k h h')
    (ls : List Line) : Alike k hs hs' (s.update h ls) (s'.update h' ls) := by
  have hhosts := ha.hosts.update hh ls
  have hhosts' := ha.hosts'.update hh' ls
  have hiff := ha.active h hh h' hh' htwin
  unfold Stage.update at hhosts hhosts' ⊢
  by_cases hactive : s.isActive h = true
  · rw [if_pos hactive] at hhosts
    rw [if_pos (hiff.mp hactive)] at hhosts'
    rw [if_pos hactive, if_pos (hiff.mp hactive)]
    exact
      { ha with
        hosts := hhosts
        hosts' := hhosts'
        transcript := ha.transcript.updateRegion htwin.renumbered ls }
  · rw [if_neg hactive, if_neg fun h => hactive (hiff.mpr h)]
    exact ha

theorem finish (ha : Alike k hs hs' s s') (hh : h ∈ hs) (hh' : h' ∈ hs') (htwin : Twin k h h') :
    Alike k hs hs' (s.finish h) (s'.finish h') :=
  { ha with
    hosts := ha.hosts.finish hh
    hosts' := ha.hosts'.finish hh'
    active := fun g hg g' hg' htwin' => by
      rw [ha.hosts.isActive_finish_iff hh hg, ha.hosts'.isActive_finish_iff hh' hg',
        ha.active g hg g' hg' htwin', ne_eq, ne_eq, htwin'.renumbered.eq_iff htwin.renumbered]
    twin' := fun g' hg' hactive =>
      ha.twin' g' hg' ((ha.hosts'.isActive_finish_iff hh' hg').mp hactive).1 }

theorem abandon (ha : Alike k hs hs' s s') (hh : h ∈ hs) (hh' : h' ∈ hs') (htwin : Twin k h h') :
    Alike k hs hs' (s.abandon h) (s'.abandon h') :=
  { ha.finish hh hh' htwin with
    hosts := ha.hosts.abandon hh
    hosts' := ha.hosts'.abandon hh'
    transcript := ha.transcript.removeRegion htwin.renumbered }

/-- Emptying both stages. -/
theorem clear (ha : Alike k hs hs' s s') : Alike k hs hs' s.clear s'.clear :=
  { ha with
    hosts := ha.hosts.clear
    hosts' := ha.hosts'.clear
    transcript := .nil
    active := fun h hh h' hh' _ =>
      iff_of_false (Bool.eq_false_iff.mp (ha.hosts.isActive_stopAll h hh))
        (Bool.eq_false_iff.mp (ha.hosts'.isActive_stopAll h' hh'))
    twin' := fun h' hh' hactive =>
      absurd hactive (Bool.eq_false_iff.mp (ha.hosts'.isActive_stopAll h' hh')) }

theorem reset (ha : Alike k hs hs' s s') : Alike k hs hs' s.reset s'.reset :=
  ha.clear.withTimers (Queue.alike_of_empty ha.timers.now rfl rfl) (List.nil_subset _)
    (List.nil_subset _)

/-! ## Timers -/

theorem play_picture (ha : Alike k hs hs' s s') (hh : h ∈ hs) (hh' : h' ∈ hs') (htwin : Twin k h h')
    (painter : Painter) (count start delay : Nat) :
    Alike k hs hs' (s.play (.picture h painter count start delay))
      (s'.play (.picture h' painter count start delay)) := by
  have hiff := ha.active h hh h' hh' htwin
  by_cases hactive : s.isActive h = true
  · rw [play_picture_of_active hactive, play_picture_of_active (hiff.mp hactive), ha.timers.now]
    exact (ha.update hh hh' htwin _).schedule
      (.picture htwin painter (count + 1) start delay) hh hh' delay
  · rw [play_picture_of_not_active hactive, play_picture_of_not_active fun h => hactive (hiff.mpr h)]
    exact ha

theorem play (ha : Alike k hs hs' s s') {c c' : Cue} (hc : c.handle ∈ hs) (hc' : c'.handle ∈ hs')
    (hcue : c.Alike k c') : Alike k hs hs' (s.play c) (s'.play c') := by
  cases hcue with
  | picture htwin painter count start delay => exact ha.play_picture hc hc' htwin _ _ _ _
  | lines htwin ls => exact ha.update hc hc' htwin ls
  | finish htwin last =>
    cases last with
    | none => exact ha.finish hc hc' htwin
    | some ls => exact (ha.update hc hc' htwin ls).finish hc hc' htwin

/-- The same timers fire on both stages. -/
theorem advanceFuel (ha : Alike k hs hs' s s') (target fuel fired : Nat) :
    (advanceFuel target fuel fired s).1 = (advanceFuel target fuel fired s').1 ∧
      Alike k hs hs' (advanceFuel target fuel fired s).2 (advanceFuel target fuel fired s').2 := by
  have hsettle : ∀ {s s'}, Alike k hs hs' s s' → Alike k hs hs'
      { s with timers := s.timers.settle target } { s' with timers := s'.timers.settle target } :=
    fun ha => ha.withTimers (ha.timers.settle target) (List.Subset.refl _) (List.Subset.refl _)
  induction fuel generalizing fired s s' with
  | zero => exact ⟨rfl, hsettle ha⟩
  | succ fuel ih =>
    unfold Stage.advanceFuel
    cases hpop : s.timers.pop? target with
    | none =>
      rw [ha.timers.pop?_eq_none hpop]
      exact ⟨rfl, hsettle ha⟩
    | some p =>
      obtain ⟨t, q⟩ := p
      obtain ⟨u, q', hpop', hcue, hq⟩ := ha.timers.pop?_eq_some hpop
      obtain ⟨-, hpending, -⟩ := Queue.pop?_eq_some_iff.mp hpop
      obtain ⟨-, hpending', -⟩ := Queue.pop?_eq_some_iff.mp hpop'
      have hpopped := ha.withTimers hq (hpending ▸ List.subset_cons_self _ _)
        (hpending' ▸ List.subset_cons_self _ _)
      rw [hpop']
      exact ih (hpopped.play (ha.hosts.owns.timers t (hpending ▸ List.mem_cons_self))
        (ha.hosts'.owns.timers u (hpending' ▸ List.mem_cons_self)) hcue) (fired + 1)

theorem advanceTo (ha : Alike k hs hs' s s') (target : Nat) :
    (s.advanceTo target).1 = (s'.advanceTo target).1 ∧
      Alike k hs hs' (s.advanceTo target).2 (s'.advanceTo target).2 := by
  unfold Stage.advanceTo
  rw [ha.timers.now, ha.timers.pending.length_eq]
  exact ha.advanceFuel target _ 0

/-! ## Plans -/

theorem perform (ha : Alike k hs hs' s s') (hh : h ∈ hs) (hh' : h' ∈ hs') (htwin : Twin k h h')
    {step : Step} (hstep : step ≠ .cancel) :
    Alike k hs hs' (s.perform h step) (s'.perform h' step) := by
  have hdelay : s.delayOf = s'.delayOf := by
    unfold delayOf
    rw [ha.frameDelay]
  cases step with
  | paint ls => exact ha.update hh hh' htwin ls
  | paintAfter delay ls => exact ha.schedule (.lines htwin ls) hh hh' delay
  | frames pictures delay =>
    show Alike k hs hs' (s.animateFrames h pictures delay) (s'.animateFrames h' pictures delay)
    unfold animateFrames
    rw [ha.timers.now, hdelay]
    split
    · exact ha
    · exact ha.play_picture hh hh' htwin _ _ _ _
  | continuous painter framesPerSecond =>
    show Alike k hs hs' (s.animateContinuous h painter _) (s'.animateContinuous h' painter _)
    unfold animateContinuous
    rw [ha.timers.now, hdelay, ha.framesPerSecond]
    exact ha.play_picture hh hh' htwin _ _ _ _
  | finish => exact ha.finish hh hh' htwin
  | finishAfter delay last => exact ha.schedule (.finish htwin last) hh hh' delay
  | cancel => exact absurd rfl hstep
  | abandon => exact ha.abandon hh hh' htwin

theorem foldl_perform (ha : Alike k hs hs' s s') (hh : h ∈ hs) (hh' : h' ∈ hs') (htwin : Twin k h h')
    {steps : List Step} (hsteps : ∀ step ∈ steps, step ≠ .cancel) :
    Alike k hs hs' (steps.foldl (fun s step => s.perform h step) s)
      (steps.foldl (fun s step => s.perform h' step) s') := by
  induction steps generalizing s s' with
  | nil => exact ha
  | cons step steps ih =>
    obtain ⟨hstep, hsteps⟩ := List.forall_mem_cons.mp hsteps
    exact ih (ha.perform hh hh' htwin hstep) hsteps

/-- An animation that is begun on both stages has numbers `k` apart. -/
theorem twin_launch (ha : Alike k hs hs' s s') (name : Text) :
    Twin k (s.launch name).1 (s'.launch name).1 := by
  refine ⟨ha.begun, name ++ '-' :: Text.ofNat s.timers.now, rfl, ?_⟩
  rw [ha.timers.now]
  rfl

theorem launch (ha : Alike k hs hs' s s') (name : Text) :
    Alike k (hs ++ [(s.launch name).1]) (hs' ++ [(s'.launch name).1]) (s.launch name).2
      (s'.launch name).2 := by
  have htwin := ha.twin_launch name
  have hnew := ha.hosts.orderly.isActive_launch name
  have hnew' := ha.hosts'.orderly.isActive_launch name
  refine
    { hosts := ha.hosts.launch name
      hosts' := ha.hosts'.launch name
      begun := ?_
      framesPerSecond := ha.framesPerSecond
      frameDelay := ha.frameDelay
      timers := ha.timers
      transcript := ?_
      active := ?_
      twin := ?_
      twin' := ?_ }
  · show s'.begun + 1 = s.begun + 1 + k
    rw [ha.begun, Nat.add_right_comm]
  · rw [ha.hosts.orderly.transcript_launch, ha.hosts'.orderly.transcript_launch]
    exact ha.transcript.append (.cons (.region htwin.renumbered []) .nil)
  · -- the numbers of twins tell that both are new or neither is
    intro g hg g' hg' htwin'
    rcases List.mem_append.mp hg with hg | hg <;> rcases List.mem_append.mp hg' with hg' | hg'
    · rw [ha.hosts.isActive_launch_eq, ha.hosts'.isActive_launch_eq]
      exact ha.active g hg g' hg' htwin'
    · rw [List.mem_singleton.mp hg'] at htwin'
      have hlt : g.seq < s.begun := (ha.hosts.knows g hg).seq
      have hseq : s'.begun = g.seq + k := htwin'.seq
      have hbegun := ha.begun
      omega
    · rw [List.mem_singleton.mp hg] at htwin'
      have hlt : g'.seq < s'.begun := (ha.hosts'.knows g' hg').seq
      have hseq : g'.seq = s.begun + k := htwin'.seq
      have hbegun := ha.begun
      omega
    · rw [List.mem_singleton.mp hg, List.mem_singleton.mp hg']
      exact iff_of_true hnew hnew'
  · intro g hg
    rcases List.mem_append.mp hg with hg | hg
    · obtain ⟨g', hg', htwin'⟩ := ha.twin g hg
      exact ⟨g', List.mem_append_left _ hg', htwin'⟩
    · rw [List.mem_singleton.mp hg]
      exact ⟨_, List.mem_append_right _ List.mem_cons_self, htwin⟩
  · intro g' hg' hactive
    rcases List.mem_append.mp hg' with hg' | hg'
    · rw [ha.hosts'.isActive_launch_eq] at hactive
      obtain ⟨g, hg, htwin'⟩ := ha.twin' g' hg' hactive
      exact ⟨g, List.mem_append_left _ hg, htwin'⟩
    · rw [List.mem_singleton.mp hg']
      exact ⟨_, List.mem_append_right _ List.mem_cons_self, htwin⟩

end Alike

/-- Whether two stages are alike with some animations. -/
def Shifted (k : Nat) (s s' : Stage) : Prop :=
  ∃ hs hs', Alike k hs hs' s s'

namespace Shifted

theorem now (h : s.Shifted k s') : s.timers.now = s'.timers.now := by
  obtain ⟨hs, hs', ha⟩ := h
  exact ha.timers.now

theorem size_active (h : s.Shifted k s') : s.registry.active.size = s'.registry.active.size := by
  obtain ⟨hs, hs', ha⟩ := h
  exact ha.size_active

theorem transcript (h : s.Shifted k s') : s.transcript.Alike k s'.transcript := by
  obtain ⟨hs, hs', ha⟩ := h
  exact ha.transcript

theorem write (h : s.Shifted k s') (ls : List Line) :
    Shifted k { s with transcript := s.transcript.extend ls }
      { s' with transcript := s'.transcript.extend ls } := by
  obtain ⟨hs, hs', ha⟩ := h
  exact ⟨hs, hs', ha.write ls⟩

theorem clear (h : s.Shifted k s') : s.clear.Shifted k s'.clear := by
  obtain ⟨hs, hs', ha⟩ := h
  exact ⟨hs, hs', ha.clear⟩

theorem reset (h : s.Shifted k s') : s.reset.Shifted k s'.reset := by
  obtain ⟨hs, hs', ha⟩ := h
  exact ⟨hs, hs', ha.reset⟩

theorem advanceTo (h : s.Shifted k s') (target : Nat) :
    (s.advanceTo target).1 = (s'.advanceTo target).1 ∧
      (s.advanceTo target).2.Shifted k (s'.advanceTo target).2 := by
  obtain ⟨hs, hs', ha⟩ := h
  obtain ⟨hfired, ha⟩ := ha.advanceTo target
  exact ⟨hfired, hs, hs', ha⟩

/-- Running a plan that does not look at the id of its animation. -/
theorem run (h : s.Shifted k s') {plan : Plan}
    (hsteps : ∀ scene, ∀ step ∈ plan.steps scene, step ≠ .cancel) (hid : plan.IgnoresId) (name : Text)
    (i : Invocation) : (plan.run name i s).1 = (plan.run name i s').1 ∧
      (plan.run name i s).2.Shifted k (plan.run name i s').2 := by
  obtain ⟨hs, hs', ha⟩ := h
  have hlaunch := ha.launch name.lower
  have hscene : (s.launch name.lower).2.scene (s.launch name.lower).1 i =
      { (s'.launch name.lower).2.scene (s'.launch name.lower).1 i with
        id := (s.launch name.lower).1.id } := by
    unfold scene
    rw [hlaunch.timers.now, hlaunch.framesPerSecond]
  rw [result_run, result_run, stage_run, stage_run, hscene, hid.steps, hid]
  exact ⟨rfl, _, _, hlaunch.foldl_perform (List.mem_append_right _ List.mem_cons_self)
    (List.mem_append_right _ List.mem_cons_self) (ha.twin_launch _) (hsteps _)⟩

end Shifted

end Stage

end Animation

end VirtualTerminal
