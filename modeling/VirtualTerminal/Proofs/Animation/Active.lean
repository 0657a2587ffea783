import Mathlib.Data.List.Nodup
import VirtualTerminal.Proofs.Animation.Ledger
import VirtualTerminal.Proofs.Animation.Repaint

/-!
# Active animations

Whether an animation is active is written down three times: in the registry, which holds it under its
id, in the list of cancelled tokens, and in the list of animations that have ended by themselves. A
stage hosts its animations (`Hosts`) if these agree and every active animation has one region. Whatever
happens on a stage keeps this up, as long as no animation cancels its own token and stays in the
registry.
-/

namespace VirtualTerminal

namespace Animation

/-! ## Animations without cleanups -/

namespace Registry

variable {g : Registry} {id : Text}

theorem runFuel_succ (fuel : Nat) (w : Work) (rest : List Work) (g : Registry) :
    runFuel (fuel + 1) (w :: rest) g = runFuel fuel ((g.step w).1 ++ rest) (g.step w).2 := rfl

theorem runFuel_nil (fuel : Nat) (g : Registry) : runFuel fuel [] g = g := by
  cases fuel <;> rfl

theorem step_stop (hfind : g.active.find? id = none) : g.step (.task (.stop id)) = ([], g) := by
  simp only [step, hfind]

theorem stop_of_absent (hfind : g.active.find? id = none) : g.stop id = g := by
  show runFuel (1 + (g.weight + 1)) [.task (.stop id)] g = g
  rw [Nat.add_comm, runFuel_succ, step_stop hfind]
  exact runFuel_nil _ g

theorem step_finish {r : Registration} (hquiet : r.cleanup = []) (g : Registry) :
    g.step (.finish r) = ([], { g with cancelled := r.token :: g.cancelled }) := by
  show (r.cleanup.map Work.task, _) = _
  rw [hquiet]
  rfl

/-- Stopping an animation takes it out of the registry and cancels its token. -/
theorem stop_of_present {r : Registration} (hfind : g.active.find? id = some r)
    (hquiet : r.cleanup = []) :
    g.stop id = { g with active := g.active.erase id, cancelled := r.token :: g.cancelled } := by
  have hstep : g.step (.task (.stop id)) = ([.finish r], { g with active := g.active.erase id }) := by
    simp only [step, hfind]
  show runFuel (1 + (g.weight + 1)) [.task (.stop id)] g = _
  rw [Nat.add_comm, runFuel_succ, hstep, List.append_nil, runFuel_succ, step_finish hquiet]
  exact runFuel_nil _ _

/-- An animation with a free id becomes active, and nothing else changes. -/
theorem register_of_absent (hfind : g.active.find? id = none) (token : Nat) (cleanup : List Task) :
    g.register id token cleanup = { g with active := g.active.insert id ⟨token, cleanup⟩ } := by
  have hfuel : 1 + (3 + weightAll cleanup + (g.weight + 1)) = 3 + weightAll cleanup + g.weight + 1 + 1 := by
    omega
  show runFuel (1 + (3 + weightAll cleanup + (g.weight + 1)))
    [.task (.stop id), .install id ⟨token, cleanup⟩] g = _
  rw [hfuel, runFuel_succ, step_stop hfind, List.nil_append, runFuel_succ]
  exact runFuel_nil _ _

theorem runFuel_finish {rs : List Registration} (hquiet : ∀ r ∈ rs, r.cleanup = []) {fuel : Nat}
    (hfuel : rs.length ≤ fuel) (g : Registry) : runFuel fuel (rs.map .finish) g =
      { g with cancelled := (rs.map (·.token)).reverse ++ g.cancelled } := by
  induction rs generalizing fuel g with
  | nil => exact runFuel_nil fuel g
  | cons r rs ih =>
    obtain ⟨hr, hrs⟩ := List.forall_mem_cons.mp hquiet
    obtain ⟨fuel, rfl⟩ : ∃ k, fuel = k + 1 := ⟨fuel - 1, by simp only [List.length_cons] at hfuel; omega⟩
    rw [List.map_cons, runFuel_succ, step_finish hr, List.nil_append,
      ih hrs (Nat.le_of_succ_le_succ hfuel)]
    simp

theorem length_values_le_weight (g : Registry) : g.active.values.length ≤ g.weight := by
  rw [g.weight_eq_sum]
  induction g.active.values with
  | nil => exact Nat.zero_le _
  | cons r rs ih =>
    simp only [List.length_cons, List.map_cons, List.sum_cons]
    omega

/-- Stopping all animations empties the registry and cancels their tokens. -/
theorem stopAll_of_quiet (hquiet : ∀ r ∈ g.active.values, r.cleanup = []) : g.stopAll =
    { g with
      active := .empty
      cancelled := (g.active.values.map (·.token)).reverse ++ g.cancelled } := by
  have hlength := g.length_values_le_weight
  show runFuel (1 + (g.weight + 1)) [.task .stopAll] g = _
  rw [Nat.add_comm, runFuel_succ, g.step_stopAll, List.append_nil,
    runFuel_finish hquiet (Nat.le_succ_of_le hlength)]

end Registry

namespace Stage

/-! ## Stages that host animations -/

variable {s s' : Stage} {hs : List Handle}

theorem isActive_iff {h : Handle} :
    s.isActive h = true ↔ h.seq ∉ s.ended ∧ h.token ∉ s.registry.cancelled := by
  unfold isActive Registry.isCancelled
  simp only [Bool.and_eq_true, Bool.not_eq_true', List.contains_eq_mem, decide_eq_false_iff_not]

/-- Whether the registry of a stage holds, of some animations that have been begun on it, the active
ones and nothing else, and each of these has one region. -/
structure Hosts (hs : List Handle) (s : Stage) : Prop where
  owns : Owns hs s
  orderly : s.Orderly
  knows : ∀ h ∈ hs, s.Knows h
  tokens : (hs.map (·.token)).Nodup
  registered : ∀ id r, s.registry.active.find? id = some r ↔
    ∃ h ∈ hs, h.id = id ∧ r = ⟨h.token, []⟩ ∧ s.isActive h = true
  regions : s.transcript.ids.Nodup
  region : ∀ h ∈ hs, s.isActive h = true → h.id ∈ s.transcript.ids

theorem hosts_new (pace : Pace) : Hosts [] (Stage.new pace) where
  owns := owns_new pace
  orderly := orderly_new pace
  knows _ h := nomatch h
  tokens := .nil
  registered _ _ := ⟨fun h => (nomatch h), fun ⟨_, h, _⟩ => (nomatch h)⟩
  regions := .nil
  region _ h := nomatch h

theorem Owns.begun_eq (ho : Owns hs s) (ho' : Owns hs s') : s'.begun = s.begun := by
  have hlength := congrArg List.length ho.seqs
  rw [ho'.seqs, List.length_range, List.length_range] at hlength
  exact hlength

/-- Animations with one id are one. -/
theorem Owns.eq_of_id_eq (ho : Owns hs s) {h h' : Handle} (hh : h ∈ hs) (hh' : h' ∈ hs)
    (heq : h.id = h'.id) : h = h' :=
  List.inj_on_of_nodup_map ho.nodup_ids hh hh' heq

theorem Hosts.eq_of_token_eq (ho : Hosts hs s) {h h' : Handle} (hh : h ∈ hs) (hh' : h' ∈ hs)
    (heq : h.token = h'.token) : h = h' :=
  List.inj_on_of_nodup_map ho.tokens hh hh' heq

theorem Hosts.quiet (ho : Hosts hs s) : ∀ r ∈ s.registry.active.values, r.cleanup = [] := by
  intro r hr
  obtain ⟨⟨id, _⟩, he, rfl⟩ := List.mem_map.mp hr
  obtain ⟨h, -, -, hreg, -⟩ := (ho.registered id _).mp ((Table.find?_eq_some_iff ..).mpr he)
  exact congrArg Registration.cleanup hreg

/-! ## What leaves the animations as they are -/

/-- A change of timers and of what regions show. -/
theorem Hosts.withRegistry (ho : Hosts hs s) (howns : Owns hs s') (horderly : s'.Orderly)
    (hregistry : s'.registry = s.registry) (hended : s'.ended = s.ended)
    (hids : s'.transcript.ids = s.transcript.ids) : Hosts hs s' := by
  have hactive : ∀ h, s'.isActive h = s.isActive h := fun h => by
    unfold isActive
    rw [hregistry, hended]
  refine ⟨howns, horderly, fun h hh => ⟨?_, ?_⟩, ho.tokens, fun id r => ?_, ?_, fun h hh hact => ?_⟩
  · rw [ho.owns.begun_eq howns]
    exact (ho.knows h hh).seq
  · rw [hregistry]
    exact (ho.knows h hh).token
  · simp only [hregistry, hactive]
    exact ho.registered id r
  · rw [hids]
    exact ho.regions
  · rw [hids]
    rw [hactive] at hact
    exact ho.region h hh hact

theorem Hosts.update (ho : Hosts hs s) {h : Handle} (hh : h ∈ hs) (ls : List Line) :
    Hosts hs (s.update h ls) := by
  have howns : Owns hs (s.update h ls) := ho.owns.play (c := .lines h ls) hh
  refine ho.withRegistry howns (ho.orderly.update h ls) ?_ ?_ ?_
  all_goals
    unfold Stage.update
    split
  · rfl
  · rfl
  · rfl
  · rfl
  · exact Transcript.ids_updateRegion _ _ _
  · rfl

theorem Hosts.schedule (ho : Hosts hs s) {c : Cue} (hc : c.handle ∈ hs) (delay : Nat) :
    Hosts hs (s.schedule delay c) :=
  ho.withRegistry (ho.owns.schedule hc delay) (ho.orderly.schedule delay (ho.knows _ hc).seq) rfl rfl
    rfl

theorem Hosts.write (ho : Hosts hs s) (lines : List Line) :
    Hosts hs { s with transcript := s.transcript.extend lines } := by
  have hids : (s.transcript.extend lines).ids = s.transcript.ids := Transcript.ids_extend _ _
  refine ho.withRegistry (ho.owns.withTimers rfl fun _ => .inl)
    (ho.orderly.withTranscript ?_) rfl rfl hids
  rw [hids]
  exact List.Subset.refl _

/-! ## Stopping animations -/

/-- Stopping what is active under an id ends the activity of the animation that has the id, and of no
other. -/
theorem Hosts.isCancelled_stop (ho : Hosts hs s) (id : Text) {h : Handle} (hh : h ∈ hs) :
    h.token ∈ (s.registry.stop id).cancelled ↔
      h.token ∈ s.registry.cancelled ∨ h.id = id ∧ s.isActive h = true := by
  cases hfind : s.registry.active.find? id with
  | none =>
    rw [Registry.stop_of_absent hfind]
    refine ⟨.inl, fun hor => hor.resolve_right fun ⟨hid, hactive⟩ => ?_⟩
    rw [(ho.registered id _).mpr ⟨h, hh, hid, rfl, hactive⟩] at hfind
    cases hfind
  | some r =>
    obtain ⟨g, hg, hgid, rfl, hgactive⟩ := (ho.registered id r).mp hfind
    rw [Registry.stop_of_present hfind rfl, List.mem_cons, or_comm]
    refine or_congr_right ⟨fun heq => ?_, fun ⟨hid, _⟩ => ?_⟩
    · rw [ho.eq_of_token_eq hh hg heq]
      exact ⟨hgid, hgactive⟩
    · exact congrArg _ (ho.owns.eq_of_id_eq hh hg (hid.trans hgid.symm))

theorem Hosts.find?_stop (ho : Hosts hs s) (id id' : Text) :
    (s.registry.stop id).active.find? id' = if id' = id then none else s.registry.active.find? id' := by
  cases hfind : s.registry.active.find? id with
  | none =>
    rw [Registry.stop_of_absent hfind]
    split
    next heq => rw [heq, hfind]
    next => rfl
  | some r =>
    obtain ⟨g, -, -, rfl, -⟩ := (ho.registered id r).mp hfind
    rw [Registry.stop_of_present hfind rfl]
    exact Table.find?_erase _ _ _

/-- After stopping what is active under an id, all others are active that were. The animation that has
the id may also count as ended. -/
theorem Hosts.isActive_stop (ho : Hosts hs s) (id : Text) {ended : List Nat} (hsub : s.ended ⊆ ended)
    (hnew : ∀ h ∈ hs, h.seq ∈ ended → h.seq ∈ s.ended ∨ h.id = id) {h : Handle} (hh : h ∈ hs) :
    Stage.isActive { s with ended := ended, registry := s.registry.stop id } h = true ↔
      s.isActive h = true ∧ h.id ≠ id := by
  have hcancelled := ho.isCancelled_stop id hh
  have hseq := hnew h hh
  have hsub' := @hsub h.seq
  rw [isActive_iff] at hcancelled ⊢
  dsimp only
  rw [isActive_iff]
  tauto

/-- Stopping what is active under an id, after which the animation that has the id may also count as
ended. -/
theorem Hosts.stop (ho : Hosts hs s) (id : Text) {ended : List Nat} (hsub : s.ended ⊆ ended)
    (hended : ∀ n ∈ ended, n < s.begun)
    (hnew : ∀ h ∈ hs, h.seq ∈ ended → h.seq ∈ s.ended ∨ h.id = id) :
    Hosts hs { s with ended := ended, registry := s.registry.stop id } := by
  have hactive := fun h (hh : h ∈ hs) => ho.isActive_stop id hsub hnew hh
  refine ⟨ho.owns.withTimers rfl fun _ => .inl, ⟨ho.orderly.regions, hended, ho.orderly.timers, ?_⟩,
    fun h hh => ⟨(ho.knows h hh).seq, ?_⟩, ho.tokens, fun id' r => ?_, ho.regions, fun h hh hact => ?_⟩
  · refine ho.orderly.ready.run fun w hw token heq => ?_
    obtain rfl := List.mem_singleton.mp hw
    cases heq
  · exact Nat.lt_of_lt_of_le (ho.knows h hh).token (Registry.nextToken_le_runFuel _ _ _)
  · dsimp only
    rw [ho.find?_stop]
    split
    next heq =>
      refine ⟨fun h => (nomatch h), ?_⟩
      rintro ⟨h, hh, hid, -, hact⟩
      exact absurd (hid.trans heq) ((hactive h hh).mp hact).2
    next hne =>
      rw [ho.registered]
      refine exists_congr fun h => and_congr_right fun hh => and_congr_right fun hid =>
        and_congr_right fun _ => ?_
      rw [hactive h hh, hid]
      exact (and_iff_left hne).symm
  · exact ho.region h hh ((hactive h hh).mp hact).1

/-- Of the animations of a stage, only the one with a number ends with it. -/
theorem Hosts.mem_ended_finish (ho : Hosts hs s) {h : Handle} (hh : h ∈ hs) :
    ∀ g ∈ hs, g.seq ∈ h.seq :: s.ended → g.seq ∈ s.ended ∨ g.id = h.id := by
  have hseqs : (hs.map (·.seq)).Nodup := by
    rw [ho.owns.seqs]
    exact List.nodup_range
  intro g hg hmem
  refine (List.mem_cons.mp hmem).symm.imp_right fun heq => ?_
  rw [List.inj_on_of_nodup_map hseqs hg hh heq]

theorem Hosts.finish (ho : Hosts hs s) {h : Handle} (hh : h ∈ hs) : Hosts hs (s.finish h) := by
  refine ho.stop h.id (List.subset_cons_self _ _) (fun n hn => ?_) (ho.mem_ended_finish hh)
  rcases List.mem_cons.mp hn with rfl | hn
  · exact (ho.knows h hh).seq
  · exact ho.orderly.ended n hn

/-- Ending an animation leaves all others active that were. -/
theorem Hosts.isActive_finish_iff (ho : Hosts hs s) {h g : Handle} (hh : h ∈ hs) (hg : g ∈ hs) :
    (s.finish h).isActive g = true ↔ s.isActive g = true ∧ g.id ≠ h.id :=
  ho.isActive_stop h.id (List.subset_cons_self _ _) (ho.mem_ended_finish hh) hg

theorem Hosts.abandon (ho : Hosts hs s) {h : Handle} (hh : h ∈ hs) : Hosts hs (s.abandon h) := by
  have hfinish := ho.finish hh
  have hids : (s.abandon h).transcript.ids = s.transcript.ids.filter (· ≠ h.id) :=
    Transcript.ids_removeRegion _ _
  refine ⟨hfinish.owns.withTimers rfl fun _ => .inl, ho.orderly.abandon (ho.knows h hh).seq,
    fun h' hh' => ⟨(hfinish.knows h' hh').seq, (hfinish.knows h' hh').token⟩, ho.tokens,
    hfinish.registered, ?_, fun h' hh' hactive => ?_⟩
  · rw [hids]
    exact ho.regions.filter _
  · rw [hids, List.mem_filter]
    refine ⟨hfinish.region h' hh' hactive, decide_eq_true fun heq => ?_⟩
    -- the animation itself is not active any more
    obtain rfl := ho.owns.eq_of_id_eq hh' hh heq
    have hinactive : (s.finish h').isActive h' = true := hactive
    rw [isActive_finish] at hinactive
    cases hinactive

theorem Hosts.isActive_stopAll (ho : Hosts hs s) :
    ∀ h ∈ hs, Stage.isActive { s with registry := s.registry.stopAll } h = false := by
  intro h hh
  by_cases hactive : s.isActive h = true
  · have hmem := mem_values_of_find? ((ho.registered h.id _).mpr ⟨h, hh, rfl, rfl, hactive⟩)
    refine isActive_eq_false_iff.mpr (.inr (List.contains_iff_mem.mpr ?_))
    dsimp only
    rw [Registry.stopAll_of_quiet ho.quiet]
    exact List.mem_append_left _ (List.mem_reverse.mpr (List.mem_map_of_mem hmem))
  · exact s.quietens_run [.task .stopAll] h (Bool.eq_false_iff.mpr hactive)

theorem Hosts.stopAll (ho : Hosts hs s) : Hosts hs { s with registry := s.registry.stopAll } := by
  have hinactive := ho.isActive_stopAll
  refine ⟨ho.owns.withTimers rfl fun _ => .inl, ho.orderly.withRegistry ?_,
    fun h hh => ⟨(ho.knows h hh).seq, ?_⟩, ho.tokens, fun id r => ?_, ho.regions,
    fun h hh hactive => ?_⟩
  · refine ho.orderly.ready.run fun w hw token heq => ?_
    obtain rfl := List.mem_singleton.mp hw
    cases heq
  · exact Nat.lt_of_lt_of_le (ho.knows h hh).token (Registry.nextToken_le_runFuel _ _ _)
  · have hempty : s.registry.stopAll.active = .empty := by
      rw [Registry.stopAll_of_quiet ho.quiet]
    dsimp only
    rw [hempty]
    refine ⟨fun h => (nomatch h), ?_⟩
    rintro ⟨h, hh, -, -, hactive⟩
    rw [hinactive h hh] at hactive
    cases hactive
  · rw [hinactive h hh] at hactive
    cases hactive

/-- A stage on which no animation is active may lose its regions. -/
theorem Hosts.clear (ho : Hosts hs s) : Hosts hs s.clear := by
  have hstopped := ho.stopAll
  refine ⟨hstopped.owns.withTimers rfl fun _ => .inl, ho.orderly.clear,
    fun h hh => ⟨(ho.knows h hh).seq, (hstopped.knows h hh).token⟩, ho.tokens, hstopped.registered,
    .nil, fun h hh hactive => ?_⟩
  have hinactive : s.clear.isActive h = false := ho.isActive_stopAll h hh
  rw [hinactive] at hactive
  cases hactive

theorem Hosts.reset (ho : Hosts hs s) : Hosts hs s.reset :=
  ho.clear.withRegistry (ho.clear.owns.withTimers rfl fun _ ht => nomatch ht) ho.orderly.reset rfl rfl
    rfl

/-! ## Timers and steps -/

theorem Hosts.play (ho : Hosts hs s) {c : Cue} (hc : c.handle ∈ hs) : Hosts hs (s.play c) := by
  cases c with
  | picture h painter count start delay =>
    by_cases hactive : s.isActive h = true
    · rw [play_picture_of_active hactive]
      exact (ho.update hc _).schedule (c := .picture h painter (count + 1) start delay) hc delay
    · rw [play_picture_of_not_active hactive]
      exact ho
  | lines h ls => exact ho.update hc ls
  | finish h last =>
    cases last with
    | none => exact ho.finish hc
    | some ls => exact (ho.update hc ls).finish hc

theorem Hosts.withTimers (ho : Hosts hs s) {q : Queue Cue} (hq : q.pending ⊆ s.timers.pending) :
    Hosts hs { s with timers := q } :=
  ho.withRegistry (ho.owns.withTimers rfl fun _ ht => .inl (hq ht))
    (ho.orderly.withTimers fun t ht => ho.orderly.timers t (hq ht)) rfl rfl rfl

theorem Hosts.advanceTo (ho : Hosts hs s) (target : Nat) : Hosts hs (s.advanceTo target).2 := by
  refine advanceTo_rec (fun {s t timers} hpop ho => ?_) (fun ho => ho.withTimers (List.Subset.refl _))
    ho
  obtain ⟨-, hpending, -⟩ := Queue.pop?_eq_some_iff.mp hpop
  have hrest : timers.pending ⊆ s.timers.pending := by
    rw [hpending]
    exact List.subset_cons_self _ _
  have hmem : t ∈ s.timers.pending := by
    rw [hpending]
    exact List.mem_cons_self
  exact (ho.withTimers hrest).play (ho.owns.timers t hmem)

/-- An animation may do anything but cancel its token and stay in the registry. -/
theorem Hosts.perform (ho : Hosts hs s) {h : Handle} (hh : h ∈ hs) {step : Step}
    (hstep : step ≠ .cancel) : Hosts hs (s.perform h step) := by
  cases step with
  | paint ls => exact ho.update hh ls
  | paintAfter delay ls => exact ho.schedule (c := .lines h ls) hh delay
  | frames pictures delay =>
    show Hosts hs (s.animateFrames h pictures delay)
    unfold animateFrames
    split
    · exact ho
    · exact ho.play (c := .picture h _ _ _ _) hh
  | continuous painter framesPerSecond => exact ho.play (c := .picture h _ _ _ _) hh
  | finish => exact ho.finish hh
  | finishAfter delay last => exact ho.schedule (c := .finish h last) hh delay
  | cancel => exact absurd rfl hstep
  | abandon => exact ho.abandon hh

theorem Hosts.foldl_perform (ho : Hosts hs s) {h : Handle} (hh : h ∈ hs) {steps : List Step}
    (hsteps : ∀ step ∈ steps, step ≠ .cancel) :
    Hosts hs (steps.foldl (fun s step => s.perform h step) s) :=
  List.foldlRecOn (motive := Hosts hs) steps _ ho fun _ ho step hstep =>
    ho.perform hh (hsteps step hstep)

/-! ## Beginning animations -/

/-- The id of the next animation is free. -/
theorem Hosts.find?_nextId (ho : Hosts hs s) (name : Text) :
    s.registry.active.find? (s.nextId name) = none := by
  refine Option.eq_none_iff_forall_ne_some.mpr fun r hfind => ?_
  obtain ⟨h, hh, hid, -, -⟩ := (ho.registered _ r).mp hfind
  obtain ⟨stem, hstem⟩ := ho.owns.ids h hh
  have hseq : h.seq = s.begun := number_eq_of_id_eq (hstem.symm.trans hid)
  exact absurd hseq (Nat.ne_of_lt (ho.knows h hh).seq)

theorem Hosts.registry_launch (ho : Hosts hs s) (name : Text) :
    (s.launch name).2.registry =
      { s.registry with
        nextToken := s.registry.nextToken + 1
        active := s.registry.active.insert (s.nextId name) ⟨s.registry.nextToken, []⟩ } :=
  Registry.register_of_absent (g := s.registry.freshToken.2) (ho.find?_nextId name) _ _

/-- Beginning an animation leaves all others active that were. -/
theorem Hosts.isActive_launch_eq (ho : Hosts hs s) (name : Text) (h : Handle) :
    (s.launch name).2.isActive h = s.isActive h := by
  unfold isActive Registry.isCancelled
  rw [ho.registry_launch name]
  rfl

theorem Hosts.launch (ho : Hosts hs s) (name : Text) :
    Hosts (hs ++ [(s.launch name).1]) (s.launch name).2 := by
  have hregistry := ho.registry_launch name
  have htranscript := ho.orderly.transcript_launch name
  have hnew := ho.orderly.isActive_launch name
  have hids : (s.launch name).2.transcript.ids = s.transcript.ids ++ [s.nextId name] := by
    rw [htranscript, Transcript.ids_append]
    rfl
  have hold := ho.isActive_launch_eq name
  have hfresh : s.nextId name ∉ s.transcript.ids := fun hmem => by
    rw [Transcript.mem_ids, ho.orderly.hasRegion_nextId] at hmem
    cases hmem
  refine ⟨ho.owns.launch name, ho.orderly.launch name, ?_, ?_, fun id r => ?_, ?_, ?_⟩
  · refine List.forall_mem_append.mpr ⟨fun h hh => ⟨Nat.lt_succ_of_lt (ho.knows h hh).seq, ?_⟩,
      List.forall_mem_singleton.mpr (s.knows_launch name)⟩
    rw [hregistry]
    exact Nat.lt_succ_of_lt (ho.knows h hh).token
  · rw [List.map_append]
    refine List.Nodup.append ho.tokens (List.nodup_singleton _) fun token htoken htoken' => ?_
    obtain ⟨h, hh, rfl⟩ := List.mem_map.mp htoken
    exact absurd (List.mem_singleton.mp htoken') (Nat.ne_of_lt (ho.knows h hh).token)
  · have hinsert : (s.launch name).2.registry.active.find? id =
        if s.nextId name = id then some ⟨s.registry.nextToken, []⟩
        else s.registry.active.find? id := by
      rw [hregistry]
      exact Table.find?_insert _ _ _ _
    rw [hinsert]
    constructor
    · intro hfind
      split at hfind
      next heq =>
        cases hfind
        exact ⟨_, List.mem_append_right _ List.mem_cons_self, heq, rfl, hnew⟩
      next =>
        obtain ⟨h, hh, hid, hr, hactive⟩ := (ho.registered id r).mp hfind
        exact ⟨h, List.mem_append_left _ hh, hid, hr, (hold h).trans hactive⟩
    · rintro ⟨h, hh, rfl, rfl, hactive⟩
      rcases List.mem_append.mp hh with hh | hh
      · rw [hold] at hactive
        have hfind := (ho.registered h.id _).mpr ⟨h, hh, rfl, rfl, hactive⟩
        rw [if_neg fun heq => ?_, hfind]
        rw [← heq, ho.find?_nextId] at hfind
        cases hfind
      · rw [List.mem_singleton.mp hh]
        exact if_pos rfl
  · rw [hids]
    refine List.Nodup.append ho.regions (List.nodup_singleton _) fun id hid hid' => ?_
    rw [List.mem_singleton.mp hid'] at hid
    exact hfresh hid
  · rw [hids]
    refine List.forall_mem_append.mpr ⟨fun h hh hactive => ?_, List.forall_mem_singleton.mpr fun _ => ?_⟩
    · rw [hold] at hactive
      exact List.mem_append_left _ (ho.region h hh hactive)
    · exact List.mem_append_right _ List.mem_cons_self

/-- Running a plan that does not cancel its animation. -/
theorem Hosts.run (ho : Hosts hs s) {plan : Plan}
    (hplan : ∀ scene, ∀ step ∈ plan.steps scene, step ≠ .cancel) (name : Text) (i : Invocation) :
    Hosts (hs ++ [(s.launch name.lower).1]) (plan.run name i s).2 := by
  rw [stage_run]
  exact (ho.launch name.lower).foldl_perform (List.mem_append_right _ List.mem_cons_self) (hplan _)

/-- An animation is active exactly as long as the registry holds its id. -/
theorem Hosts.isActive_iff_registered (ho : Hosts hs s) {h : Handle} (hh : h ∈ hs) :
    s.isActive h = true ↔ s.registry.isActive h.id = true := by
  show _ ↔ (s.registry.active.find? h.id).isSome = true
  rw [Option.isSome_iff_exists]
  refine ⟨fun hactive => ⟨_, (ho.registered _ _).mpr ⟨h, hh, rfl, rfl, hactive⟩⟩, ?_⟩
  rintro ⟨r, hfind⟩
  obtain ⟨g, hg, hid, -, hactive⟩ := (ho.registered _ _).mp hfind
  rwa [← ho.owns.eq_of_id_eq hg hh hid]

/-- The registry has as many entries as animations are active. -/
theorem Hosts.size_active (ho : Hosts hs s) :
    s.registry.active.size = (hs.filter s.isActive).length := by
  have hids : ((hs.filter s.isActive).map (·.id)).Nodup :=
    (List.filter_sublist.map _).nodup ho.owns.nodup_ids
  have hperm : s.registry.active.keys.Perm ((hs.filter s.isActive).map (·.id)) := by
    refine (List.perm_ext_iff_of_nodup s.registry.active.nodup_keys hids).mpr fun id => ?_
    rw [Table.mem_keys_iff, Option.isSome_iff_exists, List.mem_map]
    simp only [ho.registered, List.mem_filter]
    exact ⟨fun ⟨_, h, hh, hid, _, hactive⟩ => ⟨h, ⟨hh, hactive⟩, hid⟩,
      fun ⟨h, ⟨hh, hactive⟩, hid⟩ => ⟨_, h, hh, hid, rfl, hactive⟩⟩
  have hlength := hperm.length_eq
  rw [List.length_map] at hlength
  exact (List.length_map ..).symm.trans hlength

/-- Where no animation is active, the registry is empty. -/
theorem Hosts.active_eq_empty (ho : Hosts hs s) (hinactive : ∀ h ∈ hs, s.isActive h = false) :
    s.registry.active = .empty := by
  refine Table.ext_find? fun id => Option.eq_none_iff_forall_ne_some.mpr fun r hfind => ?_
  obtain ⟨h, hh, -, -, hactive⟩ := (ho.registered id r).mp hfind
  rw [hinactive h hh] at hactive
  cases hactive

end Stage

end Animation

end VirtualTerminal
