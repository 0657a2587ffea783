import Mathlib.Tactic.Common
import VirtualTerminal.Proofs.Animation.Plan

/-!
# Orderly stages

Ids and tokens are handed out in order, so a new animation shares neither with one before: on an
orderly stage no region has an id that an animation still gets, all ended animations were begun, and no
token in use is still to be handed out. Everything that happens on a stage keeps it orderly.
-/

namespace VirtualTerminal

/-! ## The regions of a transcript -/

namespace Transcript

/-- The ids of the regions. -/
def ids (t : Transcript) : List Text :=
  t.filterMap fun
    | .line _ => none
    | .region id _ => some id

@[simp] theorem ids_append (t u : Transcript) : ids (t ++ u) = ids t ++ ids u :=
  List.filterMap_append

@[simp] theorem ids_lines (ls : List Line) : ids (ls.map .line) = [] := by
  simp [ids, List.filterMap_map]

theorem mem_ids {t : Transcript} {id : Text} : id ∈ ids t ↔ t.hasRegion id = true := by
  unfold ids hasRegion
  rw [List.mem_filterMap, List.any_eq_true]
  refine exists_congr fun e => and_congr_right fun _ => ?_
  cases e <;> simp [Entry.isRegion]

@[simp] theorem ids_updateRegion (id : Text) (ls : List Line) (t : Transcript) :
    ids (updateRegion id ls t) = ids t := by
  induction t with
  | nil => rfl
  | cons e t ih =>
    unfold updateRegion
    split
    next h =>
      cases e with
      | line l => cases h
      | region i _ =>
        obtain rfl : i = id := of_decide_eq_true h
        rfl
    · rw [← List.singleton_append, ← List.singleton_append (l := t), ids_append, ids_append, ih]

theorem ids_removeRegion (t : Transcript) (id : Text) :
    ids (t.removeRegion id) = (ids t).filter (· ≠ id) := by
  induction t with
  | nil => rfl
  | cons e t ih =>
    unfold removeRegion ids at ih ⊢
    cases e with
    | line l => simpa [Entry.isRegion] using ih
    | region i ls =>
      by_cases hi : i = id
      · simpa [Entry.isRegion, hi] using ih
      · simpa [Entry.isRegion, hi] using ih

theorem ids_extend (t : Transcript) (ls : List Line) : ids (t.extend ls) = ids t := by
  unfold extend
  rw [ids_append, ids_lines, List.append_nil]

end Transcript

namespace Animation

/-! ## Tokens -/

/-- The token of an animation that has left the registry or is about to enter it. -/
def Work.token? : Work → Option Nat
  | .task _ => none
  | .finish r => some r.token
  | .install _ r => some r.token

namespace Registry

/-- Whether a token is neither cancelled nor that of an active animation. -/
structure Lacks (token : Nat) (g : Registry) : Prop where
  cancelled : token ∉ g.cancelled
  active : ∀ id r, g.active.find? id = some r → r.token ≠ token

theorem nextToken_le_step (g : Registry) (w : Work) : g.nextToken ≤ (g.step w).2.nextToken := by
  unfold step
  split
  · exact Nat.le_refl _
  · split <;> exact Nat.le_refl _
  · exact Nat.le_refl _
  · exact Nat.le_succ _
  · exact Nat.le_refl _
  · exact Nat.le_refl _

theorem nextToken_le_runFuel (fuel : Nat) (work : List Work) (g : Registry) :
    g.nextToken ≤ (runFuel fuel work g).nextToken := by
  induction fuel generalizing work g with
  | zero => exact Nat.le_refl _
  | succ fuel ih =>
    cases work with
    | nil => exact Nat.le_refl _
    | cons w rest => exact Nat.le_trans (g.nextToken_le_step w) (ih _ _)

variable {g : Registry} {token : Nat}

/-- A step brings in no token but one that it hands out. -/
theorem Lacks.step (h : g.Lacks token) {w : Work} (hw : w.token? ≠ some token)
    (hout : token < g.nextToken ∨ (g.step w).2.nextToken ≤ token) :
    (g.step w).2.Lacks token ∧ ∀ w' ∈ (g.step w).1, w'.token? ≠ some token := by
  cases w with
  | task t =>
    cases t with
    | note label => exact ⟨⟨h.cancelled, h.active⟩, fun _ hw' => nomatch hw'⟩
    | stop id =>
      simp only [Registry.step]
      cases hfind : g.active.find? id with
      | none => exact ⟨h, fun _ hw' => nomatch hw'⟩
      | some r =>
        refine ⟨⟨h.cancelled, fun id' r' hr' => ?_⟩, fun w' hw' => ?_⟩
        · rw [Table.find?_erase] at hr'
          split at hr'
          · cases hr'
          · exact h.active id' r' hr'
        · obtain rfl := List.mem_singleton.mp hw'
          exact fun heq => h.active id r hfind (Option.some.inj heq)
    | stopAll =>
      refine ⟨⟨h.cancelled, fun id r hr => nomatch hr⟩, fun w' hw' => ?_⟩
      obtain ⟨e, he, rfl⟩ := List.mem_map.mp hw'
      exact fun heq => h.active e.1 e.2 ((Table.find?_eq_some_iff ..).mpr he) (Option.some.inj heq)
    | register id cleanup =>
      refine ⟨⟨h.cancelled, h.active⟩, fun w' hw' heq => ?_⟩
      have hout : token < g.nextToken ∨ g.nextToken + 1 ≤ token := hout
      rcases List.mem_cons.mp hw' with rfl | hw'
      · cases heq
      · obtain rfl := List.mem_singleton.mp hw'
        have heq : g.nextToken = token := Option.some.inj heq
        omega
  | finish r =>
    refine ⟨⟨?_, h.active⟩, fun w' hw' => ?_⟩
    · exact List.not_mem_cons_of_ne_of_not_mem (fun heq => hw (congrArg some heq.symm)) h.cancelled
    · obtain ⟨t, -, rfl⟩ := List.mem_map.mp hw'
      exact fun heq => nomatch heq
  | install id r =>
    refine ⟨⟨h.cancelled, fun id' r' hr' => ?_⟩, fun _ hw' => nomatch hw'⟩
    have hr' : (g.active.insert id r).find? id' = some r' := hr'
    rw [Table.find?_insert] at hr'
    split at hr'
    · cases hr'
      exact fun heq => hw (congrArg some heq)
    · exact h.active id' r' hr'

/-- Work brings in no token but those that are handed out meanwhile. -/
theorem Lacks.runFuel (h : g.Lacks token) {work : List Work}
    (hw : ∀ w ∈ work, w.token? ≠ some token) (fuel : Nat)
    (hout : token < g.nextToken ∨ (runFuel fuel work g).nextToken ≤ token) :
    (runFuel fuel work g).Lacks token := by
  induction fuel generalizing work g with
  | zero => exact h
  | succ fuel ih =>
    cases work with
    | nil => exact h
    | cons w rest =>
      change token < g.nextToken ∨
        (Registry.runFuel fuel ((g.step w).1 ++ rest) (g.step w).2).nextToken ≤ token at hout
      have hle := g.nextToken_le_step w
      have hle' := nextToken_le_runFuel fuel ((g.step w).1 ++ rest) (g.step w).2
      obtain ⟨hstep, hmore⟩ := h.step (hw w List.mem_cons_self) (by omega)
      show (Registry.runFuel fuel ((g.step w).1 ++ rest) (g.step w).2).Lacks token
      exact ih hstep (List.forall_mem_append.mpr ⟨hmore, (List.forall_mem_cons.mp hw).2⟩) (by omega)

/-- An animation that becomes active last is not cancelled. Its registration does not lack the token,
so `Lacks.runFuel` is of use only for the work before it. -/
theorem not_mem_cancelled_runFuel (h : g.Lacks token) {work : List Work}
    (hw : ∀ w ∈ work, w.token? ≠ some token) (hout : token < g.nextToken) (id : Text)
    (cleanup : List Task) (fuel : Nat) :
    token ∉ (runFuel fuel (work ++ [.install id ⟨token, cleanup⟩]) g).cancelled := by
  induction fuel generalizing work g with
  | zero => exact h.cancelled
  | succ fuel ih =>
    cases work with
    | nil =>
      -- nothing is left to be done after the last step
      cases fuel with
      | zero => exact h.cancelled
      | succ fuel => exact h.cancelled
    | cons w rest =>
      obtain ⟨hstep, hmore⟩ := h.step (hw w List.mem_cons_self) (.inl hout)
      show token ∉ (Registry.runFuel fuel
        ((g.step w).1 ++ (rest ++ [.install id ⟨token, cleanup⟩])) (g.step w).2).cancelled
      rw [← List.append_assoc]
      exact ih hstep (List.forall_mem_append.mpr ⟨hmore, (List.forall_mem_cons.mp hw).2⟩)
        (Nat.lt_of_lt_of_le hout (g.nextToken_le_step w))

theorem not_mem_cancelled_register (h : g.Lacks token) (hout : token < g.nextToken) (id : Text)
    (cleanup : List Task) : token ∉ (g.register id token cleanup).cancelled := by
  have hstop : ∀ w ∈ [Work.task (.stop id)], w.token? ≠ some token :=
    List.forall_mem_singleton.mpr fun heq => nomatch heq
  exact not_mem_cancelled_runFuel h hstop hout id cleanup _

/-- Whether no token in use is still to be handed out. -/
def Ready (g : Registry) : Prop :=
  ∀ token, g.nextToken ≤ token → g.Lacks token

theorem ready_new : Ready {} :=
  fun _ _ => ⟨List.not_mem_nil, fun _ _ hr => nomatch hr⟩

theorem Ready.run (h : g.Ready) {work : List Work}
    (hw : ∀ w ∈ work, ∀ token, w.token? = some token → token < g.nextToken) :
    (g.run work).Ready := by
  intro token htoken
  have hle : g.nextToken ≤ token := Nat.le_trans (nextToken_le_runFuel _ work g) htoken
  refine (h token hle).runFuel (fun w hmem heq => ?_) _ (.inr htoken)
  have := hw w hmem token heq
  omega

theorem Ready.cancel (h : g.Ready) {token : Nat} (htoken : token < g.nextToken) :
    (g.cancel token).Ready := by
  intro token' htoken'
  have hlacks := h token' htoken'
  have hne : token' ≠ token := by
    have : g.nextToken ≤ token' := htoken'
    omega
  exact ⟨List.not_mem_cons_of_ne_of_not_mem hne hlacks.cancelled, hlacks.active⟩

end Registry

/-! ## Orderly stages -/

/-- Ids that end alike have the same number. -/
theorem number_eq_of_id_eq {stem stem' : Text} {m n : Nat}
    (h : stem ++ '-' :: Text.ofNat m = stem' ++ '-' :: Text.ofNat n) : m = n := by
  have hsplit := congrArg (Text.splitLast '-') h
  rw [Text.splitLast_append _ (Text.dash_not_mem_ofNat m),
    Text.splitLast_append _ (Text.dash_not_mem_ofNat n)] at hsplit
  exact Text.ofNat_injective (Prod.mk.inj (Option.some.inj hsplit)).2

/-- Whether an id is made of a name, a time and a number, as those of animations are. -/
def IsNumbered (id : Text) (n : Nat) : Prop :=
  ∃ name now, id = name ++ '-' :: Text.ofNat now ++ '-' :: Text.ofNat n

/-- Whether an id is none that an animation still gets, after `begun` of them have been begun. -/
def Behind (begun : Nat) (id : Text) : Prop :=
  ∀ n, IsNumbered id n → n < begun

theorem Behind.mono {m n : Nat} {id : Text} (h : Behind m id) (hmn : m ≤ n) : Behind n id :=
  fun k hk => Nat.lt_of_lt_of_le (h k hk) hmn

theorem IsNumbered.eq {id : Text} {m n : Nat} (hm : IsNumbered id m) (hn : IsNumbered id n) :
    m = n := by
  obtain ⟨name, now, rfl⟩ := hm
  obtain ⟨name', now', heq⟩ := hn
  exact number_eq_of_id_eq heq

/-- An id is behind as soon as its number has been given out. -/
theorem IsNumbered.behind {id : Text} {n begun : Nat} (h : IsNumbered id n) (hn : n < begun) :
    Behind begun id :=
  fun k hk => by rwa [← h.eq hk]

/-- The next number is new. -/
theorem IsNumbered.not_behind {id : Text} {begun : Nat} (h : IsNumbered id begun) :
    ¬ Behind begun id :=
  fun hbehind => Nat.lt_irrefl _ (hbehind begun h)

namespace Stage

/-- Whether ids, numbers and tokens in use have been handed out. -/
structure Orderly (s : Stage) : Prop where
  regions : ∀ id ∈ s.transcript.ids, Behind s.begun id
  ended : ∀ n ∈ s.ended, n < s.begun
  timers : ∀ t ∈ s.timers.pending, t.task.handle.seq < s.begun
  ready : s.registry.Ready

theorem orderly_new (pace : Pace) : (Stage.new pace).Orderly :=
  ⟨fun _ h => (nomatch h), fun _ h => (nomatch h), fun _ h => (nomatch h), Registry.ready_new⟩

variable {s : Stage}

theorem Orderly.withTranscript (hs : s.Orderly) {t : Transcript} (ht : t.ids ⊆ s.transcript.ids) :
    Orderly { s with transcript := t } :=
  ⟨fun id hid => hs.regions id (ht hid), hs.ended, hs.timers, hs.ready⟩

theorem Orderly.withRegistry (hs : s.Orderly) {g : Registry} (hg : g.Ready) :
    Orderly { s with registry := g } :=
  ⟨hs.regions, hs.ended, hs.timers, hg⟩

theorem Orderly.withTimers (hs : s.Orderly) {q : Queue Cue}
    (hq : ∀ t ∈ q.pending, t.task.handle.seq < s.begun) : Orderly { s with timers := q } :=
  ⟨hs.regions, hs.ended, hq, hs.ready⟩

theorem Orderly.update (hs : s.Orderly) (h : Handle) (ls : List Line) : (s.update h ls).Orderly := by
  unfold Stage.update
  split
  · refine hs.withTranscript ?_
    rw [Transcript.ids_updateRegion]
    exact List.Subset.refl _
  · exact hs

theorem Orderly.schedule (hs : s.Orderly) (delay : Nat) {c : Cue} (hc : c.handle.seq < s.begun) :
    (s.schedule delay c).Orderly := by
  refine hs.withTimers fun t ht => ?_
  rcases Queue.mem_place.mp ht with rfl | ht
  · exact hc
  · exact hs.timers t ht

theorem Orderly.finish (hs : s.Orderly) {h : Handle} (hh : h.seq < s.begun) :
    (s.finish h).Orderly := by
  refine ⟨hs.regions, fun n hn => ?_, hs.timers, hs.ready.run fun w hw token heq => ?_⟩
  · rcases List.mem_cons.mp hn with rfl | hn
    · exact hh
    · exact hs.ended n hn
  · obtain rfl := List.mem_singleton.mp hw
    cases heq

theorem Orderly.abandon (hs : s.Orderly) {h : Handle} (hh : h.seq < s.begun) :
    (s.abandon h).Orderly :=
  (hs.finish hh).withTranscript <| by
    rw [Transcript.ids_removeRegion]
    exact List.filter_sublist.subset

theorem Orderly.clear (hs : s.Orderly) : s.clear.Orderly := by
  refine ⟨fun _ h => (nomatch h), hs.ended, hs.timers, hs.ready.run fun w hw token heq => ?_⟩
  obtain rfl := List.mem_singleton.mp hw
  cases heq

theorem Orderly.reset (hs : s.Orderly) : s.reset.Orderly :=
  hs.clear.withTimers fun _ h => nomatch h

theorem begun_update (s : Stage) (h : Handle) (ls : List Line) : (s.update h ls).begun = s.begun := by
  unfold update
  split <;> rfl

theorem Orderly.play (hs : s.Orderly) {c : Cue} (hc : c.handle.seq < s.begun) :
    (s.play c).Orderly := by
  cases c with
  | picture h painter count start delay =>
    by_cases hactive : s.isActive h = true
    · rw [play_picture_of_active hactive]
      refine (hs.update h _).schedule delay ?_
      rw [begun_update]
      exact hc
    · rw [play_picture_of_not_active hactive]
      exact hs
  | lines h ls => exact hs.update h ls
  | finish h last =>
    cases last with
    | none => exact hs.finish hc
    | some ls =>
      refine (hs.update h ls).finish ?_
      rw [begun_update]
      exact hc

theorem Orderly.fired (hs : s.Orderly) {target : Nat} {t : Timer Cue} {timers : Queue Cue}
    (hpop : s.timers.pop? target = some (t, timers)) : (s.fired t timers).Orderly := by
  obtain ⟨-, hpending, -⟩ := Queue.pop?_eq_some_iff.mp hpop
  have hrest : ∀ u ∈ timers.pending, u.task.handle.seq < s.begun := fun u hu =>
    hs.timers u (hpending ▸ List.mem_cons_of_mem _ hu)
  exact (hs.withTimers hrest).play (hs.timers t (hpending ▸ List.mem_cons_self))

theorem Orderly.advanceTo (hs : s.Orderly) (target : Nat) : (s.advanceTo target).2.Orderly :=
  advanceTo_rec (fun hpop hs => hs.fired hpop) (fun hs => hs.withTimers hs.timers) hs

/-! ## Starting animations -/

/-- Whether an animation has been begun and its token handed out. -/
structure Knows (s : Stage) (h : Handle) : Prop where
  seq : h.seq < s.begun
  token : h.token < s.registry.nextToken

section Perform

variable {h : Handle}

theorem Knows.update (hh : s.Knows h) (ls : List Line) : (s.update h ls).Knows h := by
  unfold Stage.update
  split
  · exact ⟨hh.seq, hh.token⟩
  · exact hh

theorem Knows.finish (hh : s.Knows h) : (s.finish h).Knows h :=
  ⟨hh.seq, Nat.lt_of_lt_of_le hh.token (Registry.nextToken_le_runFuel _ _ _)⟩

theorem Knows.play_picture (hh : s.Knows h) (painter : Painter) (count start delay : Nat) :
    (s.play (.picture h painter count start delay)).Knows h := by
  by_cases hactive : s.isActive h = true
  · rw [play_picture_of_active hactive]
    exact ⟨(hh.update _).seq, (hh.update _).token⟩
  · rw [play_picture_of_not_active hactive]
    exact hh

theorem Knows.perform (hh : s.Knows h) (step : Step) : (s.perform h step).Knows h := by
  cases step with
  | paint ls => exact hh.update ls
  | paintAfter delay ls => exact ⟨hh.seq, hh.token⟩
  | frames pictures delay =>
    show (s.animateFrames h pictures delay).Knows h
    unfold animateFrames
    split
    · exact hh
    · exact hh.play_picture _ _ _ _
  | continuous painter framesPerSecond => exact hh.play_picture _ _ _ _
  | finish => exact hh.finish
  | finishAfter delay last => exact ⟨hh.seq, hh.token⟩
  | cancel => exact ⟨hh.seq, hh.token⟩
  | abandon => exact ⟨hh.finish.seq, hh.finish.token⟩

theorem Orderly.perform (hs : s.Orderly) (hh : s.Knows h) (step : Step) :
    (s.perform h step).Orderly :=
  perform_rec hs (fun _ hc => hs.play (hc ▸ hh.seq)) (fun delay _ hc => hs.schedule delay (hc ▸ hh.seq))
    (hs.withRegistry (hs.ready.cancel hh.token)) (hs.abandon hh.seq) step

theorem Orderly.foldl_perform (hs : s.Orderly) (hh : s.Knows h) (steps : List Step) :
    (steps.foldl (fun s step => s.perform h step) s).Orderly ∧
      (steps.foldl (fun s step => s.perform h step) s).Knows h := by
  induction steps generalizing s with
  | nil => exact ⟨hs, hh⟩
  | cons step steps ih => exact ih (hs.perform hh step) (hh.perform step)

end Perform

/-- The id of the next animation with a name. -/
def nextId (s : Stage) (name : Text) : Text :=
  name ++ '-' :: Text.ofNat s.timers.now ++ '-' :: Text.ofNat s.begun

theorem isNumbered_nextId (s : Stage) (name : Text) : IsNumbered (s.nextId name) s.begun :=
  ⟨name, s.timers.now, rfl⟩

theorem Orderly.hasRegion_nextId (hs : s.Orderly) (name : Text) :
    s.transcript.hasRegion (s.nextId name) = false := by
  refine Bool.eq_false_iff.mpr fun h => ?_
  exact (s.isNumbered_nextId name).not_behind (hs.regions _ (Transcript.mem_ids.mpr h))

/-- The region of a new animation goes to the end of the transcript. -/
theorem Orderly.transcript_launch (hs : s.Orderly) (name : Text) :
    (s.launch name).2.transcript = s.transcript ++ [.region (s.nextId name) []] :=
  if_neg (Bool.eq_false_iff.mp (hs.hasRegion_nextId name))

theorem knows_launch (s : Stage) (name : Text) : (s.launch name).2.Knows (s.launch name).1 :=
  ⟨Nat.lt_succ_self _, Nat.lt_of_lt_of_le (Nat.lt_succ_self s.registry.nextToken)
    (Registry.nextToken_le_runFuel _ _ s.registry.freshToken.2)⟩

theorem Orderly.launch (hs : s.Orderly) (name : Text) : (s.launch name).2.Orderly := by
  refine ⟨?_, fun n hn => Nat.lt_succ_of_lt (hs.ended n hn),
    fun t ht => Nat.lt_succ_of_lt (hs.timers t ht), ?_⟩
  · intro id hid
    rw [hs.transcript_launch, Transcript.ids_append] at hid
    rcases List.mem_append.mp hid with hid | hid
    · exact (hs.regions id hid).mono (Nat.le_succ _)
    · obtain rfl := List.mem_singleton.mp hid
      exact (s.isNumbered_nextId name).behind (Nat.lt_succ_self _)
  · have hfresh : (s.registry.freshToken.2).Ready := fun token htoken =>
      let hlacks := hs.ready token (Nat.le_of_succ_le htoken)
      ⟨hlacks.cancelled, hlacks.active⟩
    refine hfresh.run fun w hw token heq => ?_
    rcases List.mem_cons.mp hw with rfl | hw
    · cases heq
    · obtain rfl := List.mem_singleton.mp hw
      cases heq
      exact Nat.lt_succ_self _

/-- A new animation is active. -/
theorem Orderly.isActive_launch (hs : s.Orderly) (name : Text) :
    (s.launch name).2.isActive (s.launch name).1 = true := by
  have hlacks := hs.ready s.registry.nextToken (Nat.le_refl _)
  have hended : s.begun ∉ s.ended := fun h => Nat.lt_irrefl _ (hs.ended _ h)
  have hcancelled : s.registry.nextToken ∉ (s.launch name).2.registry.cancelled :=
    Registry.not_mem_cancelled_register (g := s.registry.freshToken.2)
      ⟨hlacks.cancelled, hlacks.active⟩ (Nat.lt_succ_self _) (s.nextId name) []
  refine Bool.not_eq_false _ ▸ fun hinactive => ?_
  rcases isActive_eq_false_iff.mp hinactive with hseq | htoken
  · exact hended hseq
  · exact hcancelled (List.contains_iff_mem.mp htoken)

/-- An animation that starts leaves a stage orderly, whether the start fails or not. -/
theorem Orderly.run (hs : s.Orderly) (plan : Plan) (name : Text) (i : Invocation) :
    (plan.run name i s).2.Orderly := by
  rw [stage_run]
  exact ((hs.launch name.lower).foldl_perform (s.knows_launch name.lower) _).1

end Stage

end Animation

end VirtualTerminal
