import Mathlib.Algebra.Group.Action.Defs
import Mathlib.Algebra.Order.BigOperators.Group.List
import Mathlib.Algebra.Order.Ring.Nat
import Mathlib.Data.List.Induction
import Mathlib.Data.List.Nodup
import VirtualTerminal.Animation.Registry

/-!
# What becomes of animations

Beside a registry, a ledger is kept of the animations that have become active, of those that have
been stopped, and of those that have lost their place to another one. Every animation stands in one of
these places (`Balanced`), each step of work keeps the ledger balanced (`Balanced.steps`), and no work
is left when a call returns (`runs_run`). So every animation is active or has been stopped once, unless
one has lost its place (`animations_accounted`), in whatever order those are finished that are stopped
together (`accounted_of_reached`). None does if cleanups make nothing active (`finishedOnce_of_quiet`),
but a cleanup may make an animation active under the id that its own is just being replaced under
(`not_finishedOnce_of_reentry`).
-/

namespace VirtualTerminal

namespace Table

variable {α : Type u}

/-- The values, in the order of their keys. -/
def values (t : Table α) : List α :=
  t.entries.map (·.2)

@[simp] theorem values_empty : (empty : Table α).values = [] := rfl

theorem values_erase_perm (t : Table α) (k : Text) :
    t.values.Perm ((t.find? k).toList ++ (t.erase k).values) := by
  have hperm := (t.perm_erase k).map (·.2)
  rw [List.map_append, List.map_map] at hperm
  cases hfind : t.find? k with
  | none => rwa [hfind] at hperm
  | some a => rwa [hfind] at hperm

theorem values_insert_perm (t : Table α) (k : Text) (a : α) :
    (t.insert k a).values.Perm (a :: (t.erase k).values) :=
  (t.perm_insert k a).map _

end Table

namespace Animation

/-! ## Calls -/

/-- A call of a registry from outside. -/
inductive Call where
  | register (id : Text) (cleanup : List Task)
  | stop (id : Text)
  | stopAll

namespace Registry

/-- The registry after a call. An animation that is registered gets a fresh token. -/
def call (g : Registry) : Call → Registry
  | .register id cleanup => g.freshToken.2.register id g.freshToken.1 cleanup
  | .stop id => g.stop id
  | .stopAll => g.stopAll

/-- The work that a call does, and the registry in which it starts. -/
def start (g : Registry) : Call → List Work × Registry
  | .register id cleanup => g.step (.task (.register id cleanup))
  | .stop id => ([.task (.stop id)], g)
  | .stopAll => ([.task .stopAll], g)

theorem call_eq (g : Registry) (c : Call) : g.call c = (g.start c).2.run (g.start c).1 := by
  cases c <;> rfl

end Registry

/-! ## The ledger -/

/-- What has become of animations: those that have become active, with their ids, those that have been
stopped and whose cleanups have been done, and those that another one has taken the place of. The last
of each come first. -/
structure Ledger where
  installed : List (Text × Registration) := []
  finished : List Registration := []
  displaced : List Registration := []

namespace Ledger

/-- The ledger after a step of work that is done in a registry. -/
def record (l : Ledger) (g : Registry) : Work → Ledger
  | .task _ => l
  | .finish r => { l with finished := r :: l.finished }
  | .install id r =>
    { l with
      installed := (id, r) :: l.installed
      displaced := (g.active.find? id).toList ++ l.displaced }

/-- The ledger after at most `fuel` steps of work. -/
def recordFuel : (fuel : Nat) → List Work → Registry → Ledger → Ledger
  | 0, _, _, l => l
  | _, [], _, l => l
  | fuel + 1, w :: rest, g, l =>
    recordFuel fuel ((g.step w).1 ++ rest) (g.step w).2 (l.record g w)

/-- The ledger after all work. -/
def recordRun (l : Ledger) (g : Registry) (work : List Work) : Ledger :=
  recordFuel (work.foldr (fun w n => w.weight + n) (g.weight + 1)) work g l

end Ledger

/-- A new registry and its ledger after calls. -/
def afterCalls (calls : List Call) : Registry × Ledger :=
  calls.foldl (fun s c => (s.1.call c, s.2.recordRun (s.1.start c).2 (s.1.start c).1)) ({}, {})

/-! ## Any order of work

What is stopped together may be finished in any order. `Registry.step` takes one of them. -/

/-- A step of work in a registry: what is to be done next, and the registry after it. -/
inductive Registry.Steps (g : Registry) : Work → List Work → Registry → Prop where
  | step (w : Work) : g.Steps w (g.step w).1 (g.step w).2
  | stopAll {more : List Work} (hmore : more.Perm (g.step (.task .stopAll)).1) :
      g.Steps (.task .stopAll) more (g.step (.task .stopAll)).2

/-- Work that is done to its end: the registry and the ledger before it and after it. -/
inductive Runs : List Work → Registry → Ledger → Registry → Ledger → Prop where
  | done (g : Registry) (l : Ledger) : Runs [] g l g l
  | step {w : Work} {more rest : List Work} {g g' g'' : Registry} {l l'' : Ledger}
      (hstep : g.Steps w more g') (hrest : Runs (more ++ rest) g' (l.record g w) g'' l'') :
      Runs (w :: rest) g l g'' l''

/-- The registries, with their ledgers, that calls can lead to from a new one. -/
inductive Reached : List Call → Registry → Ledger → Prop where
  | new : Reached [] {} {}
  | call {calls : List Call} {g g' : Registry} {l l' : Ledger} (h : Reached calls g l) (c : Call)
      (hruns : Runs (g.start c).1 (g.start c).2 l g' l') : Reached (calls ++ [c]) g' l'

/-! ## Steps that work takes -/

/-- A bound for the steps that work in a registry takes. -/
def load (work : List Work) (g : Registry) : Nat :=
  (work.map Work.weight).sum + g.weight

theorem foldr_weight (work : List Work) (n : Nat) :
    work.foldr (fun w n => w.weight + n) n = (work.map Work.weight).sum + n := by
  induction work with
  | nil => exact (Nat.zero_add n).symm
  | cons w rest ih =>
    rw [List.foldr_cons, ih, List.map_cons, List.sum_cons]
    exact (Nat.add_assoc ..).symm

theorem sum_weight_tasks (tasks : List Task) :
    ((tasks.map Work.task).map Work.weight).sum = weightAll tasks := by
  induction tasks with
  | nil => rfl
  | cons t rest ih =>
    rw [List.map_cons, List.map_cons, List.sum_cons, ih]
    rfl

theorem Registry.weight_eq_sum (g : Registry) :
    g.weight = (g.active.values.map fun r => 2 + weightAll r.cleanup).sum := by
  unfold weight Table.values
  rw [List.map_map, List.sum_eq_foldr, List.foldr_map]
  rfl

theorem Registry.step_stopAll (g : Registry) : g.step (.task .stopAll) =
    (g.active.values.map .finish, { g with active := .empty }) := by
  unfold Table.values
  rw [List.map_map]
  rfl

theorem sum_weight_finish (rs : List Registration) :
    ((rs.map Work.finish).map Work.weight).sum ≤ (rs.map fun r => 2 + weightAll r.cleanup).sum := by
  induction rs with
  | nil => exact Nat.le_refl _
  | cons r rest ih =>
    simp only [List.map_cons, List.sum_cons, Work.weight]
    omega

/-- Each step of work takes from the load. -/
theorem load_step_lt (g : Registry) (w : Work) (rest : List Work) :
    load ((g.step w).1 ++ rest) (g.step w).2 < load (w :: rest) g := by
  unfold load
  rw [List.map_append, List.sum_append, List.map_cons, List.sum_cons, Registry.weight_eq_sum,
    Registry.weight_eq_sum]
  -- what an id takes up of the weight of the registry
  have hsplit := fun id =>
    ((g.active.values_erase_perm id).map fun r => 2 + weightAll r.cleanup).sum_eq
  simp only [List.map_append, List.sum_append] at hsplit
  cases w with
  | task t =>
    cases t with
    | note label => simp [Registry.step, Work.weight, Task.weight]
    | stop id =>
      have hid := hsplit id
      simp only [Registry.step]
      cases hfind : g.active.find? id with
      | none => simp [Work.weight, Task.weight]
      | some r =>
        simp only [hfind, Option.toList_some, List.map_singleton, List.sum_singleton] at hid
        simp only [Work.weight, Task.weight, List.map_singleton, List.sum_singleton]
        omega
    | stopAll =>
      have hle := sum_weight_finish g.active.values
      simp only [g.step_stopAll, Work.weight, Task.weight, Table.values_empty, List.map_nil,
        List.sum_nil]
      omega
    | register id cleanup =>
      simp only [Registry.step, Work.weight, Task.weight, List.map_cons, List.map_nil,
        List.sum_cons, List.sum_nil]
      omega
  | finish r =>
    simp only [Registry.step, sum_weight_tasks, Work.weight]
    omega
  | install id r =>
    have hid := hsplit id
    have hinsert := ((g.active.values_insert_perm id r).map fun r => 2 + weightAll r.cleanup).sum_eq
    rw [List.map_cons, List.sum_cons] at hinsert
    simp only [Registry.step, Work.weight, List.map_nil, List.sum_nil]
    omega

section Order

variable {work : List Work} {g : Registry}

/-- No order of work goes on for ever. -/
theorem Registry.Steps.load_lt {w : Work} {more : List Work} {g' : Registry}
    (h : g.Steps w more g') (rest : List Work) : load (more ++ rest) g' < load (w :: rest) g := by
  cases h with
  | step => exact load_step_lt g w rest
  | stopAll hmore =>
    have hsum := ((hmore.append_right rest).map Work.weight).sum_eq
    have hlt := load_step_lt g (.task .stopAll) rest
    unfold load at hlt ⊢
    omega

/-- With as many steps as its load, all work is done. -/
theorem runs_runFuel {fuel : Nat} (l : Ledger) (hfuel : load work g ≤ fuel) :
    Runs work g l (Registry.runFuel fuel work g) (l.recordFuel fuel work g) := by
  induction fuel generalizing work g l with
  | zero =>
    cases work with
    | nil => exact .done g l
    | cons w rest =>
      have hlt := load_step_lt g w rest
      omega
  | succ fuel ih =>
    cases work with
    | nil => exact .done g l
    | cons w rest =>
      have hlt := load_step_lt g w rest
      have hmore : load ((g.step w).1 ++ rest) (g.step w).2 ≤ fuel := by omega
      exact .step (.step w) (ih (l.record g w) hmore)

theorem runs_run (work : List Work) (g : Registry) (l : Ledger) :
    Runs work g l (g.run work) (l.recordRun g work) := by
  refine runs_runFuel l ?_
  rw [foldr_weight]
  unfold load
  omega

theorem reached_afterCalls (calls : List Call) :
    Reached calls (afterCalls calls).1 (afterCalls calls).2 := by
  induction calls using List.reverseRecOn with
  | nil => exact .new
  | append_singleton calls c ih =>
    have hruns := runs_run ((afterCalls calls).1.start c).1 ((afterCalls calls).1.start c).2
      (afterCalls calls).2
    unfold afterCalls at ih hruns ⊢
    rw [List.foldl_concat, Registry.call_eq]
    exact .call ih c hruns

end Order

/-! ## Balance -/

/-- The animation that work is going to stop. -/
def Work.finishing? : Work → Option Registration
  | .finish r => some r
  | _ => none

/-- The animation that work is going to make active. -/
def Work.installing? : Work → Option Registration
  | .install _ r => some r
  | _ => none

/-- Whether a ledger is right about a registry in which there is work to do. -/
structure Balanced (work : List Work) (g : Registry) (l : Ledger) : Prop where
  cancelled : g.cancelled = l.finished.map (·.token)
  /-- Every token that has been handed out is that of one animation. -/
  made : (l.installed.map (·.2.token) ++ (work.filterMap Work.installing?).map (·.token)).Perm
    (List.range g.nextToken)
  /-- Every animation that has become active is in one place. -/
  places : (l.installed.map (·.2)).Perm
    (g.active.values ++ (work.filterMap Work.finishing? ++ (l.finished ++ l.displaced)))
  active : ∀ id r, g.active.find? id = some r → (id, r) ∈ l.installed

variable {work rest : List Work} {g : Registry} {l : Ledger}

theorem balanced_empty : Balanced [] {} {} :=
  ⟨rfl, .refl _, .refl _, fun _ _ h => nomatch h⟩

/-- A task that is still to be done has changed nothing. -/
theorem Balanced.cons_task (h : Balanced work g l) (t : Task) : Balanced (.task t :: work) g l :=
  ⟨h.cancelled, h.made, h.places, h.active⟩

theorem Balanced.of_cons_task {t : Task} (h : Balanced (.task t :: work) g l) : Balanced work g l :=
  ⟨h.cancelled, h.made, h.places, h.active⟩

theorem Balanced.stop {r : Registration} {id : Text} (h : Balanced work g l)
    (hfind : g.active.find? id = some r) :
    Balanced (.finish r :: work) { g with active := g.active.erase id } l := by
  refine ⟨h.cancelled, h.made, ?_, fun id' r' hr' => h.active id' r' ?_⟩
  · have hvalues := g.active.values_erase_perm id
    rw [hfind] at hvalues
    refine h.places.trans ((hvalues.append_right _).trans ?_)
    exact List.perm_middle.symm
  · rw [Table.find?_erase] at hr'
    split at hr'
    · cases hr'
    · exact hr'

theorem Balanced.stopAll (h : Balanced work g l) :
    Balanced (g.active.values.map .finish ++ work) { g with active := .empty } l := by
  have hfinishing : (g.active.values.map Work.finish).filterMap Work.finishing? =
      g.active.values := by
    rw [List.filterMap_map]
    exact List.filterMap_some
  have hinstalling : (g.active.values.map Work.finish).filterMap Work.installing? = [] := by
    rw [List.filterMap_map]
    exact List.filterMap_none _
  refine ⟨h.cancelled, ?_, ?_, fun _ _ hr => nomatch hr⟩
  · rw [List.filterMap_append, hinstalling]
    exact h.made
  · rw [List.filterMap_append, hfinishing, List.append_assoc]
    exact h.places

theorem Balanced.register (h : Balanced work g l) (id : Text) (cleanup : List Task) :
    Balanced (.task (.stop id) :: .install id ⟨g.nextToken, cleanup⟩ :: work)
      { g with nextToken := g.nextToken + 1 } l := by
  refine ⟨h.cancelled, ?_, h.places, h.active⟩
  rw [List.range_succ]
  exact List.perm_middle.trans ((h.made.cons _).trans (List.perm_append_singleton _ _).symm)

theorem Balanced.finish {r : Registration} (h : Balanced (.finish r :: work) g l) :
    Balanced (r.cleanup.map .task ++ work) { g with cancelled := r.token :: g.cancelled }
      { l with finished := r :: l.finished } := by
  have hfinishing : (r.cleanup.map Work.task).filterMap Work.finishing? = [] := by
    rw [List.filterMap_map]
    exact List.filterMap_none _
  have hinstalling : (r.cleanup.map Work.task).filterMap Work.installing? = [] := by
    rw [List.filterMap_map]
    exact List.filterMap_none _
  refine ⟨congrArg (r.token :: ·) h.cancelled, ?_, ?_, h.active⟩
  · rw [List.filterMap_append, hinstalling]
    exact h.made
  · rw [List.filterMap_append, hfinishing]
    exact h.places.trans (List.perm_middle.symm.append_left _)

theorem Balanced.install {r : Registration} {id : Text} (h : Balanced (.install id r :: work) g l) :
    Balanced work { g with active := g.active.insert id r } (l.record g (.install id r)) := by
  refine ⟨h.cancelled, List.perm_middle.symm.trans h.made, ?_, fun id' r' hr' => ?_⟩
  · have hold := g.active.values_erase_perm id
    have hnew := g.active.values_insert_perm id r
    -- the animation that was active under the id goes to those that have lost their place
    refine ((h.places.trans (hold.append_right _)).cons r).trans (.trans ?_ (hnew.append_right _).symm)
    rw [List.append_assoc]
    refine .cons r ((List.perm_append_comm_assoc ..).trans ?_)
    refine .append_left _ ((List.perm_append_comm_assoc ..).trans ?_)
    exact .append_left _ (List.perm_append_comm_assoc ..)
  · have hr' : (g.active.insert id r).find? id' = some r' := hr'
    rw [Table.find?_insert] at hr'
    split at hr'
    next hid =>
      cases hr'
      subst hid
      exact List.mem_cons_self
    · exact List.mem_cons_of_mem _ (h.active id' r' hr')

theorem Balanced.perm {work' : List Work} (h : Balanced work g l) (hperm : work'.Perm work) :
    Balanced work' g l := by
  refine ⟨h.cancelled, ?_, ?_, h.active⟩
  · exact (((hperm.filterMap _).map _).append_left _).trans h.made
  · exact h.places.trans (((hperm.filterMap _).append_right _).append_left _).symm

/-- A step of work keeps the ledger balanced. -/
theorem Balanced.steps {w : Work} {more : List Work} {g' : Registry}
    (h : Balanced (w :: rest) g l) (hstep : g.Steps w more g') :
    Balanced (more ++ rest) g' (l.record g w) := by
  cases hstep with
  | stopAll hmore =>
    rw [g.step_stopAll] at hmore ⊢
    exact h.of_cons_task.stopAll.perm (hmore.append_right rest)
  | step =>
    cases w with
    | task t =>
      have hrest : Balanced rest g l := h.of_cons_task
      cases t with
      | note label => exact ⟨hrest.cancelled, hrest.made, hrest.places, hrest.active⟩
      | stop id =>
        simp only [Registry.step]
        cases hfind : g.active.find? id with
        | none => exact hrest
        | some r => exact hrest.stop hfind
      | stopAll =>
        rw [g.step_stopAll]
        exact hrest.stopAll
      | register id cleanup => exact hrest.register id cleanup
    | finish r => exact h.finish
    | install id r => exact h.install

/-- When all work is done, the ledger is balanced again. -/
theorem Balanced.runs {g' : Registry} {l' : Ledger} (h : Balanced work g l)
    (hruns : Runs work g l g' l') : Balanced [] g' l' := by
  induction hruns with
  | done => exact h
  | step hstep _ ih => exact ih (h.steps hstep)

theorem Balanced.start (h : Balanced [] g l) (c : Call) :
    Balanced (g.start c).1 (g.start c).2 l := by
  cases c with
  | register id cleanup => exact h.register id cleanup
  | stop id => exact h.cons_task (.stop id)
  | stopAll => exact h.cons_task .stopAll

theorem Reached.balanced {calls : List Call} (h : Reached calls g l) : Balanced [] g l := by
  induction h with
  | new => exact balanced_empty
  | call _ c hruns ih => exact (ih.start c).runs hruns

theorem balanced_afterCalls (calls : List Call) :
    Balanced [] (afterCalls calls).1 (afterCalls calls).2 :=
  (reached_afterCalls calls).balanced

/-! ## What has become of each animation -/

/-- How often the cleanup of the animation with a token has been done. -/
def Ledger.cleanups (l : Ledger) (token : Nat) : Nat :=
  (l.finished.map (·.token)).count token

/-- Whether no animation with a token is active. -/
def Registry.HasLeft (g : Registry) (token : Nat) : Prop :=
  ∀ id r, g.active.find? id = some r → r.token ≠ token

/-- Whether an animation is active under an id, not cancelled and its cleanup not done. -/
structure Current (g : Registry) (l : Ledger) (id : Text) (r : Registration) : Prop where
  active : g.active.find? id = some r
  cancelled : g.isCancelled r.token = false
  cleanups : l.cleanups r.token = 0

/-- Whether an animation has left the registry, is cancelled and its cleanup has been done once. -/
structure Stopped (g : Registry) (l : Ledger) (r : Registration) : Prop where
  left : g.HasLeft r.token
  cancelled : g.isCancelled r.token = true
  cleanups : l.cleanups r.token = 1

/-- Whether an animation has left the registry, but is not cancelled and its cleanup not done. -/
structure Lost (g : Registry) (l : Ledger) (r : Registration) : Prop where
  left : g.HasLeft r.token
  cancelled : g.isCancelled r.token = false
  cleanups : l.cleanups r.token = 0

/-- Whether every animation that has become active is active still or has been stopped once. -/
def FinishedOnce (g : Registry) (l : Ledger) : Prop :=
  ∀ e ∈ l.installed, Current g l e.1 e.2 ∨ Stopped g l e.2

theorem Balanced.made_of_done (h : Balanced [] g l) :
    (l.installed.map (·.2.token)).Perm (List.range g.nextToken) := by
  have hmade := h.made
  rwa [List.filterMap_nil, List.map_nil, List.append_nil] at hmade

theorem Balanced.places_of_done (h : Balanced [] g l) :
    (l.installed.map (·.2)).Perm (g.active.values ++ (l.finished ++ l.displaced)) :=
  h.places

theorem Balanced.nodup_installed (h : Balanced [] g l) :
    (l.installed.map (·.2.token)).Nodup :=
  h.made_of_done.nodup_iff.mpr List.nodup_range

/-- The animations in all places have tokens of their own. -/
theorem Balanced.nodup_places (h : Balanced [] g l) : (g.active.values.map (·.token) ++
    (l.finished.map (·.token) ++ l.displaced.map (·.token))).Nodup := by
  have hplaces := h.places_of_done.map (·.token)
  rw [List.map_append, List.map_append, List.map_map] at hplaces
  exact hplaces.nodup_iff.mp h.nodup_installed

theorem Balanced.isCancelled_eq (h : Balanced [] g l) (token : Nat) :
    g.isCancelled token = (l.finished.map (·.token)).contains token := by
  unfold Registry.isCancelled
  rw [h.cancelled]

theorem mem_values_of_find? {t : Table Registration} {id : Text} {r : Registration}
    (h : t.find? id = some r) : r ∈ t.values :=
  List.mem_map.mpr ⟨(id, r), (t.find?_eq_some_iff id r).mp h, rfl⟩

theorem Balanced.lost (h : Balanced [] g l) {r : Registration} (hr : r ∈ l.displaced) :
    Lost g l r := by
  obtain ⟨-, hrest, hvalues⟩ := List.nodup_append.mp h.nodup_places
  obtain ⟨-, -, hfinished⟩ := List.nodup_append.mp hrest
  have hmem : r.token ∈ l.displaced.map (·.token) := List.mem_map_of_mem hr
  have hnot : r.token ∉ l.finished.map (·.token) := fun hin => hfinished _ hin _ hmem rfl
  refine ⟨fun id r' hr' => ?_, ?_, List.count_eq_zero.mpr hnot⟩
  · exact hvalues _ (List.mem_map_of_mem (mem_values_of_find? hr')) _ (List.mem_append_right _ hmem)
  · rw [h.isCancelled_eq]
    simpa using hnot

theorem Balanced.stopped (h : Balanced [] g l) {r : Registration} (hr : r ∈ l.finished) :
    Stopped g l r := by
  obtain ⟨-, hrest, hvalues⟩ := List.nodup_append.mp h.nodup_places
  obtain ⟨hnodup, -, -⟩ := List.nodup_append.mp hrest
  have hmem : r.token ∈ l.finished.map (·.token) := List.mem_map_of_mem hr
  refine ⟨fun id r' hr' => ?_, ?_, List.count_eq_one_of_mem hnodup hmem⟩
  · exact hvalues _ (List.mem_map_of_mem (mem_values_of_find? hr')) _ (List.mem_append_left _ hmem)
  · rw [h.isCancelled_eq]
    simpa using hmem

theorem Balanced.current (h : Balanced [] g l) {id : Text} {r : Registration}
    (hinstalled : (id, r) ∈ l.installed) (hr : r ∈ g.active.values) : Current g l id r := by
  obtain ⟨-, -, hvalues⟩ := List.nodup_append.mp h.nodup_places
  have hmem : r.token ∈ g.active.values.map (·.token) := List.mem_map_of_mem hr
  have hnot : r.token ∉ l.finished.map (·.token) := fun hin =>
    hvalues _ hmem _ (List.mem_append_left _ hin) rfl
  refine ⟨?_, ?_, List.count_eq_zero.mpr hnot⟩
  · -- it is active under some id, and it has become active only once
    obtain ⟨⟨id', r'⟩, he, rfl⟩ := List.mem_map.mp hr
    have hfind := (g.active.find?_eq_some_iff id' r').mpr he
    have heq := List.inj_on_of_nodup_map h.nodup_installed hinstalled (h.active id' r' hfind) rfl
    cases heq
    exact hfind
  · rw [h.isCancelled_eq]
    simpa using hnot

theorem Balanced.finishedOnce_iff (h : Balanced [] g l) : FinishedOnce g l ↔ l.displaced = [] := by
  have hplaces := h.places_of_done
  constructor
  · intro hfinished
    refine List.eq_nil_iff_forall_not_mem.mpr fun r hr => ?_
    have hlost := h.lost hr
    have hmem : r ∈ l.installed.map (·.2) :=
      hplaces.mem_iff.mpr (List.mem_append_right _ (List.mem_append_right _ hr))
    obtain ⟨e, he, rfl⟩ := List.mem_map.mp hmem
    rcases hfinished e he with hcurrent | hstopped
    · exact hlost.left _ _ hcurrent.active rfl
    · exact absurd (hlost.cancelled.symm.trans hstopped.cancelled) Bool.false_ne_true
  · intro hnone e he
    have hmem := hplaces.mem_iff.mp (List.mem_map_of_mem he)
    rw [hnone, List.append_nil] at hmem
    rcases List.mem_append.mp hmem with hr | hr
    · exact .inl (h.current he hr)
    · exact .inr (h.stopped hr)

theorem Balanced.accounted (h : Balanced [] g l) {id : Text} {r : Registration}
    (hinstalled : (id, r) ∈ l.installed) :
    Current g l id r ∨ Stopped g l r ∨ (r ∈ l.displaced ∧ Lost g l r) := by
  have hmem := h.places_of_done.mem_iff.mp (List.mem_map_of_mem (f := (·.2)) hinstalled)
  rcases List.mem_append.mp hmem with hr | hr
  · exact .inl (h.current hinstalled hr)
  · rcases List.mem_append.mp hr with hr | hr
    · exact .inr (.inl (h.stopped hr))
    · exact .inr (.inr ⟨hr, h.lost hr⟩)

/-- Every token that calls have handed out is that of one animation. Each animation is active, not
cancelled and its cleanup not done, or it has left the registry, is cancelled and its cleanup has been
done once, or another one has taken its place while the registry went on. There is none of the last
kind exactly if no animation has become active under an id that was in use at that moment. -/
theorem animations_accounted (calls : List Call) :
    let g := (afterCalls calls).1
    let l := (afterCalls calls).2
    (l.installed.map (·.2.token)).Perm (List.range g.nextToken) ∧
      (∀ id r, (id, r) ∈ l.installed →
        Current g l id r ∨ Stopped g l r ∨ (r ∈ l.displaced ∧ Lost g l r)) ∧
      (FinishedOnce g l ↔ l.displaced = []) := by
  intro g l
  have h := balanced_afterCalls calls
  exact ⟨h.made_of_done, fun _ _ => h.accounted, h.finishedOnce_iff⟩

/-- The same holds in whatever order animations are finished that are stopped together. -/
theorem accounted_of_reached {calls : List Call} (h : Reached calls g l) :
    (l.installed.map (·.2.token)).Perm (List.range g.nextToken) ∧
      (∀ id r, (id, r) ∈ l.installed →
        Current g l id r ∨ Stopped g l r ∨ (r ∈ l.displaced ∧ Lost g l r)) ∧
      (FinishedOnce g l ↔ l.displaced = []) :=
  ⟨h.balanced.made_of_done, fun _ _ => h.balanced.accounted, h.balanced.finishedOnce_iff⟩

/-! ## Cleanups that start nothing -/

/-- Whether a task makes no animation active. -/
def Task.Quiet : Task → Prop
  | .register _ _ => False
  | _ => True

/-- Whether work makes no animation active, nor do the cleanups that it leads to. -/
def Work.Quiet : Work → Prop
  | .task t => t.Quiet
  | .finish r => ∀ t ∈ r.cleanup, t.Quiet
  | .install _ _ => False

/-- Whether the cleanup of an animation that a call registers makes no other one active. -/
def Call.Quiet : Call → Prop
  | .register _ cleanup => ∀ t ∈ cleanup, t.Quiet
  | _ => True

/-- Whether the cleanups of all active animations make no other one active. -/
def Registry.Quiet (g : Registry) : Prop :=
  ∀ id r, g.active.find? id = some r → ∀ t ∈ r.cleanup, t.Quiet

/-- Quiet work makes nothing active. -/
structure Quieter (g g' : Registry) : Prop where
  quiet : g'.Quiet
  inactive : ∀ id, g.active.find? id = none → g'.active.find? id = none

theorem Registry.Quiet.step (hg : g.Quiet) {w : Work} (hw : w.Quiet) :
    Quieter g (g.step w).2 ∧ (∀ w' ∈ (g.step w).1, w'.Quiet) ∧
      (l.record g w).displaced = l.displaced := by
  cases w with
  | task t =>
    cases t with
    | note label => exact ⟨⟨hg, fun _ h => h⟩, (fun _ hw' => nomatch hw'), rfl⟩
    | stop id =>
      simp only [Registry.step]
      cases hfind : g.active.find? id with
      | none => exact ⟨⟨hg, fun _ h => h⟩, (fun _ hw' => nomatch hw'), rfl⟩
      | some r =>
        refine ⟨⟨fun id' r' hr' => ?_, fun id' h => ?_⟩, fun w' hw' => ?_, rfl⟩
        · rw [Table.find?_erase] at hr'
          split at hr'
          · cases hr'
          · exact hg id' r' hr'
        · rw [Table.find?_erase, h]
          exact ite_self none
        · obtain rfl := List.mem_singleton.mp hw'
          exact hg id r hfind
    | stopAll =>
      refine ⟨⟨(fun _ _ hr => nomatch hr), fun _ _ => rfl⟩, fun w' hw' => ?_, rfl⟩
      obtain ⟨e, he, rfl⟩ := List.mem_map.mp hw'
      exact hg e.1 e.2 ((Table.find?_eq_some_iff ..).mpr he)
    | register id cleanup => exact hw.elim
  | finish r =>
    refine ⟨⟨hg, fun _ h => h⟩, fun w' hw' => ?_, rfl⟩
    obtain ⟨t, ht, rfl⟩ := List.mem_map.mp hw'
    exact hw t ht
  | install id r => exact hw.elim

theorem Registry.Quiet.steps (hg : g.Quiet) {w : Work} (hw : w.Quiet) {more : List Work}
    {g' : Registry} (hstep : g.Steps w more g') :
    Quieter g g' ∧ (∀ w' ∈ more, w'.Quiet) ∧ (l.record g w).displaced = l.displaced := by
  cases hstep with
  | step => exact hg.step hw
  | stopAll hmore =>
    obtain ⟨hquieter, hall, hrecord⟩ := hg.step (l := l) hw
    exact ⟨hquieter, fun w' hw' => hall w' (hmore.subset hw'), hrecord⟩

/-- Work in which nothing becomes active, but perhaps one animation at the end, under an id that is not
in use. -/
inductive QuietWork (g : Registry) : List Work → Prop where
  | nil : QuietWork g []
  | install {id : Text} {r : Registration} (hr : ∀ t ∈ r.cleanup, t.Quiet)
      (hid : g.active.find? id = none) : QuietWork g [.install id r]
  | cons {w : Work} {rest : List Work} (hw : w.Quiet) (hrest : QuietWork g rest) :
      QuietWork g (w :: rest)

theorem QuietWork.mono {g' : Registry} (h : QuietWork g work) (hg : Quieter g g') :
    QuietWork g' work := by
  induction h with
  | nil => exact .nil
  | install hr hid => exact .install hr (hg.inactive _ hid)
  | cons hw _ ih => exact .cons hw ih

theorem QuietWork.append {more : List Work} (hmore : ∀ w ∈ more, w.Quiet) (h : QuietWork g work) :
    QuietWork g (more ++ work) := by
  induction more with
  | nil => exact h
  | cons w more ih =>
    obtain ⟨hw, hmore⟩ := List.forall_mem_cons.mp hmore
    exact .cons hw (ih hmore)

/-- Quiet work takes the place of no animation. -/
theorem QuietWork.runs {g' : Registry} {l' : Ledger} (hwork : QuietWork g work) (hg : g.Quiet)
    (hruns : Runs work g l g' l') : g'.Quiet ∧ l'.displaced = l.displaced := by
  induction hruns with
  | done => exact ⟨hg, rfl⟩
  | @step w more rest g g' g'' l l'' hstep _ ih =>
    cases hwork with
    | @install id r hr hid =>
      have hquiet : (g.step (.install id r)).2.Quiet := fun id' r' hr' => by
        have hr' : (g.active.insert id r).find? id' = some r' := hr'
        rw [Table.find?_insert] at hr'
        split at hr'
        · cases hr'
          exact hr
        · exact hg id' r' hr'
      have hrecord : (l.record g (.install id r)).displaced = l.displaced := by
        simp only [Ledger.record, hid, Option.toList_none, List.nil_append]
      cases hstep with
      | step =>
        obtain ⟨hrun, hdisplaced⟩ := ih .nil hquiet
        exact ⟨hrun, hdisplaced.trans hrecord⟩
    | cons hw hrest =>
      obtain ⟨hquieter, hmore, hrecord⟩ := hg.steps (l := l) hw hstep
      obtain ⟨hrun, hdisplaced⟩ := ih ((hrest.mono hquieter).append hmore) hquieter.quiet
      exact ⟨hrun, hdisplaced.trans hrecord⟩

theorem Registry.Quiet.register {g' : Registry} {l' : Ledger} (hg : g.Quiet) (id : Text)
    {r : Registration} (hr : ∀ t ∈ r.cleanup, t.Quiet)
    (hruns : Runs [.task (.stop id), .install id r] g l g' l') :
    g'.Quiet ∧ l'.displaced = l.displaced := by
  cases hruns with
  | step hstep hrest =>
    cases hstep with
    | step =>
      obtain ⟨hquieter, hmore, -⟩ := hg.step (l := l) (w := .task (.stop id)) trivial
      have hid : (g.step (.task (.stop id))).2.active.find? id = none := by
        simp only [Registry.step]
        cases hfind : g.active.find? id with
        | none => exact hfind
        | some r' => rw [Table.find?_erase, if_pos rfl]
      exact (QuietWork.append hmore (.install hr hid)).runs hquieter.quiet hrest

theorem Registry.Quiet.call {g' : Registry} {l' : Ledger} (hg : g.Quiet) {c : Call} (hc : c.Quiet)
    (hruns : Runs (g.start c).1 (g.start c).2 l g' l') :
    g'.Quiet ∧ l'.displaced = l.displaced := by
  cases c with
  | register id cleanup =>
    have hg' : { g with nextToken := g.nextToken + 1 }.Quiet := hg
    exact hg'.register id (r := ⟨g.nextToken, cleanup⟩) hc hruns
  | stop id => exact (QuietWork.cons (w := .task (.stop id)) trivial .nil).runs hg hruns
  | stopAll => exact (QuietWork.cons (w := .task .stopAll) trivial .nil).runs hg hruns

/-- If cleanups make nothing active themselves, every animation is active or has been stopped once. -/
theorem finishedOnce_of_quiet {calls : List Call} (h : Reached calls g l)
    (hcalls : ∀ c ∈ calls, c.Quiet) : FinishedOnce g l := by
  have hquiet : g.Quiet ∧ l.displaced = [] := by
    induction h with
    | new => exact ⟨(fun _ _ hr => nomatch hr), rfl⟩
    | call _ c hruns ih =>
      obtain ⟨hquiet, hnone⟩ := ih fun c hc => hcalls c (List.mem_append_left _ hc)
      obtain ⟨hcall, hdisplaced⟩ := hquiet.call (hcalls c (by simp)) hruns
      exact ⟨hcall, hdisplaced.trans hnone⟩
  exact h.balanced.finishedOnce_iff.mpr hquiet.2

/-- An animation whose cleanup makes another one active under its own id, and then a third one under
this id. -/
def reentry : List Call :=
  [.register "x".toList [.register "x".toList []], .register "x".toList []]

/-- The animation that a cleanup makes active under the id that its own is being replaced under is
lost. -/
theorem not_finishedOnce_of_reentry : ¬FinishedOnce (afterCalls reentry).1 (afterCalls reentry).2 :=
  fun h => absurd ((balanced_afterCalls reentry).finishedOnce_iff.mp h) (by
    have hsome : (afterCalls reentry).2.displaced.isEmpty = false := by decide +kernel
    exact fun hnone => by rw [hnone] at hsome; cases hsome)

end Animation

end VirtualTerminal
