import VirtualTerminal.Proofs.Animation.Active

/-!
# Ids and tokens of a registry

What a registry does makes animations active only under ids that it uses: those of active animations,
and those that cleanups name (`UsesOnly`). And it does the same whatever tokens the animations have:
registries that are alike up to tokens handed out after some time stay so (`Alike.run`).
-/

namespace VirtualTerminal

namespace Table

variable {α : Type u} {β : Type v}

theorem find?_map (f : α → β) (t : Table α) (k : Text) : (t.map f).find? k = (t.find? k).map f := by
  have hlookup : ∀ entries : List (Text × α),
      lookup k (entries.map fun e => (e.1, f e.2)) = (lookup k entries).map f := by
    intro entries
    induction entries with
    | nil => rfl
    | cons e rest ih =>
      obtain ⟨j, a⟩ := e
      simp only [List.map_cons, lookup, ih]
      split <;> rfl
  exact hlookup t.entries

theorem map_insert (f : α → β) (t : Table α) (k : Text) (a : α) :
    (t.insert k a).map f = (t.map f).insert k (f a) := by
  refine ext_find? fun j => ?_
  rw [find?_map, find?_insert, find?_insert, find?_map]
  split <;> rfl

theorem map_erase (f : α → β) (t : Table α) (k : Text) : (t.erase k).map f = (t.map f).erase k := by
  refine ext_find? fun j => ?_
  rw [find?_map, find?_erase, find?_erase, find?_map]
  split <;> rfl

theorem erase_of_absent {t : Table α} {k : Text} (h : t.find? k = none) : t.erase k = t := by
  refine ext_find? fun j => ?_
  rw [find?_erase]
  split
  next heq => rw [heq, h]
  · rfl

theorem keys_map (f : α → β) (t : Table α) : (t.map f).keys = t.keys :=
  List.map_map

theorem values_map (f : α → β) (t : Table α) : (t.map f).values = t.values.map f := by
  unfold values map
  rw [List.map_map, List.map_map]
  rfl

end Table

namespace Animation

/-! ## Ids -/

mutual

/-- The ids under which a task makes animations active, now or in a cleanup. -/
def Task.registers : Task → List Text
  | .register id cleanup => id :: registersAll cleanup
  | _ => []

/-- The ids under which tasks make animations active. -/
def registersAll : List Task → List Text
  | [] => []
  | t :: rest => t.registers ++ registersAll rest

end

/-- The ids under which work makes animations active. -/
def Work.registers : Work → List Text
  | .task t => t.registers
  | .finish r => registersAll r.cleanup
  | .install id r => id :: registersAll r.cleanup

theorem mem_registersAll {ts : List Task} {id : Text} :
    id ∈ registersAll ts ↔ ∃ t ∈ ts, id ∈ t.registers := by
  induction ts with
  | nil => simp [registersAll]
  | cons t rest ih => simp [registersAll, ih]

namespace Registry

variable {P : Text → Prop} {g : Registry}

/-- Whether all ids have a property under which animations are active or cleanups make some active. -/
def UsesOnly (P : Text → Prop) (g : Registry) : Prop :=
  ∀ id r, g.active.find? id = some r → P id ∧ ∀ i ∈ registersAll r.cleanup, P i

theorem UsesOnly.mono {Q : Text → Prop} (h : g.UsesOnly P) (hPQ : ∀ id, P id → Q id) : g.UsesOnly Q :=
  fun id r hr => ⟨hPQ id (h id r hr).1, fun i hi => hPQ i ((h id r hr).2 i hi)⟩

/-- A step of work brings in no ids but those that it names. -/
theorem UsesOnly.step (h : g.UsesOnly P) {w : Work} (hw : ∀ id ∈ w.registers, P id) :
    (g.step w).2.UsesOnly P ∧ ∀ w' ∈ (g.step w).1, ∀ id ∈ w'.registers, P id := by
  cases w with
  | task t =>
    cases t with
    | note label => exact ⟨h, List.forall_mem_nil _⟩
    | stop id =>
      simp only [Registry.step]
      cases hfind : g.active.find? id with
      | none => exact ⟨h, List.forall_mem_nil _⟩
      | some r =>
        refine ⟨fun id' r' hr' => ?_, List.forall_mem_singleton.mpr (h id r hfind).2⟩
        rw [Table.find?_erase] at hr'
        split at hr'
        · cases hr'
        · exact h id' r' hr'
    | stopAll =>
      refine ⟨fun _ r hr => (Option.some_ne_none r hr.symm).elim, fun w' hw' => ?_⟩
      obtain ⟨e, he, rfl⟩ := List.mem_map.mp hw'
      exact (h e.1 e.2 ((Table.find?_eq_some_iff ..).mpr he)).2
    | register id cleanup =>
      exact ⟨h, List.forall_mem_cons.mpr ⟨List.forall_mem_nil _, List.forall_mem_singleton.mpr hw⟩⟩
  | finish r =>
    refine ⟨h, fun w' hw' i hi => ?_⟩
    obtain ⟨t, ht, rfl⟩ := List.mem_map.mp hw'
    exact hw i (mem_registersAll.mpr ⟨t, ht, hi⟩)
  | install id r =>
    refine ⟨fun id' r' hr' => ?_, List.forall_mem_nil _⟩
    have hr' : (g.active.insert id r).find? id' = some r' := hr'
    obtain ⟨hid, hcleanup⟩ := List.forall_mem_cons.mp hw
    rw [Table.find?_insert] at hr'
    split at hr'
    next heq =>
      cases hr'
      exact ⟨heq ▸ hid, hcleanup⟩
    · exact h id' r' hr'

theorem UsesOnly.runFuel (h : g.UsesOnly P) {work : List Work}
    (hw : ∀ w ∈ work, ∀ id ∈ w.registers, P id) (fuel : Nat) : (runFuel fuel work g).UsesOnly P := by
  induction fuel generalizing work g with
  | zero => exact h
  | succ fuel ih =>
    cases work with
    | nil => exact h
    | cons w rest =>
      obtain ⟨hstep, hmore⟩ := h.step (hw w List.mem_cons_self)
      rw [runFuel_succ]
      exact ih hstep (List.forall_mem_append.mpr ⟨hmore, (List.forall_mem_cons.mp hw).2⟩)

theorem UsesOnly.run (h : g.UsesOnly P) {work : List Work}
    (hw : ∀ w ∈ work, ∀ id ∈ w.registers, P id) : (g.run work).UsesOnly P :=
  h.runFuel hw _

theorem UsesOnly.stop (h : g.UsesOnly P) (id : Text) : (g.stop id).UsesOnly P :=
  h.run (List.forall_mem_singleton.mpr (List.forall_mem_nil _))

theorem UsesOnly.stopAll (h : g.UsesOnly P) : g.stopAll.UsesOnly P :=
  h.run (List.forall_mem_singleton.mpr (List.forall_mem_nil _))

/-- An animation that becomes active brings in its own id, if its cleanup does nothing. -/
theorem UsesOnly.register (h : g.UsesOnly P) {id : Text} (hid : P id) (token : Nat) :
    (g.register id token []).UsesOnly P :=
  h.run (List.forall_mem_cons.mpr ⟨List.forall_mem_nil _,
    List.forall_mem_singleton.mpr (List.forall_mem_singleton.mpr hid)⟩)

/-- No animation is active under an id that is not used. -/
theorem UsesOnly.find?_eq_none (h : g.UsesOnly P) {id : Text} (hid : ¬ P id) :
    g.active.find? id = none :=
  Option.eq_none_iff_forall_ne_some.mpr fun r hr => hid (h id r hr).1

end Registry

/-! ## Tokens -/

/-- A registration with its token if that is known, where the known tokens are those below a number. -/
def Registration.upTo (known : Nat) (r : Registration) : Registration :=
  { r with token := min r.token known }

/-- Whether two pieces of work are the same, up to tokens that are not known. -/
inductive Work.Alike (known : Nat) : Work → Work → Prop where
  | task (t : Task) : Alike known (.task t) (.task t)
  | finish {r r' : Registration} (h : r.upTo known = r'.upTo known) :
    Alike known (.finish r) (.finish r')
  | install (id : Text) {r r' : Registration} (h : r.upTo known = r'.upTo known) :
    Alike known (.install id r) (.install id r')

section Alike

variable {known : Nat} {r r' : Registration}

theorem Registration.cleanup_eq_of_upTo_eq (h : r.upTo known = r'.upTo known) :
    r.cleanup = r'.cleanup := by
  have hcleanup : (r.upTo known).cleanup = (r'.upTo known).cleanup := by rw [h]
  exact hcleanup

theorem Registration.token_eq_iff_of_upTo_eq (h : r.upTo known = r'.upTo known) {token : Nat}
    (htoken : token < known) : token = r.token ↔ token = r'.token := by
  have hmin : min r.token known = min r'.token known := congrArg Registration.token h
  omega

theorem Work.Alike.weight {w w' : Work} (h : w.Alike known w') : w.weight = w'.weight := by
  cases h with
  | task t => rfl
  | finish h => exact congrArg (fun ts => 1 + weightAll ts) (Registration.cleanup_eq_of_upTo_eq h)
  | install id h => exact congrArg (fun ts => 3 + weightAll ts) (Registration.cleanup_eq_of_upTo_eq h)

theorem forall₂_alike_tasks (known : Nat) (ts : List Task) :
    List.Forall₂ (Work.Alike known) (ts.map .task) (ts.map .task) :=
  List.forall₂_same.mpr fun w hw => by
    obtain ⟨t, -, rfl⟩ := List.mem_map.mp hw
    exact .task t

namespace Registry

/-- Whether two registries are the same for those who know only some tokens, but for the notes. -/
structure Alike (known : Nat) (g g' : Registry) : Prop where
  active : g.active.map (·.upTo known) = g'.active.map (·.upTo known)
  cancelled : ∀ token < known, token ∈ g.cancelled ↔ token ∈ g'.cancelled
  known_le : known ≤ g.nextToken
  known_le' : known ≤ g'.nextToken

variable {g g' : Registry}

theorem Alike.ids (h : g.Alike known g') : g.ids = g'.ids := by
  have hkeys := congrArg Table.keys h.active
  rwa [Table.keys_map, Table.keys_map] at hkeys

theorem Alike.values (h : g.Alike known g') :
    g.active.values.map (·.upTo known) = g'.active.values.map (·.upTo known) := by
  rw [← Table.values_map, ← Table.values_map, h.active]

theorem Alike.find? (h : g.Alike known g') (id : Text) :
    (g.active.find? id).map (·.upTo known) = (g'.active.find? id).map (·.upTo known) := by
  rw [← Table.find?_map, ← Table.find?_map, h.active]

theorem Alike.weight (h : g.Alike known g') : g.weight = g'.weight := by
  have hweight : ∀ g : Registry, g.weight =
      ((g.active.values.map (·.upTo known)).map fun r => 2 + weightAll r.cleanup).sum := fun g => by
    rw [g.weight_eq_sum, List.map_map]
    rfl
  rw [hweight, hweight, h.values]

/-- The same step leaves the same to be done. -/
theorem Alike.step (hg : g.Alike known g') {w w' : Work} (hw : w.Alike known w') :
    List.Forall₂ (Work.Alike known) (g.step w).1 (g'.step w').1 ∧
      (g.step w).2.Alike known (g'.step w').2 := by
  cases hw with
  | task t =>
    cases t with
    | note label => exact ⟨.nil, hg.active, hg.cancelled, hg.known_le, hg.known_le'⟩
    | stop id =>
      have hfind := hg.find? id
      simp only [Registry.step]
      cases hr : g.active.find? id with
      | none =>
        rw [hr, Option.map_none] at hfind
        rw [Option.map_eq_none_iff.mp hfind.symm]
        exact ⟨.nil, hg⟩
      | some r =>
        rw [hr, Option.map_some] at hfind
        obtain ⟨r', hr', heq⟩ := Option.map_eq_some_iff.mp hfind.symm
        rw [hr']
        refine ⟨.cons (.finish heq.symm) .nil, ?_, hg.cancelled, hg.known_le, hg.known_le'⟩
        rw [Table.map_erase, Table.map_erase, hg.active]
    | stopAll =>
      rw [step_stopAll, step_stopAll]
      refine ⟨?_, rfl, hg.cancelled, hg.known_le, hg.known_le'⟩
      refine List.forall₂_map_left_iff.mpr (List.forall₂_map_right_iff.mpr ?_)
      have hvalues : List.Forall₂ Eq (g.active.values.map (·.upTo known))
          (g'.active.values.map (·.upTo known)) := by
        rw [hg.values]
        exact List.forall₂_same.mpr fun _ _ => rfl
      refine (List.forall₂_map_left_iff.mp (List.forall₂_map_right_iff.mp hvalues)).imp ?_
      exact fun _ _ heq => .finish heq
    | register id cleanup =>
      refine ⟨.cons (.task _) (.cons (.install id ?_) .nil), hg.active, hg.cancelled,
        Nat.le_succ_of_le hg.known_le, Nat.le_succ_of_le hg.known_le'⟩
      -- neither token is known
      show Registration.mk _ _ = Registration.mk _ _
      rw [Nat.min_eq_right hg.known_le, Nat.min_eq_right hg.known_le']
  | @finish r r' heq =>
    refine ⟨?_, hg.active, fun token htoken => ?_, hg.known_le, hg.known_le'⟩
    · show List.Forall₂ _ (r.cleanup.map Work.task) (r'.cleanup.map Work.task)
      rw [Registration.cleanup_eq_of_upTo_eq heq]
      exact forall₂_alike_tasks known _
    · show token ∈ r.token :: g.cancelled ↔ token ∈ r'.token :: g'.cancelled
      rw [List.mem_cons, List.mem_cons, Registration.token_eq_iff_of_upTo_eq heq htoken,
        hg.cancelled token htoken]
  | @install id r r' heq =>
    refine ⟨.nil, ?_, hg.cancelled, hg.known_le, hg.known_le'⟩
    show (g.active.insert id r).map _ = (g'.active.insert id r').map _
    rw [Table.map_insert, Table.map_insert, hg.active, heq]

theorem Alike.runFuel (hg : g.Alike known g') {work work' : List Work}
    (hwork : List.Forall₂ (Work.Alike known) work work') (fuel : Nat) :
    (runFuel fuel work g).Alike known (runFuel fuel work' g') := by
  induction fuel generalizing work work' g g' with
  | zero => exact hg
  | succ fuel ih =>
    cases hwork with
    | nil => exact hg
    | cons hw hrest =>
      obtain ⟨hmore, hstep⟩ := hg.step hw
      exact ih hstep (List.rel_append hmore hrest)

/-- The same work leaves registries alike that were alike before. -/
theorem Alike.run (hg : g.Alike known g') {work work' : List Work}
    (hwork : List.Forall₂ (Work.Alike known) work work') :
    (g.run work).Alike known (g'.run work') := by
  have hfuel : work.foldr (fun w n => w.weight + n) (g.weight + 1) =
      work'.foldr (fun w n => w.weight + n) (g'.weight + 1) := by
    rw [hg.weight]
    induction hwork with
    | nil => rfl
    | cons hw _ ih => rw [List.foldr_cons, List.foldr_cons, hw.weight, ih]
  unfold Registry.run
  rw [hfuel]
  exact hg.runFuel hwork _

theorem Alike.stop (hg : g.Alike known g') (id : Text) : (g.stop id).Alike known (g'.stop id) :=
  hg.run (.cons (.task _) .nil)

end Registry

end Alike

end Animation

end VirtualTerminal
