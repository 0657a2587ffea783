import Mathlib.Data.List.Nodup
import Mathlib.Data.List.Range
import Mathlib.Tactic.Common
import VirtualTerminal.Proofs.Timer.Queue

/-!
# Histories of queues

A history lists what happens to a queue from the moment it is empty, each moment with the queue
right before and right after it. Whatever the order of the operations, a timer fires at the time at
which it is due, the firings are in order over the whole history, and every timer is accounted for:
it is pending, or it has been fired, cancelled or cleared once (`Path.chronicle`).
-/

namespace VirtualTerminal.Queue

variable {α : Type u}

/-! ## Events -/

/-- What happens to a queue. -/
inductive Event (α : Type u) where
  | scheduled (t : Timer α)
  /-- The timer with a number is cancelled; the timers that this drops. -/
  | cancelled (seq : Nat) (answer : Bool) (dropped : List (Timer α))
  | cleared (dropped : List (Timer α))
  | fired (t : Timer α)
  /-- A move of the clock to `target` is over. -/
  | arrived (target : Nat)

/-- The queue after an event. -/
inductive Transition : Queue α → Event α → Queue α → Prop where
  | schedule (q : Queue α) (delay : Nat) (task : α) :
    Transition q (.scheduled (q.nextTimer delay task)) (q.schedule delay task)
  | cancel (q : Queue α) (seq : Nat) :
    Transition q (.cancelled seq (q.isPending seq) (q.pending.filter (·.seq == seq)))
      (q.cancel seq)
  | clear (q : Queue α) : Transition q (.cleared q.pending) q.clear
  | fire {q q' : Queue α} {target : Nat} {t : Timer α} (hpop : q.pop? target = some (t, q')) :
    Transition q (.fired t) q'
  | arrive {q : Queue α} {target : Nat} (hpop : q.pop? target = none) :
    Transition q (.arrived target) (q.settle target)

/-- An event with the queue right before and right after it. -/
structure Moment (α : Type u) where
  before : Queue α
  event : Event α
  after : Queue α

/-- The moments that lead from one queue to another. -/
inductive Path : Queue α → List (Moment α) → Queue α → Prop where
  | nil (q : Queue α) : Path q [] q
  | cons {q q₁ q' : Queue α} {e : Event α} {rest : List (Moment α)} (ht : Transition q e q₁)
    (hp : Path q₁ rest q') : Path q (⟨q, e, q₁⟩ :: rest) q'

theorem Path.append {q q₁ q' : Queue α} {xs ys : List (Moment α)} (hx : Path q xs q₁)
    (hy : Path q₁ ys q') : Path q (xs ++ ys) q' := by
  induction hx with
  | nil => exact hy
  | cons ht _ ih => exact .cons ht (ih hy)

theorem Path.single {q q' : Queue α} {e : Event α} (ht : Transition q e q') :
    Path q [⟨q, e, q'⟩] q' :=
  .cons ht (.nil q')

/-- A path to a moment, the moment, and the path after it. -/
theorem Path.split {q q' : Queue α} {xs ys : List (Moment α)} {m : Moment α}
    (hp : Path q (xs ++ m :: ys) q') :
    Path q xs m.before ∧ Transition m.before m.event m.after ∧ Path m.after ys q' := by
  induction xs generalizing q with
  | nil =>
    cases hp with
    | cons ht hp => exact ⟨.nil _, ht, hp⟩
  | cons x xs ih =>
    cases hp with
    | cons ht hp =>
      obtain ⟨hbefore, hmoment, hafter⟩ := ih hp
      exact ⟨.cons ht hbefore, hmoment, hafter⟩

theorem Transition.valid {q q' : Queue α} {e : Event α} (ht : Transition q e q') (h : q.Valid) :
    q'.Valid := by
  cases ht with
  | schedule delay task => exact h.schedule delay task
  | cancel seq => exact h.cancel seq
  | clear => exact h.clear
  | fire hpop => exact h.pop? hpop
  | arrive hpop => exact h.settle hpop

theorem Valid.path {q q' : Queue α} {xs : List (Moment α)} (h : q.Valid) (hp : Path q xs q') :
    q'.Valid := by
  induction hp with
  | nil => exact h
  | cons ht _ ih => exact ih (ht.valid h)

/-! ## Fates -/

/-- What has become of a timer. -/
inductive Fate where
  | pending
  | fired
  | cancelled
  | cleared
  deriving DecidableEq

/-- All fates. -/
def Fate.all : List Fate :=
  [.pending, .fired, .cancelled, .cleared]

theorem Fate.mem_all (fate : Fate) : fate ∈ Fate.all := by
  cases fate <;> decide

/-- The timer that an event adds, if any. -/
def Event.begins : Event α → List (Timer α)
  | .scheduled t => [t]
  | _ => []

/-- The timers that meet a fate in an event. -/
def Event.ends : Event α → Fate → List (Timer α)
  | .fired t, .fired => [t]
  | .cancelled _ _ dropped, .cancelled => dropped
  | .cleared dropped, .cleared => dropped
  | _, _ => []

/-- All timers scheduled in a history. -/
def scheduled (history : List (Moment α)) : List (Timer α) :=
  history.flatMap (·.event.begins)

/-- The timers that have met a fate in a history. -/
def ended (history : List (Moment α)) (fate : Fate) : List (Timer α) :=
  history.flatMap (·.event.ends fate)

/-- The timers with a fate after a history that leads to the queue `q`. -/
def withFate (history : List (Moment α)) (q : Queue α) : Fate → List (Timer α)
  | .pending => q.pending
  | fate => ended history fate

/-- Whether every timer scheduled has exactly one fate and has met it once. -/
structure Accounted (history : List (Moment α)) (q : Queue α) : Prop where
  numbers : (scheduled history).map (·.seq) = List.range q.nextSeq
  one_fate : ∀ t ∈ scheduled history, ∃! fate, t ∈ withFate history q fate
  once : ∀ fate, ((withFate history q fate).map (·.seq)).Nodup
  mem_scheduled : ∀ fate, ∀ t ∈ withFate history q fate, t ∈ scheduled history

@[simp] theorem scheduled_nil : scheduled ([] : List (Moment α)) = [] := rfl

@[simp] theorem ended_nil (fate : Fate) : ended ([] : List (Moment α)) fate = [] := rfl

theorem scheduled_snoc (history : List (Moment α)) (m : Moment α) :
    scheduled (history ++ [m]) = scheduled history ++ m.event.begins := by
  simp [scheduled]

theorem ended_snoc (history : List (Moment α)) (m : Moment α) (fate : Fate) :
    ended (history ++ [m]) fate = ended history fate ++ m.event.ends fate := by
  simp [ended]

theorem withFate_all (history : List (Moment α)) (q : Queue α) :
    Fate.all.flatMap (withFate history q) =
      q.pending ++ (ended history .fired ++ (ended history .cancelled ++ ended history .cleared)) := by
  simp [Fate.all, withFate]

/-! ## The ledger -/

/-- What holds after every history: the fates share out the timers scheduled, and the timers fired
are in order and go before all pending ones. -/
structure Ledger (history : List (Moment α)) (q : Queue α) : Prop where
  valid : q.Valid
  numbers : (scheduled history).map (·.seq) = List.range q.nextSeq
  shared_out : (Fate.all.flatMap (withFate history q)).Perm (scheduled history)
  in_order : (ended history .fired).Pairwise fun a b => fires a b = true
  due_le_now : ∀ t ∈ ended history .fired, t.due ≤ q.now
  fires_pending : ∀ t ∈ ended history .fired, ∀ u ∈ q.pending, fires t u = true

theorem Ledger.empty : Ledger [] ({} : Queue α) where
  valid := valid_empty
  numbers := rfl
  shared_out := by simp [withFate_all]
  in_order := List.Pairwise.nil
  due_le_now := by simp
  fires_pending := by simp

theorem Ledger.mem_scheduled_iff {history : List (Moment α)} {q : Queue α} (h : Ledger history q)
    {t : Timer α} : t ∈ scheduled history ↔ ∃ fate, t ∈ withFate history q fate := by
  rw [← h.shared_out.mem_iff, List.mem_flatMap]
  constructor
  · rintro ⟨fate, -, ht⟩
    exact ⟨fate, ht⟩
  · rintro ⟨fate, ht⟩
    exact ⟨fate, fate.mem_all, ht⟩

theorem Ledger.seq_lt {history : List (Moment α)} {q : Queue α} (h : Ledger history q)
    {t : Timer α} (ht : t ∈ scheduled history) : t.seq < q.nextSeq := by
  have hmem : t.seq ∈ (scheduled history).map (·.seq) := List.mem_map_of_mem ht
  rw [h.numbers] at hmem
  exact List.mem_range.mp hmem

theorem Ledger.accounted {history : List (Moment α)} {q : Queue α} (h : Ledger history q) :
    Accounted history q := by
  have hseqs : ((Fate.all.flatMap (withFate history q)).map (·.seq)).Nodup := by
    rw [(h.shared_out.map _).nodup_iff, h.numbers]
    exact List.nodup_range
  have hapart := (List.nodup_flatMap.mp hseqs.of_map).2
  have : Std.Symm (Function.onFun List.Disjoint (withFate history q)) := ⟨fun _ _ hd => List.disjoint_symm hd⟩
  refine ⟨h.numbers, fun t ht => ?_, fun fate => ?_, fun fate t ht => ?_⟩
  · obtain ⟨fate, hfate⟩ := h.mem_scheduled_iff.mp ht
    refine ⟨fate, hfate, fun other hother => ?_⟩
    by_contra hne
    have hdisjoint : List.Disjoint (withFate history q other) (withFate history q fate) :=
      hapart.forall other.mem_all fate.mem_all hne
    exact hdisjoint hother hfate
  · rw [List.map_flatMap] at hseqs
    exact (List.nodup_flatMap.mp hseqs).1 fate fate.mem_all
  · exact h.mem_scheduled_iff.mpr ⟨fate, ht⟩

/-! ## One step -/

section Step

variable {history : List (Moment α)} {q q' : Queue α} {e : Event α}

/-- A moment that only moves timers about keeps the fates sharing out the timers. -/
theorem Ledger.shared_out_snoc (h : Ledger history q)
    (hperm : (q'.pending ++ (e.ends .fired ++ (e.ends .cancelled ++ e.ends .cleared))).Perm
      (e.begins ++ q.pending)) :
    (Fate.all.flatMap (withFate (history ++ [⟨q, e, q'⟩]) q')).Perm
      (scheduled (history ++ [⟨q, e, q'⟩])) := by
  classical
  rw [List.perm_iff_count]
  intro t
  have hbefore := h.shared_out.count_eq t
  have hmoved := hperm.count_eq t
  rw [withFate_all] at hbefore ⊢
  simp only [scheduled_snoc, ended_snoc, List.count_append] at hbefore hmoved ⊢
  omega

/-- A moment at which nothing is scheduled or fired keeps the ledger. -/
theorem Ledger.drop (h : Ledger history q) (hvalid : q'.Valid) (hnext : q'.nextSeq = q.nextSeq)
    (hnow : q.now ≤ q'.now) (hbegins : e.begins = []) (hfired : e.ends .fired = [])
    (hperm : (q'.pending ++ (e.ends .cancelled ++ e.ends .cleared)).Perm q.pending) :
    Ledger (history ++ [⟨q, e, q'⟩]) q' := by
  have hended : ended (history ++ [⟨q, e, q'⟩]) .fired = ended history .fired := by
    rw [ended_snoc, hfired, List.append_nil]
  refine ⟨hvalid, ?_, ?_, ?_, ?_, ?_⟩
  · rw [scheduled_snoc, hbegins, List.append_nil, hnext]
    exact h.numbers
  · refine h.shared_out_snoc ?_
    rw [hbegins, hfired]
    exact hperm
  · rw [hended]
    exact h.in_order
  · intro t ht
    rw [hended] at ht
    exact Nat.le_trans (h.due_le_now t ht) hnow
  · intro t ht u hu
    rw [hended] at ht
    exact h.fires_pending t ht u (hperm.subset (List.mem_append_left _ hu))

theorem Ledger.schedule (h : Ledger history q) (delay : Nat) (task : α) :
    Ledger (history ++ [⟨q, .scheduled (q.nextTimer delay task), q.schedule delay task⟩])
      (q.schedule delay task) := by
  have hended : ended (history ++ [⟨q, .scheduled (q.nextTimer delay task),
      q.schedule delay task⟩]) .fired = ended history .fired := by
    exact (ended_snoc ..).trans (List.append_nil _)
  refine ⟨h.valid.schedule delay task, ?_, ?_, ?_, ?_, ?_⟩
  · rw [scheduled_snoc, List.map_append, h.numbers]
    exact List.range_succ.symm
  · refine h.shared_out_snoc ?_
    simp only [Event.ends, Event.begins, List.append_nil]
    exact place_perm _ _
  · rw [hended]
    exact h.in_order
  · intro t ht
    rw [hended] at ht
    exact h.due_le_now t ht
  · intro t ht u hu
    rw [hended] at ht
    rcases mem_schedule.mp hu with rfl | hu
    · -- the new timer is not due before now, and no timer has had its number
      have hdue := h.due_le_now t ht
      have hnow := h.valid.now_le_nextTimer delay task
      have hseq : t.seq < q.nextSeq := h.seq_lt (h.mem_scheduled_iff.mpr ⟨.fired, ht⟩)
      have hnew : (q.nextTimer delay task).seq = q.nextSeq := rfl
      rw [fires_iff]
      omega
    · exact h.fires_pending t ht u hu

theorem Ledger.fire (h : Ledger history q) {target : Nat} {t : Timer α}
    (hpop : q.pop? target = some (t, q')) : Ledger (history ++ [⟨q, .fired t, q'⟩]) q' := by
  obtain ⟨-, hpending, -, hnext⟩ := pop?_eq_some_iff.mp hpop
  have hnow := h.valid.pop?_now hpop
  have hmem : t ∈ q.pending := by rw [hpending]; exact List.mem_cons_self
  have hlast : ∀ u ∈ ended history .fired, fires u t = true :=
    fun u hu => h.fires_pending u hu t hmem
  have hended : ended (history ++ [⟨q, .fired t, q'⟩]) .fired = ended history .fired ++ [t] :=
    ended_snoc ..
  refine ⟨h.valid.pop? hpop, ?_, ?_, ?_, ?_, ?_⟩
  · rw [scheduled_snoc, hnext]
    exact (congrArg _ (List.append_nil _)).trans h.numbers
  · refine h.shared_out_snoc ?_
    simp only [Event.ends, Event.begins, List.append_nil, List.nil_append, hpending]
    exact List.perm_append_singleton _ _
  · rw [hended, List.pairwise_append]
    refine ⟨h.in_order, List.pairwise_singleton .., fun u hu v hv => ?_⟩
    rw [List.mem_singleton.mp hv]
    exact hlast u hu
  · intro u hu
    rw [hended, List.mem_append, List.mem_singleton] at hu
    rw [hnow]
    rcases hu with hu | rfl
    · exact due_le_of_fires (hlast u hu)
    · exact Nat.le_refl _
  · intro u hu v hv
    have htv := h.valid.fires_of_pop? hpop v hv
    rw [hended, List.mem_append, List.mem_singleton] at hu
    rcases hu with hu | rfl
    · exact fires_trans (hlast u hu) htv
    · exact htv

/-- Every moment keeps the ledger. -/
theorem Ledger.step (h : Ledger history q) (ht : Transition q e q') :
    Ledger (history ++ [⟨q, e, q'⟩]) q' := by
  cases ht with
  | schedule delay task => exact h.schedule delay task
  | cancel seq =>
    refine h.drop (h.valid.cancel seq) rfl (Nat.le_refl _) rfl rfl ?_
    simp only [Event.ends, List.append_nil]
    exact List.perm_append_comm.trans (List.filter_append_perm (·.seq == seq) q.pending)
  | clear => exact h.drop h.valid.clear rfl (Nat.le_refl _) rfl rfl (List.Perm.refl _)
  | fire hpop => exact h.fire hpop
  | arrive hpop =>
    refine h.drop (h.valid.settle hpop) rfl (Nat.le_max_left _ _) rfl rfl ?_
    simp only [Event.ends, List.append_nil]
    exact List.Perm.refl _

end Step

/-- A history keeps the ledger. -/
theorem Ledger.run {history xs : List (Moment α)} {q q' : Queue α} (h : Ledger history q)
    (hp : Path q xs q') : Ledger (history ++ xs) q' := by
  induction hp generalizing history with
  | nil => rwa [List.append_nil]
  | cons ht _ ih =>
    rw [List.append_cons]
    exact ih (h.step ht)

/-! ## Chronicles -/

theorem Transition.now_le {q q' : Queue α} {e : Event α} (ht : Transition q e q') :
    q.now ≤ q'.now := by
  cases ht with
  | schedule => exact Nat.le_refl _
  | cancel => exact Nat.le_refl _
  | clear => exact Nat.le_refl _
  | fire hpop =>
    obtain ⟨-, -, hnow, -⟩ := pop?_eq_some_iff.mp hpop
    rw [hnow]
    exact Nat.le_max_left _ _
  | arrive => exact Nat.le_max_left _ _

theorem Path.now_le {q q' : Queue α} {xs : List (Moment α)} (hp : Path q xs q') :
    q.now ≤ q'.now := by
  induction hp with
  | nil => exact Nat.le_refl _
  | cons ht _ ih => exact Nat.le_trans ht.now_le ih

theorem Path.now_le_of_mem {q q' : Queue α} {xs : List (Moment α)} (hp : Path q xs q') :
    ∀ m ∈ xs, q.now ≤ m.after.now := by
  intro m hm
  obtain ⟨xs₁, xs₂, rfl⟩ := List.append_of_mem hm
  obtain ⟨hbefore, ht, -⟩ := hp.split
  exact Nat.le_trans hbefore.now_le ht.now_le

theorem Path.clock {q q' : Queue α} {xs : List (Moment α)} (hp : Path q xs q') :
    (xs.map (·.after.now)).Pairwise (· ≤ ·) := by
  induction hp with
  | nil => exact List.Pairwise.nil
  | cons ht hp ih =>
    refine List.pairwise_cons.mpr ⟨fun n hn => ?_, ih⟩
    obtain ⟨m, hm, rfl⟩ := List.mem_map.mp hn
    exact hp.now_le_of_mem m hm

/-- What the moments of a queue's life have in common. -/
structure Chronicle (history : List (Moment α)) : Prop where
  /-- A timer fires when it is due. -/
  on_time : ∀ m ∈ history, ∀ t, m.event = .fired t → m.after.now = t.due
  /-- The firings are in order, from the first to the last. -/
  in_order : (ended history .fired).Pairwise fun a b =>
    a.due < b.due ∨ a.due = b.due ∧ a.seq < b.seq
  clock : (history.map (·.after.now)).Pairwise (· ≤ ·)
  not_overdue : ∀ m ∈ history, ∀ t ∈ m.after.pending, m.after.now ≤ t.due
  accounted_before : ∀ xs m ys, history = xs ++ m :: ys → Accounted xs m.before
  accounted_after : ∀ xs m ys, history = xs ++ m :: ys → Accounted (xs ++ [m]) m.after
  /-- The answer to cancelling is whether the timer is pending. -/
  answer : ∀ m ∈ history, ∀ seq answer dropped, m.event = .cancelled seq answer dropped →
    (answer = true ↔ ∃ t ∈ m.before.pending, t.seq = seq)
  /-- No timer is left that a move of the clock has come to. -/
  arrived : ∀ m ∈ history, ∀ target, m.event = .arrived target →
    ∀ t ∈ m.after.pending, target < t.due

theorem isPending_iff {q : Queue α} {seq : Nat} :
    q.isPending seq = true ↔ ∃ t ∈ q.pending, t.seq = seq := by
  simp [isPending]

/-- Every history of a queue that starts empty is a chronicle. -/
theorem Path.chronicle {history : List (Moment α)} {q : Queue α} (hp : Path {} history q) :
    Chronicle history := by
  have hledger : ∀ xs m ys, history = xs ++ m :: ys →
      Ledger xs m.before ∧ Transition m.before m.event m.after := by
    rintro xs m ys rfl
    obtain ⟨hbefore, ht, -⟩ := hp.split
    exact ⟨Ledger.empty.run hbefore, ht⟩
  have hmem : ∀ m ∈ history, m.before.Valid ∧ m.after.Valid ∧
      Transition m.before m.event m.after := by
    intro m hm
    obtain ⟨xs, ys, hsplit⟩ := List.append_of_mem hm
    obtain ⟨hbefore, ht⟩ := hledger xs m ys hsplit
    exact ⟨hbefore.valid, (hbefore.step ht).valid, ht⟩
  refine ⟨?_, ?_, hp.clock, fun m hm => (hmem m hm).2.1.not_overdue, ?_, ?_, ?_, ?_⟩
  · rintro ⟨before, e, after⟩ hm t rfl
    obtain ⟨hvalid, -, ht⟩ := hmem _ hm
    cases ht with
    | fire hpop => exact hvalid.pop?_now hpop
  · have hend : Ledger history q := Ledger.empty.run hp
    exact hend.in_order.imp fires_iff.mp
  · intro xs m ys hsplit
    exact (hledger xs m ys hsplit).1.accounted
  · intro xs m ys hsplit
    obtain ⟨hbefore, ht⟩ := hledger xs m ys hsplit
    exact (hbefore.step ht).accounted
  · rintro ⟨before, e, after⟩ hm seq answer dropped rfl
    have ht : Transition before (.cancelled seq answer dropped) after := (hmem _ hm).2.2
    cases ht with
    | cancel => exact isPending_iff
  · rintro ⟨before, e, after⟩ hm target rfl
    have hvalid : before.Valid := (hmem _ hm).1
    have ht : Transition before (.arrived target) after := (hmem _ hm).2.2
    cases ht with
    | arrive hpop => exact hvalid.lt_due_of_pop?_eq_none hpop

end VirtualTerminal.Queue
