import Mathlib.Tactic.Common
import VirtualTerminal.Proofs.Timer.History
import VirtualTerminal.Timer.Script

/-!
# Runs of scripts

The runs of scripts as derivations, with the moments that their queue goes through. Every operation
has exactly one run (`Runs.deterministic`), and `perform` finds it: its fuel never runs out
(`runs_perform`). What holds of all histories of a queue therefore holds of all operations, however
scripts nest (`performEach_chronicle`).
-/

namespace VirtualTerminal.Script

open Queue (Moment)

/-- What a run is of: an operation, the rest of the script of a tag, or a move of the clock. -/
inductive Work (σ : Type u) where
  | op (op : Op σ)
  | script (tag : Text) (ops : List (Op σ))
  | advance (target : Nat)

variable {σ : Type u}

/-- The run of some work: the states before and after it, its reply, and its moments. -/
inductive Runs :
    Work σ → State σ → Reply → List (Moment (Text × List (Op σ))) → State σ → Prop where
  | schedule (tag : Text) (delay : Nat) (script : List (Op σ)) (s : State σ) :
    Runs (.op (.schedule tag delay script)) s
      (.number (s.queue.schedule delay (tag, script)).pending.length)
      [⟨s.queue, .scheduled (s.queue.nextTimer delay (tag, script)),
        s.queue.schedule delay (tag, script)⟩]
      { s with
        queue := s.queue.schedule delay (tag, script)
        seqs := (tag, s.queue.nextSeq) :: s.seqs }
  | cancelUnknown {tag : Text} {s : State σ} (hseq : s.seqs.lookup tag = none) :
    Runs (.op (.cancel tag)) s .nothing [] s
  | cancel {tag : Text} {s : State σ} {seq : Nat} (hseq : s.seqs.lookup tag = some seq) :
    Runs (.op (.cancel tag)) s (.flag (s.queue.isPending seq))
      [⟨s.queue, .cancelled seq (s.queue.isPending seq) (s.queue.pending.filter (·.seq == seq)),
        s.queue.cancel seq⟩]
      { s with queue := s.queue.cancel seq }
  | advanceTo {target : Nat} {s s' : State σ} {reply : Reply} {xs}
      (h : Runs (.advance target) s reply xs s') : Runs (.op (.advanceTo target)) s reply xs s'
  | advanceBy {delta : Nat} {s s' : State σ} {reply : Reply} {xs}
      (h : Runs (.advance (min (s.queue.now + delta) Queue.lastTime)) s reply xs s') :
    Runs (.op (.advanceBy delta)) s reply xs s'
  | clear (s : State σ) :
    Runs (.op .clear) s (.flag true) [⟨s.queue, .cleared s.queue.pending, s.queue.clear⟩]
      { s with queue := s.queue.clear }
  | peek (s : State σ) : Runs (.op .peek) s (.flag s.queue.pending.isEmpty) [] s
  | change (f : σ → σ) (s : State σ) :
    Runs (.op (.change f)) s .nothing [] { s with shared := f s.shared }
  | done (tag : Text) (s : State σ) : Runs (.script tag []) s .nothing [] s
  | next {tag : Text} {op : Op σ} {rest : List (Op σ)} {s s₁ s' : State σ} {reply reply' : Reply}
      {xs ys} (hop : Runs (.op op) s reply xs s₁)
      (hrest : Runs (.script tag rest)
        { s₁ with log := s₁.log ++ [.answered tag op.name reply] } reply' ys s') :
    Runs (.script tag (op :: rest)) s .nothing (xs ++ ys) s'
  | arrive {target : Nat} {s : State σ} (hpop : s.queue.pop? target = none) :
    Runs (.advance target) s (.number 0)
      [⟨s.queue, .arrived target, s.queue.settle target⟩]
      { s with queue := s.queue.settle target }
  | fire {target n : Nat} {s s₁ s' : State σ} {t : Timer (Text × List (Op σ))} {queue : Queue _}
      {reply' : Reply} {xs ys} (hpop : s.queue.pop? target = some (t, queue))
      (hscript : Runs (.script t.task.1 t.task.2)
        { s with queue := queue, log := s.log ++ [.fired t.task.1 queue.now t.seq] } reply' xs s₁)
      (hrest : Runs (.advance target) s₁ (.number n) ys s') :
    Runs (.advance target) s (.number (n + 1)) (⟨s.queue, .fired t, queue⟩ :: (xs ++ ys)) s'

/-- The moments of a run follow each other. -/
theorem Runs.path {w : Work σ} {s s' : State σ} {reply : Reply} {xs}
    (h : Runs w s reply xs s') : Queue.Path s.queue xs s'.queue := by
  induction h with
  | schedule => exact .single (.schedule ..)
  | cancelUnknown => exact .nil _
  | cancel => exact .single (.cancel ..)
  | advanceTo _ ih => exact ih
  | advanceBy _ ih => exact ih
  | clear => exact .single (.clear _)
  | peek => exact .nil _
  | change => exact .nil _
  | done => exact .nil _
  | next _ _ ihop ihrest => exact ihop.append ihrest
  | arrive hpop => exact .single (.arrive hpop)
  | fire hpop _ _ ihscript ihrest => exact .cons (.fire hpop) (ihscript.append ihrest)

/-- Work has one run. -/
theorem Runs.deterministic {w : Work σ} {s s₁ s₂ : State σ} {r₁ r₂ : Reply} {xs ys}
    (h₁ : Runs w s r₁ xs s₁) (h₂ : Runs w s r₂ ys s₂) : r₁ = r₂ ∧ xs = ys ∧ s₁ = s₂ := by
  induction h₁ generalizing r₂ ys s₂ with
  | schedule => cases h₂; exact ⟨rfl, rfl, rfl⟩
  | cancelUnknown hseq =>
    cases h₂ with
    | cancelUnknown => exact ⟨rfl, rfl, rfl⟩
    | cancel hseq' => rw [hseq] at hseq'; cases hseq'
  | cancel hseq =>
    cases h₂ with
    | cancelUnknown hseq' => rw [hseq] at hseq'; cases hseq'
    | cancel hseq' => rw [hseq] at hseq'; cases hseq'; exact ⟨rfl, rfl, rfl⟩
  | advanceTo _ ih => cases h₂ with | advanceTo h => exact ih h
  | advanceBy _ ih => cases h₂ with | advanceBy h => exact ih h
  | clear => cases h₂; exact ⟨rfl, rfl, rfl⟩
  | peek => cases h₂; exact ⟨rfl, rfl, rfl⟩
  | change => cases h₂; exact ⟨rfl, rfl, rfl⟩
  | done => cases h₂; exact ⟨rfl, rfl, rfl⟩
  | next _ _ ihop ihrest =>
    cases h₂ with
    | next hop hrest =>
      obtain ⟨rfl, rfl, rfl⟩ := ihop hop
      obtain ⟨-, rfl, rfl⟩ := ihrest hrest
      exact ⟨rfl, rfl, rfl⟩
  | arrive hpop =>
    cases h₂ with
    | arrive => exact ⟨rfl, rfl, rfl⟩
    | fire hpop' => rw [hpop] at hpop'; cases hpop'
  | fire hpop _ _ ihscript ihrest =>
    cases h₂ with
    | arrive hpop' => rw [hpop] at hpop'; cases hpop'
    | fire hpop' hscript hrest =>
      rw [hpop] at hpop'
      cases hpop'
      obtain ⟨-, rfl, rfl⟩ := ihscript hscript
      obtain ⟨hn, rfl, rfl⟩ := ihrest hrest
      cases hn
      exact ⟨rfl, rfl, rfl⟩

/-! ## Weights -/

/-- The number of operations and firings that timers lead to. -/
def weightOf (ts : List (Timer (Text × List (Op σ)))) : Nat :=
  ts.foldr (fun t n => 1 + weightAll t.task.2 + n) 0

theorem State.weight_eq (s : State σ) : s.weight = weightOf s.queue.pending := rfl

theorem weightOf_cons (t : Timer (Text × List (Op σ))) (ts : List (Timer (Text × List (Op σ)))) :
    weightOf (t :: ts) = 1 + weightAll t.task.2 + weightOf ts := rfl

theorem weightOf_perm {ts us : List (Timer (Text × List (Op σ)))} (h : ts.Perm us) :
    weightOf ts = weightOf us := by
  induction h with
  | nil => rfl
  | cons t _ ih => rw [weightOf_cons, weightOf_cons, ih]
  | swap t u ts =>
    simp only [weightOf_cons]
    omega
  | trans _ _ ih₁ ih₂ => exact ih₁.trans ih₂

theorem weightOf_sublist {ts us : List (Timer (Text × List (Op σ)))} (h : ts.Sublist us) :
    weightOf ts ≤ weightOf us := by
  induction h with
  | slnil => exact Nat.le_refl _
  | cons t _ ih =>
    rw [weightOf_cons]
    omega
  | cons_cons t _ ih =>
    rw [weightOf_cons, weightOf_cons]
    omega

theorem Op.weight_pos (op : Op σ) : 0 < op.weight := by
  cases op <;> simp only [Op.weight] <;> omega

/-- The most weight that work adds to a state. -/
def Work.gain : Work σ → Nat
  | .op o => o.weight - 1
  | .script _ ops => weightAll ops
  | .advance _ => 0

theorem Runs.weight_le {w : Work σ} {s s' : State σ} {reply : Reply} {xs}
    (h : Runs w s reply xs s') : s'.weight ≤ w.gain + s.weight := by
  induction h with
  | schedule tag delay script s =>
    simp only [State.weight_eq, Queue.pending_schedule, Work.gain, Op.weight]
    rw [weightOf_perm (Queue.place_perm _ _), weightOf_cons]
    simp only [Queue.nextTimer]
    omega
  | cancelUnknown => exact Nat.le_add_left _ _
  | cancel =>
    exact Nat.le_trans (weightOf_sublist List.filter_sublist) (Nat.le_add_left _ _)
  | advanceTo _ ih => exact ih
  | advanceBy _ ih => exact Nat.le_trans ih (Nat.le_of_eq rfl)
  | clear => exact Nat.zero_le _
  | peek => exact Nat.le_add_left _ _
  | change => exact Nat.le_add_left _ _
  | done => exact Nat.le_add_left _ _
  | @next tag op rest s s₁ s' _ _ _ _ _ _ ihop ihrest =>
    have hpos := op.weight_pos
    simp only [Work.gain, weightAll, State.weight_eq] at ihop ihrest ⊢
    omega
  | arrive => exact Nat.le_add_left _ _
  | fire hpop _ _ ihscript ihrest =>
    obtain ⟨-, hpending, -⟩ := Queue.pop?_eq_some_iff.mp hpop
    simp only [Work.gain, State.weight_eq] at ihscript ihrest ⊢
    rw [hpending, weightOf_cons]
    omega

/-! ## The interpreter -/

/-- Enough fuel finds the run of an operation, of a script and of a move of the clock. -/
theorem runs_fuel (fuel : Nat) :
    (∀ (op : Op σ) (s : State σ), 2 * (op.weight + s.weight) ≤ fuel →
      ∃ xs, Runs (.op op) s (performFuel fuel op s).1 xs (performFuel fuel op s).2) ∧
    (∀ (tag : Text) (ops : List (Op σ)) (s : State σ),
      2 * (weightAll ops + s.weight) + 1 ≤ fuel →
      ∃ xs, Runs (.script tag ops) s .nothing xs (performAllFuel fuel tag ops s)) ∧
    (∀ (target : Nat) (s : State σ), 2 * s.weight + 1 ≤ fuel →
      ∃ xs, Runs (.advance target) s (.number (advanceFuel fuel target s).1) xs
        (advanceFuel fuel target s).2) := by
  induction fuel with
  | zero =>
    refine ⟨fun op s h => ?_, fun tag ops s h => absurd h (Nat.not_succ_le_zero _),
      fun target s h => absurd h (Nat.not_succ_le_zero _)⟩
    have hpos := op.weight_pos
    omega
  | succ fuel ih =>
    obtain ⟨ihop, ihscript, ihadvance⟩ := ih
    refine ⟨fun op s h => ?_, fun tag ops s h => ?_, fun target s h => ?_⟩
    · cases op with
      | schedule tag delay script => exact ⟨_, .schedule tag delay script s⟩
      | cancel tag =>
        cases hseq : s.seqs.lookup tag with
        | none =>
          simp only [performFuel, hseq]
          exact ⟨_, .cancelUnknown hseq⟩
        | some seq =>
          simp only [performFuel, hseq]
          exact ⟨_, .cancel hseq⟩
      | advanceTo target =>
        obtain ⟨xs, hxs⟩ := ihadvance target s (by simp only [Op.weight] at h; omega)
        exact ⟨xs, .advanceTo hxs⟩
      | advanceBy delta =>
        obtain ⟨xs, hxs⟩ := ihadvance (min (s.queue.now + delta) Queue.lastTime) s
          (by simp only [Op.weight] at h; omega)
        exact ⟨xs, .advanceBy hxs⟩
      | clear => exact ⟨_, .clear s⟩
      | peek => exact ⟨_, .peek s⟩
      | change f => exact ⟨_, .change f s⟩
    · cases ops with
      | nil => exact ⟨_, .done tag s⟩
      | cons op rest =>
        have hpos := op.weight_pos
        simp only [weightAll] at h
        obtain ⟨xs, hxs⟩ := ihop op s (by omega)
        have hle := hxs.weight_le
        simp only [Work.gain] at hle
        obtain ⟨ys, hys⟩ := ihscript tag rest
          { (performFuel fuel op s).2 with
            log := (performFuel fuel op s).2.log ++
              [.answered tag op.name (performFuel fuel op s).1] }
          (by simp only [State.weight_eq] at hle h ⊢; omega)
        exact ⟨xs ++ ys, .next hxs hys⟩
    · unfold advanceFuel
      cases hpop : s.queue.pop? target with
      | none => exact ⟨_, .arrive hpop⟩
      | some r =>
        obtain ⟨t, queue⟩ := r
        obtain ⟨-, hpending, -⟩ := Queue.pop?_eq_some_iff.mp hpop
        simp only [State.weight_eq, hpending, weightOf_cons] at h
        let fired : State σ :=
          { s with queue := queue, log := s.log ++ [.fired t.task.1 queue.now t.seq] }
        have hfired : fired.weight = weightOf queue.pending := rfl
        obtain ⟨xs, hxs⟩ := ihscript t.task.1 t.task.2 fired (by omega)
        have hle := hxs.weight_le
        simp only [Work.gain] at hle
        obtain ⟨ys, hys⟩ := ihadvance target (performAllFuel fuel t.task.1 t.task.2 fired)
          (by omega)
        exact ⟨_, .fire hpop hxs hys⟩

/-- Performing an operation is its run. -/
theorem runs_perform (op : Op σ) (s : State σ) :
    ∃ xs, Runs (.op op) s (perform op s).1 xs (perform op s).2 :=
  (runs_fuel _).1 op s (by omega)

theorem perform_eq_of_runs {op : Op σ} {s s' : State σ} {reply : Reply} {xs}
    (h : Runs (.op op) s reply xs s') : perform op s = (reply, s') := by
  obtain ⟨ys, hys⟩ := runs_perform op s
  obtain ⟨hreply, -, hstate⟩ := hys.deterministic h
  exact Prod.ext hreply hstate

/-! ## Sequences of operations -/

/-- Performs operations one after the other; gives the replies. -/
def performEach : List (Op σ) → State σ → List Reply × State σ
  | [], s => ([], s)
  | op :: rest, s =>
    let (reply, s) := perform op s
    let (replies, s) := performEach rest s
    (reply :: replies, s)

/-- The run of operations one after the other. -/
inductive RunsEach :
    List (Op σ) → State σ → List Reply → List (Moment (Text × List (Op σ))) → State σ → Prop where
  | nil (s : State σ) : RunsEach [] s [] [] s
  | cons {op : Op σ} {rest : List (Op σ)} {s s₁ s' : State σ} {reply : Reply}
      {replies : List Reply} {xs ys} (hop : Runs (.op op) s reply xs s₁)
      (hrest : RunsEach rest s₁ replies ys s') :
    RunsEach (op :: rest) s (reply :: replies) (xs ++ ys) s'

theorem RunsEach.path {ops : List (Op σ)} {s s' : State σ} {replies : List Reply} {xs}
    (h : RunsEach ops s replies xs s') : Queue.Path s.queue xs s'.queue := by
  induction h with
  | nil => exact .nil _
  | cons hop _ ih => exact hop.path.append ih

theorem runsEach_performEach (ops : List (Op σ)) (s : State σ) :
    ∃ xs, RunsEach ops s (performEach ops s).1 xs (performEach ops s).2 := by
  induction ops generalizing s with
  | nil => exact ⟨[], .nil s⟩
  | cons op rest ih =>
    obtain ⟨xs, hxs⟩ := runs_perform op s
    obtain ⟨ys, hys⟩ := ih (perform op s).2
    exact ⟨xs ++ ys, .cons hxs hys⟩

/-- A state that operations on an empty queue lead to has a valid queue. -/
theorem valid_performEach (ops : List (Op σ)) (shared : σ) :
    (performEach ops { shared := shared }).2.queue.Valid := by
  obtain ⟨xs, hxs⟩ := runsEach_performEach ops { shared := shared }
  exact Queue.valid_empty.path hxs.path

theorem Runs.lt_due {target : Nat} {s s' : State σ} {reply : Reply} {xs}
    (h : Runs (.advance target) s reply xs s') (hvalid : s.queue.Valid) :
    ∀ t ∈ s'.queue.pending, target < t.due := by
  generalize hw : Work.advance target = w at h
  induction h with
  | arrive hpop =>
    cases hw
    exact hvalid.lt_due_of_pop?_eq_none hpop
  | fire hpop hscript _ _ ih =>
    cases hw
    exact ih ((hvalid.pop? hpop).path hscript.path) rfl
  | _ => cases hw

/-- Operations, however their scripts nest, lead to a chronicle of the queue, and moving the clock
after them leaves no timer that is due. -/
theorem performEach_chronicle (ops : List (Op σ)) (shared : σ) :
    ∃ history,
      RunsEach ops { shared := shared } (performEach ops { shared := shared }).1 history
        (performEach ops { shared := shared }).2 ∧
      Queue.Path {} history (performEach ops { shared := shared }).2.queue ∧
      Queue.Chronicle history ∧
      ∀ target, ∀ t ∈ (perform (.advanceTo target)
        (performEach ops { shared := shared }).2).2.queue.pending, target < t.due := by
  obtain ⟨history, hruns⟩ := runsEach_performEach ops { shared := shared }
  refine ⟨history, hruns, hruns.path, Queue.Path.chronicle hruns.path, fun target => ?_⟩
  obtain ⟨xs, hxs⟩ := runs_perform (.advanceTo target) (performEach ops { shared := shared }).2
  cases hxs with
  | advanceTo h => exact h.lt_due (valid_performEach ops shared)

end VirtualTerminal.Script
