import Mathlib.Tactic.Common
import VirtualTerminal.Executor

/-!
# What running a line keeps

An executor simulates another one if they parse alike, know the same names, and running a command and
taking note of an output leave their states related; then lines give the same outputs and leave the
states related (`Simulates.runLine`). A line changes the state of an executor only by running commands
and by taking note of outputs, so a property that both of these keep is kept by every line
(`Keeps.runLine`).
-/

namespace VirtualTerminal.Executor

variable {σ : Type u} {τ : Type v}

/-! ## Simulation -/

/-- Whether two results are the same and the states after them related. -/
def Agree {α : Type w} (R : σ → τ → Prop) (p : α × σ) (q : α × τ) : Prop :=
  p.1 = q.1 ∧ R p.2 q.2

/-- Whether two executors cannot be told apart by results, from related states. -/
structure Simulates (x : Executor σ) (y : Executor τ) (R : σ → τ → Prop) : Prop where
  parse : ∀ {s t}, R s t → x.parse s = y.parse t
  isRegistered : ∀ {s t}, R s t → x.isRegistered s = y.isRegistered t
  run : ∀ {s t} i, R s t → Agree R (x.run s i) (y.run t i)
  finished : ∀ {s t} output, R s t → R (x.finished s output) (y.finished t output)

namespace Simulates

variable {x : Executor σ} {y : Executor τ} {R : σ → τ → Prop} {s : σ} {t : τ}

theorem runCommand (h : x.Simulates y R) (report : Text → Error → Text) (line : Text)
    (hst : R s t) : Agree R (x.runCommand report line s) (y.runCommand report line t) := by
  have hrun := h.run (y.parse t line) hst
  unfold Executor.runCommand
  rw [h.parse hst, h.isRegistered hst]
  dsimp only
  split
  · exact ⟨rfl, hst⟩
  · split
    · exact ⟨rfl, hst⟩
    · split
      · exact ⟨rfl, hst⟩
      · cases hx : x.run s (y.parse t line) with
        | mk result s' =>
          cases hy : y.run t (y.parse t line) with
          | mk result' t' =>
            rw [hx, hy] at hrun
            obtain ⟨rfl, hst'⟩ : result = result' ∧ R s' t' := hrun
            cases result with
            | ok output => exact ⟨rfl, hst'⟩
            | error e => exact ⟨rfl, hst'⟩

theorem runStages (h : x.Simulates y R) (stages : List Text) (carried : Text) (hst : R s t) :
    Agree R (x.runStages carried stages s) (y.runStages carried stages t) := by
  induction stages generalizing carried s t with
  | nil => exact ⟨rfl, hst⟩
  | cons stage rest ih =>
    have hrun := h.run (y.parse t (stageLine stage carried)) hst
    unfold Executor.runStages
    rw [h.parse hst, h.isRegistered hst]
    dsimp only
    split
    · exact ⟨rfl, hst⟩
    · split
      · exact ⟨rfl, hst⟩
      · cases hx : x.run s (y.parse t (stageLine stage carried)) with
        | mk result s' =>
          cases hy : y.run t (y.parse t (stageLine stage carried)) with
          | mk result' t' =>
            rw [hx, hy] at hrun
            obtain ⟨rfl, hst'⟩ : result = result' ∧ R s' t' := hrun
            cases result with
            | error e => exact ⟨rfl, hst'⟩
            | ok output =>
              cases rest with
              | nil => exact ⟨rfl, hst'⟩
              | cons next rest => exact ih _ hst'

theorem runSegment (h : x.Simulates y R) (segment : Text) (hst : R s t) :
    Agree R (x.runSegment segment s) (y.runSegment segment t) := by
  unfold Executor.runSegment
  split
  · exact h.runStages _ _ hst
  · exact h.runCommand _ _ hst

theorem runSegments (h : x.Simulates y R) (segments : List Segment) (gate : ChainOperator)
    (succeeded : Bool) (hst : R s t) :
    let p := x.runSegments gate succeeded segments s
    let q := y.runSegments gate succeeded segments t
    p.1 = q.1 ∧ p.2.1 = q.2.1 ∧ R p.2.2 q.2.2 := by
  induction segments generalizing gate succeeded s t with
  | nil => exact ⟨rfl, rfl, hst⟩
  | cons segment rest ih =>
    obtain ⟨houtput, hsegment⟩ := h.runSegment segment.command hst
    unfold Executor.runSegments
    dsimp only
    split
    · rw [houtput]
      obtain ⟨hlines, hsucceeded, hrest⟩ := ih (segment.operator.getD .andThen)
        (y.runSegment segment.command t).1.isSuccess (h.finished _ hsegment)
      exact ⟨congrArg _ hlines, hsucceeded, hrest⟩
    · exact ih _ _ hst

/-- Executors that simulate each other command by command do so line by line. -/
theorem runLine (h : x.Simulates y R) (line : Text) (hst : R s t) :
    Agree R (x.runLine line s) (y.runLine line t) := by
  unfold Executor.runLine
  split
  · obtain ⟨hlines, hsucceeded, hrest⟩ := h.runSegments (Chain.segments line) .andThen true hst
    unfold Executor.runChain
    dsimp only
    rw [hlines, hsucceeded]
    exact ⟨rfl, hrest⟩
  · have hunchained :
        Agree R (if Pipe.isPresent line then x.runPipe (Pipe.stages line) s else x.runSingle line s)
          (if Pipe.isPresent line then y.runPipe (Pipe.stages line) t else y.runSingle line t) := by
      split
      · exact h.runStages _ _ hst
      · exact h.runCommand _ _ hst
    obtain ⟨houtput, hunchained⟩ := hunchained
    dsimp only
    rw [houtput]
    exact ⟨rfl, h.finished _ hunchained⟩

end Simulates

/-! ## Invariants -/

/-- Whether running a command and taking note of an output keep a property of states. -/
structure Keeps (x : Executor σ) (P : σ → Prop) : Prop where
  run : ∀ s i, P s → P (x.run s i).2
  finished : ∀ s output, P s → P (x.finished s output)

namespace Keeps

variable {x : Executor σ} {P : σ → Prop} {s : σ}

/-- An executor simulates itself from states with a property that it keeps. -/
theorem simulates (hx : x.Keeps P) : x.Simulates x fun s t => s = t ∧ P s where
  parse hst := congrArg _ hst.1
  isRegistered hst := congrArg _ hst.1
  run {s t} i hst := by
    obtain ⟨rfl, hs⟩ := hst
    exact ⟨rfl, rfl, hx.run s i hs⟩
  finished {s t} output hst := by
    obtain ⟨rfl, hs⟩ := hst
    exact ⟨rfl, hx.finished s output hs⟩

theorem runSegment (hx : x.Keeps P) (segment : Text) (hs : P s) : P (x.runSegment segment s).2 :=
  (hx.simulates.runSegment segment ⟨rfl, hs⟩).2.2

/-- What commands and outputs keep, lines keep. -/
theorem runLine (hx : x.Keeps P) (line : Text) (hs : P s) : P (x.runLine line s).2 :=
  (hx.simulates.runLine line ⟨rfl, hs⟩).2.2

end Keeps

end VirtualTerminal.Executor
