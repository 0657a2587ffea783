import VirtualTerminal.Proofs.Chain.Expression
import VirtualTerminal.Proofs.Executor

/-!
# The segments that a line runs

A line runs as a chain, as a pipeline or as a single command. In each case it comes down to a list
of segments that ran (`Executor.segmentsRun`): each starts where the one before was taken note of
(`proceeds_segmentsRun`), each is taken note of once (`recording_runLine`), and the lines of the
output are theirs (`lines_runLine`). What holds of the outputs of commands and of reports why a command
has not run holds of the outputs of all segments (`Answers.segmentsRun`).
-/

namespace VirtualTerminal.Executor

variable {σ : Type u} (x : Executor σ)

/-- The segments that running a line runs; a line that is no chain is one segment. -/
def segmentsRun (line : Text) (s : σ) : List (RanSegment σ) :=
  if Chain.isPresent line then (Chain.evaluate x (Chain.segments line) s).ran
  else [⟨line, s, (x.runLine line s).1⟩]

/-- Segments run one after the other, each from the state that taking note of the one before has
left. -/
inductive Proceeds : σ → List (RanSegment σ) → σ → Prop where
  | nil (s : σ) : Proceeds s [] s
  | cons {command : Text} {s t : σ} {output : Output} {ran : List (RanSegment σ)}
      (rest : Proceeds (x.finished (x.runSegment command s).2 output) ran t) :
      Proceeds s (⟨command, s, output⟩ :: ran) t

variable {x}

theorem Runs.proceeds {s t : σ} {ran : List (RanSegment σ)} (h : x.Runs s ran t) :
    x.Proceeds s ran t := by
  induction h with
  | nil => exact .nil _
  | cons segment _ ih =>
    refine .cons ?_
    rw [segment]
    exact ih

theorem runLine_of_not_chain {line : Text} (h : ¬ Chain.isPresent line = true) (s : σ) :
    x.runLine line s = ((x.runUnchained line s).1,
      x.finished (x.runUnchained line s).2 (x.runUnchained line s).1) :=
  if_neg h

variable (x)

theorem proceeds_segmentsRun (line : Text) (s : σ) :
    x.Proceeds s (x.segmentsRun line s) (x.runLine line s).2 := by
  unfold segmentsRun
  by_cases hchain : Chain.isPresent line = true
  · rw [if_pos hchain, runLine, if_pos hchain, runChain_eq_output_evaluate]
    exact (Chain.runs_evaluate _ s).proceeds
  · rw [if_neg hchain, runLine_of_not_chain hchain, state_runUnchained]
    exact .cons (.nil _)

theorem lines_runLine (line : Text) (s : σ) :
    (x.runLine line s).1.lines = (x.segmentsRun line s).flatMap (·.output.lines) := by
  unfold segmentsRun
  by_cases hchain : Chain.isPresent line = true
  · rw [if_pos hchain, runLine, if_pos hchain, runChain_eq_output_evaluate]
    exact List.flatMap_map ..
  · rw [if_neg hchain]
    exact (List.append_nil _).symm

/-- A line runs the commands of its segments and takes note of the output of each once, before the
next one starts. -/
theorem recording_runLine (line : Text) (s : σ) :
    x.recording.runLine line (s, []) =
      ((x.runLine line s).1, (x.runLine line s).2, callsOf x (x.segmentsRun line s)) := by
  unfold segmentsRun
  by_cases hchain : Chain.isPresent line = true
  · rw [if_pos hchain, runLine, runLine, if_pos hchain, if_pos hchain, runChain_recording,
      runChain_eq_output_evaluate]
  · have hrun := noting_runUnchained (x := x) (fun r => .run r.invocation)
      (fun output => [Call.finished output]) line s []
    rw [← recording_eq_noting] at hrun
    rw [if_neg hchain, runLine_of_not_chain hchain, runLine_of_not_chain hchain, hrun]
    simp [recording, callsOf, invocationsOf_eq]

/-! ## Outputs -/

/-- Whether in states with a property that is kept, commands answer with outputs of a kind, to which the
outputs belong that report why no command has run. -/
structure Answers (x : Executor σ) (P : σ → Prop) (Q : Output → Prop) : Prop where
  keeps : x.Keeps P
  run : ∀ {s i output}, P s → (x.run s i).1 = .ok output → Q output
  error : ∀ message, Q (.error message)
  nothing : Q .nothing

namespace Answers

variable {x} {P : σ → Prop} {Q : Output → Prop} {s t : σ} {ran : List (RanCommand σ)}
  {output : Output}

theorem command (hx : x.Answers P Q) (hs : P s) {report : Text → Error → Text} {line : Text}
    (h : x.CommandRun report line s ran output t) : Q output := by
  cases h with
  | blank => exact hx.nothing
  | refused => exact hx.error _
  | unknown => exact hx.error _
  | failed => exact hx.error _
  | done _ _ _ run => exact hx.run hs (congrArg Prod.fst run)

theorem pipeline (hx : x.Answers P Q) (hs : P s) {carried : Text} {stages : List Text}
    (h : x.PipelineRun carried stages s ran output t) : Q output := by
  induction h with
  | nil => exact hx.nothing
  | refused => exact hx.error _
  | unknown => exact hx.error _
  | failed => exact hx.error _
  | last _ _ _ run => exact hx.run hs (congrArg Prod.fst run)
  | @next _ _ _ _ s t _ i _ _ _ _ _ _ run _ ih =>
    have ht := hx.keeps.run s i hs
    rw [run] at ht
    exact ih ht

theorem segment (hx : x.Answers P Q) (hs : P s) (command : Text) : Q (x.runSegment command s).1 := by
  cases segmentRun_commandsOf (x := x) command s with
  | pipeline _ run => exact hx.pipeline hs run
  | command _ run => exact hx.command hs run

theorem unchained (hx : x.Answers P Q) (hs : P s) (line : Text) : Q (x.runUnchained line s).1 := by
  unfold runUnchained
  split
  · obtain ⟨ran, run⟩ := exists_pipelineRun (x := x) [] (Pipe.stages line) s
    exact hx.pipeline hs run
  · obtain ⟨ran, run⟩ := exists_commandRun (x := x)
      (fun name e => "error executing ".toList ++ name ++ ": ".toList ++ e.message) line s
    exact hx.command hs run

theorem runs (hx : x.Answers P Q) (hs : P s) {ran : List (RanSegment σ)} (h : x.Runs s ran t) :
    ∀ r ∈ ran, Q r.output := by
  induction h with
  | nil => exact List.forall_mem_nil _
  | @cons command s t u output ran segment _ ih =>
    have hsegment := hx.segment hs command
    have ht := hx.keeps.runSegment command hs
    rw [segment] at hsegment ht
    exact List.forall_mem_cons.mpr ⟨hsegment, ih (hx.keeps.finished _ _ ht)⟩

/-- All segments of a line answer alike. -/
theorem segmentsRun (hx : x.Answers P Q) (hs : P s) (line : Text) :
    ∀ r ∈ x.segmentsRun line s, Q r.output := by
  unfold Executor.segmentsRun
  by_cases hchain : Chain.isPresent line = true
  · rw [if_pos hchain]
    exact hx.runs hs (Chain.runs_evaluate _ s)
  · rw [if_neg hchain, runLine_of_not_chain hchain]
    exact List.forall_mem_singleton.mpr (hx.unchained hs line)

end Answers

end VirtualTerminal.Executor
