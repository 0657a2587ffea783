import VirtualTerminal.Executor

/-!
# The commands that a segment runs

A segment of a line runs some commands, one after the other. `CommandRun` and `PipelineRun` tell all
that running a command without operators and a pipeline can come to; `Executor.commandsOf` is the
list of the commands that were run, read off an executor that keeps a record of them. Whatever else
is recorded about a segment is a function of this list (`noting_runSegment`).
-/

namespace VirtualTerminal

/-- A command that was run: the state that it started from, what it was asked for and what it came
to. -/
structure RanCommand (σ : Type u) where
  before : σ
  invocation : Invocation
  result : Except Error Output

namespace Executor

variable {σ : Type u} {ν : Type v} (x : Executor σ)

/-- Commands run one after the other: each starts from the state that the one before has left. -/
inductive Trace : σ → List (RanCommand σ) → σ → Prop where
  | nil (s : σ) : Trace s [] s
  | cons {s t u : σ} {i : Invocation} {result : Except Error Output} {ran : List (RanCommand σ)}
      (run : x.run s i = (result, t)) (rest : Trace t ran u) : Trace s (⟨s, i, result⟩ :: ran) u

/-- What running the command of a line can come to: the commands run, the output and the state in
the end. -/
inductive CommandRun (report : Text → Error → Text) (line : Text) (s : σ) :
    List (RanCommand σ) → Output → σ → Prop where
  | blank (empty : (x.parse s line).isEmpty = true) : CommandRun report line s [] .nothing s
  | refused {reason : Text} (present : (x.parse s line).isEmpty = false)
      (refusal : (x.parse s line).refusal? = some reason) :
      CommandRun report line s [] (.error reason) s
  | unknown (present : (x.parse s line).isEmpty = false)
      (accepted : (x.parse s line).refusal? = none)
      (unregistered : x.isRegistered s (x.parse s line).command = false) :
      CommandRun report line s [] (unknownCommand (x.parse s line).command) s
  | failed {e : Error} {t : σ} (present : (x.parse s line).isEmpty = false)
      (accepted : (x.parse s line).refusal? = none)
      (registered : x.isRegistered s (x.parse s line).command = true)
      (run : x.run s (x.parse s line) = (.error e, t)) :
      CommandRun report line s [⟨s, x.parse s line, .error e⟩]
        (.error (report (x.parse s line).command e)) t
  | done {output : Output} {t : σ} (present : (x.parse s line).isEmpty = false)
      (accepted : (x.parse s line).refusal? = none)
      (registered : x.isRegistered s (x.parse s line).command = true)
      (run : x.run s (x.parse s line) = (.ok output, t)) :
      CommandRun report line s [⟨s, x.parse s line, .ok output⟩] output t

/-- What running the stages of a pipeline can come to, the text `carried` going into the first: the
commands run, the output and the state in the end. -/
inductive PipelineRun : (carried : Text) → List Text → σ → List (RanCommand σ) → Output → σ →
    Prop where
  | nil (carried : Text) (s : σ) : PipelineRun carried [] s [] .nothing s
  | refused {carried stage reason : Text} {rest : List Text} {s : σ} {i : Invocation}
      (parse : x.parse s (stageLine stage carried) = i) (refusal : i.refusal? = some reason) :
      PipelineRun carried (stage :: rest) s [] (.error reason) s
  | unknown {carried stage : Text} {rest : List Text} {s : σ} {i : Invocation}
      (parse : x.parse s (stageLine stage carried) = i) (accepted : i.refusal? = none)
      (unregistered : x.isRegistered s i.command = false) :
      PipelineRun carried (stage :: rest) s []
        (.error ("pipe: ".toList ++ i.command ++ ": command not found".toList)) s
  | failed {carried stage : Text} {rest : List Text} {s t : σ} {i : Invocation} {e : Error}
      (parse : x.parse s (stageLine stage carried) = i) (accepted : i.refusal? = none)
      (registered : x.isRegistered s i.command = true) (run : x.run s i = (.error e, t)) :
      PipelineRun carried (stage :: rest) s [⟨s, i, .error e⟩]
        (.error ("pipe: error executing ".toList ++ i.command)) t
  | last {carried stage : Text} {s t : σ} {i : Invocation} {output : Output}
      (parse : x.parse s (stageLine stage carried) = i) (accepted : i.refusal? = none)
      (registered : x.isRegistered s i.command = true) (run : x.run s i = (.ok output, t)) :
      PipelineRun carried [stage] s [⟨s, i, .ok output⟩] output t
  | next {carried stage following : Text} {rest : List Text} {s t u : σ} {i : Invocation}
      {first output : Output} {ran : List (RanCommand σ)}
      (parse : x.parse s (stageLine stage carried) = i) (accepted : i.refusal? = none)
      (registered : x.isRegistered s i.command = true) (run : x.run s i = (.ok first, t))
      (tail : PipelineRun (Line.joinTexts first.lines) (following :: rest) t ran output u) :
      PipelineRun carried (stage :: following :: rest) s (⟨s, i, .ok first⟩ :: ran) output u

/-- What running a segment can come to: the commands run, the output and the state in the end. -/
inductive SegmentRun (segment : Text) (s : σ) (ran : List (RanCommand σ)) (output : Output)
    (t : σ) : Prop where
  | pipeline (present : Pipe.isPresent segment = true)
      (run : x.PipelineRun [] (Pipe.stages segment) s ran output t)
  | command (absent : Pipe.isPresent segment = false)
      (run : x.CommandRun (fun name _ => "chain: error executing ".toList ++ name) segment s ran
        output t)

/-- An executor that also keeps a record, with an entry for every command that it runs and entries
for every output that it takes note of. -/
def noting (onRun : RanCommand σ → ν) (onFinished : Output → List ν) : Executor (σ × List ν) where
  parse s := x.parse s.1
  isRegistered s := x.isRegistered s.1
  run s i := ((x.run s.1 i).1, (x.run s.1 i).2, s.2 ++ [onRun ⟨s.1, i, (x.run s.1 i).1⟩])
  finished s output := (x.finished s.1 output, s.2 ++ onFinished output)

/-- An executor that also keeps a record of the commands that it runs. -/
def watching : Executor (σ × List (RanCommand σ)) :=
  x.noting id fun _ => []

/-- The commands that a segment runs. -/
def commandsOf (segment : Text) (s : σ) : List (RanCommand σ) :=
  (x.watching.runSegment segment (s, [])).2.2

/-- Runs a line that is no chain. -/
def runUnchained (line : Text) (s : σ) : Output × σ :=
  if Pipe.isPresent line then x.runPipe (Pipe.stages line) s else x.runSingle line s

variable {x}

theorem run_noting {s t : σ} {i : Invocation} {result : Except Error Output}
    (run : x.run s i = (result, t)) (onRun : RanCommand σ → ν) (onFinished : Output → List ν)
    (log : List ν) :
    (x.noting onRun onFinished).run (s, log) i = (result, t, log ++ [onRun ⟨s, i, result⟩]) := by
  simp only [noting, run]

/-! ## Single commands -/

section Command

variable {report : Text → Error → Text} {line : Text} {s t : σ} {output : Output}
  {ran : List (RanCommand σ)}

theorem exists_commandRun (report : Text → Error → Text) (line : Text) (s : σ) :
    ∃ ran, x.CommandRun report line s ran (x.runCommand report line s).1
      (x.runCommand report line s).2 := by
  unfold runCommand
  dsimp only
  split
  next empty => exact ⟨_, .blank empty⟩
  next present =>
    have present := Bool.eq_false_iff.mpr present
    split
    next refusal => exact ⟨_, .refused present refusal⟩
    next accepted =>
      split
      next unregistered =>
        exact ⟨_, .unknown present accepted ((Bool.not_eq_true' _).mp unregistered)⟩
      next registered =>
        have registered := (Bool.not_eq_false' ..).mp (Bool.eq_false_iff.mpr registered)
        split
        next run => exact ⟨_, .done present accepted registered run⟩
        next run => exact ⟨_, .failed present accepted registered run⟩

theorem CommandRun.trace (h : x.CommandRun report line s ran output t) : x.Trace s ran t := by
  cases h with
  | blank => exact .nil s
  | refused => exact .nil s
  | unknown => exact .nil s
  | failed _ _ _ run => exact .cons run (.nil t)
  | done _ _ _ run => exact .cons run (.nil t)

theorem CommandRun.eq (h : x.CommandRun report line s ran output t) :
    x.runCommand report line s = (output, t) := by
  unfold runCommand
  cases h with
  | blank empty => simp [empty]
  | refused present refusal => simp [present, refusal]
  | unknown present accepted unregistered => simp [present, accepted, unregistered]
  | failed present accepted registered run => simp [present, accepted, registered, run]
  | done present accepted registered run => simp [present, accepted, registered, run]

theorem CommandRun.noting (h : x.CommandRun report line s ran output t) (onRun : RanCommand σ → ν)
    (onFinished : Output → List ν) (log : List ν) :
    (x.noting onRun onFinished).runCommand report line (s, log) =
      (output, t, log ++ ran.map onRun) := by
  have hparse : (x.noting onRun onFinished).parse (s, log) = x.parse s := rfl
  have hregistered : (x.noting onRun onFinished).isRegistered (s, log) = x.isRegistered s := rfl
  unfold runCommand
  rw [hparse, hregistered]
  cases h with
  | blank empty => simp [empty]
  | refused present refusal => simp [present, refusal]
  | unknown present accepted unregistered => simp [present, accepted, unregistered]
  | failed present accepted registered run =>
    simp [present, accepted, registered, run_noting run]
  | done present accepted registered run =>
    simp [present, accepted, registered, run_noting run]

/-- How errors are worded makes no difference to what is run. -/
theorem CommandRun.reword (h : x.CommandRun report line s ran output t)
    (report' : Text → Error → Text) : ∃ output', x.CommandRun report' line s ran output' t := by
  cases h with
  | blank empty => exact ⟨_, .blank empty⟩
  | refused present refusal => exact ⟨_, .refused present refusal⟩
  | unknown present accepted unregistered => exact ⟨_, .unknown present accepted unregistered⟩
  | failed present accepted registered run => exact ⟨_, .failed present accepted registered run⟩
  | done present accepted registered run => exact ⟨_, .done present accepted registered run⟩

end Command

/-! ## Pipelines -/

section Pipeline

variable {carried : Text} {stages : List Text} {s t : σ} {output : Output}
  {ran : List (RanCommand σ)}

theorem exists_pipelineRun (carried : Text) (stages : List Text) (s : σ) :
    ∃ ran, x.PipelineRun carried stages s ran (x.runStages carried stages s).1
      (x.runStages carried stages s).2 := by
  induction stages generalizing carried s with
  | nil => exact ⟨_, .nil carried s⟩
  | cons stage rest ih =>
    unfold runStages
    dsimp only
    split
    next refusal => exact ⟨_, .refused rfl refusal⟩
    next accepted =>
      split
      next unregistered => exact ⟨_, .unknown rfl accepted ((Bool.not_eq_true' _).mp unregistered)⟩
      next registered =>
        have registered := (Bool.not_eq_false' ..).mp (Bool.eq_false_iff.mpr registered)
        split
        next run => exact ⟨_, .failed rfl accepted registered run⟩
        next first t run =>
          cases rest with
          | nil => exact ⟨_, .last rfl accepted registered run⟩
          | cons following rest =>
            obtain ⟨ran, tail⟩ := ih (Line.joinTexts first.lines) t
            exact ⟨_, .next rfl accepted registered run tail⟩

theorem PipelineRun.trace (h : x.PipelineRun carried stages s ran output t) : x.Trace s ran t := by
  induction h with
  | nil => exact .nil _
  | refused => exact .nil _
  | unknown => exact .nil _
  | failed _ _ _ run => exact .cons run (.nil _)
  | last _ _ _ run => exact .cons run (.nil _)
  | next _ _ _ run _ ih => exact .cons run ih

theorem PipelineRun.noting (h : x.PipelineRun carried stages s ran output t)
    (onRun : RanCommand σ → ν) (onFinished : Output → List ν) (log : List ν) :
    (x.noting onRun onFinished).runStages carried stages (s, log) =
      (output, t, log ++ ran.map onRun) := by
  have hparse : ∀ s log, (x.noting onRun onFinished).parse (s, log) = x.parse s := fun _ _ => rfl
  have hregistered : ∀ s log, (x.noting onRun onFinished).isRegistered (s, log) = x.isRegistered s :=
    fun _ _ => rfl
  induction h generalizing log with
  | nil => simp [runStages]
  | refused parse refusal => simp [runStages, hparse, parse, refusal]
  | unknown parse accepted unregistered =>
    simp [runStages, hparse, hregistered, parse, accepted, unregistered]
  | failed parse accepted registered run =>
    simp [runStages, hparse, hregistered, parse, accepted, registered, run_noting run]
  | last parse accepted registered run =>
    simp [runStages, hparse, hregistered, parse, accepted, registered, run_noting run]
  | next parse accepted registered run _ ih =>
    rw [runStages]
    simp [hparse, hregistered, parse, accepted, registered, run_noting run, ih]

end Pipeline

/-! ## Segments -/

section Segment

variable {segment : Text} {s t : σ} {output : Output} {ran : List (RanCommand σ)}

theorem exists_segmentRun (segment : Text) (s : σ) :
    ∃ ran, x.SegmentRun segment s ran (x.runSegment segment s).1 (x.runSegment segment s).2 := by
  unfold runSegment
  split
  next present =>
    obtain ⟨ran, run⟩ := exists_pipelineRun (x := x) [] (Pipe.stages segment) s
    exact ⟨ran, .pipeline present run⟩
  next absent =>
    obtain ⟨ran, run⟩ := exists_commandRun (x := x)
      (fun name _ => "chain: error executing ".toList ++ name) segment s
    exact ⟨ran, .command (Bool.eq_false_iff.mpr absent) run⟩

theorem SegmentRun.trace (h : x.SegmentRun segment s ran output t) : x.Trace s ran t := by
  cases h with
  | pipeline _ run => exact run.trace
  | command _ run => exact run.trace

theorem SegmentRun.noting (h : x.SegmentRun segment s ran output t) (onRun : RanCommand σ → ν)
    (onFinished : Output → List ν) (log : List ν) :
    (x.noting onRun onFinished).runSegment segment (s, log) =
      (output, t, log ++ ran.map onRun) := by
  unfold runSegment
  cases h with
  | pipeline present run =>
    rw [if_pos present]
    exact run.noting onRun onFinished log
  | command absent run =>
    rw [if_neg (Bool.eq_false_iff.mp absent)]
    exact run.noting onRun onFinished log

theorem segmentRun_commandsOf (segment : Text) (s : σ) :
    x.SegmentRun segment s (x.commandsOf segment s) (x.runSegment segment s).1
      (x.runSegment segment s).2 := by
  obtain ⟨ran, h⟩ := x.exists_segmentRun segment s
  have hran : x.commandsOf segment s = ran := by
    unfold commandsOf watching
    rw [h.noting, List.map_id, List.nil_append]
  rwa [hran]

/-- The commands of a segment lead from its state to the state in the end. -/
theorem trace_commandsOf (segment : Text) (s : σ) :
    x.Trace s (x.commandsOf segment s) (x.runSegment segment s).2 :=
  (segmentRun_commandsOf segment s).trace

/-- A record of a segment holds the entries of the commands that it runs. -/
theorem noting_runSegment (onRun : RanCommand σ → ν) (onFinished : Output → List ν)
    (segment : Text) (s : σ) (log : List ν) :
    (x.noting onRun onFinished).runSegment segment (s, log) =
      ((x.runSegment segment s).1, (x.runSegment segment s).2,
        log ++ (x.commandsOf segment s).map onRun) :=
  (segmentRun_commandsOf segment s).noting onRun onFinished log

theorem SegmentRun.eq (h : x.SegmentRun segment s ran output t) :
    x.runSegment segment s = (output, t) ∧ x.commandsOf segment s = ran := by
  have hwatching := (h.noting id (fun _ => []) []).symm.trans
    (noting_runSegment id (fun _ => []) segment s [])
  simp only [List.map_id, List.nil_append, Prod.mk.injEq] at hwatching
  exact ⟨Prod.ext hwatching.1.symm hwatching.2.1.symm, hwatching.2.2.symm⟩

/-- How errors are worded makes no difference to what a segment that is no pipeline runs. -/
theorem commandRun_commandsOf (report : Text → Error → Text) (absent : Pipe.isPresent segment = false)
    (s : σ) : x.CommandRun report segment s (x.commandsOf segment s)
      (x.runCommand report segment s).1 (x.runSegment segment s).2 := by
  obtain ⟨ran, h⟩ := exists_commandRun (x := x) report segment s
  obtain ⟨output, hreworded⟩ := h.reword fun name _ => "chain: error executing ".toList ++ name
  obtain ⟨hrun, hran⟩ := (SegmentRun.command absent hreworded).eq
  rw [hrun, hran]
  exact h

/-- A line that is no chain runs as a segment does, but for the wording of errors. -/
theorem state_runUnchained (line : Text) (s : σ) :
    (x.runUnchained line s).2 = (x.runSegment line s).2 := by
  unfold runUnchained
  by_cases hpipe : Pipe.isPresent line = true
  · rw [if_pos hpipe, runSegment, if_pos hpipe]
  · rw [if_neg hpipe]
    have hrun : x.runSingle line s = ((x.runSingle line s).1, (x.runSegment line s).2) :=
      (commandRun_commandsOf _ (Bool.eq_false_iff.mpr hpipe) s).eq
    exact (Prod.ext_iff.mp hrun).2

theorem noting_runUnchained (onRun : RanCommand σ → ν) (onFinished : Output → List ν)
    (line : Text) (s : σ) (log : List ν) :
    (x.noting onRun onFinished).runUnchained line (s, log) =
      ((x.runUnchained line s).1, (x.runUnchained line s).2,
        log ++ (x.commandsOf line s).map onRun) := by
  rw [state_runUnchained]
  unfold runUnchained
  by_cases hpipe : Pipe.isPresent line = true
  · have hrun := noting_runSegment (x := x) onRun onFinished line s log
    unfold runSegment at hrun ⊢
    simp only [if_pos hpipe] at hrun ⊢
    exact hrun
  · rw [if_neg hpipe, if_neg hpipe]
    exact (commandRun_commandsOf _ (Bool.eq_false_iff.mpr hpipe) s).noting onRun onFinished log

end Segment

end Executor

end VirtualTerminal
