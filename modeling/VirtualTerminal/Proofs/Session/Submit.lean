import VirtualTerminal.Proofs.Animation.Drawing
import VirtualTerminal.Proofs.Executor
import VirtualTerminal.Proofs.Executor.Segments
import VirtualTerminal.Proofs.Session.Execute

/-!
# What a submitted line writes

Only animations and the session itself write into the transcript: an animation opens a region at its
end, and after each segment the session empties the screen if a command has asked for it and adds
the lines of the segment. So a submitted line adds the prompt and then, for each segment that ran,
its regions and its lines, and of all this only what comes after the last request to clear is left
(`submit_writes`).
-/

namespace VirtualTerminal

open Animation

namespace Session

/-- The sessions that a host can bring about, with any commands. -/
inductive Hosted : Session → Prop where
  | new (config : Config) (commands : CommandTable Body) : Hosted (Session.new config commands)
  | submit {s : Session} (h : Hosted s) (line : Text) : Hosted (s.submit line).2
  | run {s : Session} (h : Hosted s) (line : Text) : Hosted (s.run line).2
  | tick {s : Session} (h : Hosted s) (now : Nat) : Hosted (s.tick now).2
  | reset {s : Session} (h : Hosted s) : Hosted s.reset
  | endTakeover {s : Session} (h : Hosted s) : Hosted s.endTakeover
  /-- The host may stop animations and register others, with cleanups of their own. -/
  | manage {s : Session} (h : Hosted s) (tasks : List Task) :
    Hosted { s with stage := { s.stage with registry := s.stage.registry.run (tasks.map .task) } }
  /-- The host may write into the transcript, but opens no regions. -/
  | rewrite {s : Session} (h : Hosted s) (t : Transcript) (hids : t.ids ⊆ s.transcript.ids) :
    Hosted { s with stage := { s.stage with transcript := t } }
  /-- An animation may at any time do any step, as from a timer of its own. -/
  | perform {s : Session} (h : Hosted s) (animation : Handle) (known : s.stage.Knows animation)
    (step : Step) : Hosted { s with stage := s.stage.perform animation step }

/-- The regions that the command of an invocation opens and keeps. -/
def opened (s : Session) (i : Invocation) : Transcript :=
  match (s.commands.get? i.command).map Command.body with
  | some (.animation name plan) =>
    let (h, stage) := s.stage.launch name.lower
    plan.opened (stage.scene h i)
  | _ => []

end Session

namespace RanSegment

/-- Whether running a segment has left a request to empty the screen. -/
def clears (r : RanSegment Session) : Bool :=
  ((Session.executor true).runSegment r.command r.before).2.shell.clearRequested

/-- The regions that the commands of a segment open and keep. -/
def regions (r : RanSegment Session) : Transcript :=
  ((Session.executor true).commandsOf r.command r.before).flatMap fun c => c.before.opened c.invocation

/-- What a segment adds to the transcript: its regions and then its lines. -/
def entries (r : RanSegment Session) : Transcript :=
  r.regions ++ r.output.lines.map .line

/-- The transcript after a segment. -/
def showAfter (t : Transcript) (r : RanSegment Session) : Transcript :=
  if r.clears then r.output.lines.map .line else t ++ r.entries

theorem foldl_showAfter (t : Transcript) {ran : List (RanSegment Session)}
    (h : ∀ r ∈ ran, r.clears = false) : ran.foldl showAfter t = t ++ ran.flatMap entries := by
  induction ran generalizing t with
  | nil => exact (List.append_nil t).symm
  | cons r ran ih =>
    obtain ⟨hr, hran⟩ := List.forall_mem_cons.mp h
    have hshow : showAfter t r = t ++ r.entries := if_neg (Bool.eq_false_iff.mp hr)
    rw [List.foldl_cons, ih _ hran, hshow, List.flatMap_cons, List.append_assoc]

/-- Nothing is left of what was there before the last segment that clears. -/
theorem foldl_showAfter_of_clears (t : Transcript) (xs : List (RanSegment Session))
    {r : RanSegment Session} {ys : List (RanSegment Session)} (hr : r.clears = true)
    (hys : ∀ q ∈ ys, q.clears = false) :
    (xs ++ r :: ys).foldl showAfter t = r.output.lines.map .line ++ ys.flatMap entries := by
  have hshow : ∀ u, showAfter u r = r.output.lines.map .line := fun _ => if_pos hr
  rw [List.foldl_append, List.foldl_cons, hshow, foldl_showAfter _ hys]

end RanSegment

namespace Session

variable {s : Session}

/-! ## Commands -/

/-- A command adds the regions that it opens and keeps to the transcript, and nothing else. -/
theorem transcript_execute (echo : Bool) (hs : s.stage.Orderly) (i : Invocation) :
    ((executor echo).run s i).2.stage.Orderly ∧
      ((executor echo).run s i).2.transcript = s.transcript ++ s.opened i := by
  unfold opened transcript
  obtain ⟨hget, heq⟩ | ⟨c, f, context, hget, hbody, heq⟩ | ⟨c, name, plan, hget, hbody, heq⟩ :=
    run_cases echo s i
  · rw [hget, heq]
    exact ⟨hs, (List.append_nil _).symm⟩
  · rw [hget, Option.map_some, hbody, heq]
    exact ⟨hs, (List.append_nil _).symm⟩
  · rw [hget, Option.map_some, hbody, heq]
    exact ⟨hs.run plan name i, hs.transcript_run plan name i⟩

theorem transcript_trace {echo : Bool} {t : Session} {ran : List (RanCommand Session)}
    (h : (executor echo).Trace s ran t) (hs : s.stage.Orderly) :
    t.transcript = s.transcript ++ ran.flatMap fun c => c.before.opened c.invocation := by
  induction h with
  | nil => exact (List.append_nil _).symm
  | @cons s t u i result ran run _ ih =>
    obtain ⟨horderly, htranscript⟩ := transcript_execute echo hs i
    rw [run] at horderly htranscript
    rw [ih horderly, htranscript, List.flatMap_cons, List.append_assoc]

/-! ## Segments -/

theorem Orderly.write {stage : Stage} (hs : stage.Orderly) (lines : List Line) :
    Stage.Orderly { stage with transcript := stage.transcript.extend lines } := by
  refine hs.withTranscript ?_
  rw [Transcript.ids_extend]
  exact List.Subset.refl _

theorem keeps_orderly (echo : Bool) : (executor echo).Keeps fun s => s.stage.Orderly where
  run _ i hs := (transcript_execute echo hs i).1
  finished s output hs := stage_finished echo s output (·.clear) (fun _ ls h => Orderly.write h ls) hs

theorem clearRequested_clearIfRequested (s : Session) :
    s.clearIfRequested.shell.clearRequested = false := by
  unfold clearIfRequested
  split
  · rfl
  next h => exact Bool.eq_false_iff.mpr h

theorem clearRequested_finished (echo : Bool) (s : Session) (output : Output) :
    ((executor echo).finished s output).shell.clearRequested = false := by
  cases echo <;> exact s.clearRequested_clearIfRequested

theorem transcript_finished (s : Session) (output : Output) :
    ((executor true).finished s output).transcript =
      if s.shell.clearRequested then output.lines.map .line
      else s.transcript ++ output.lines.map .line := by
  show s.clearIfRequested.stage.transcript.extend output.lines = _
  unfold clearIfRequested
  split
  · rfl
  · rfl

/-! ## Lines -/

theorem clearRequested_proceeds {echo : Bool} {t : Session} {ran : List (RanSegment Session)}
    (h : (executor echo).Proceeds s ran t) (hs : s.shell.clearRequested = false) :
    t.shell.clearRequested = false := by
  induction h with
  | nil => exact hs
  | cons _ ih => exact ih (clearRequested_finished _ _ _)

/-- Segments show their regions and lines one after the other. -/
theorem transcript_proceeds {t : Session} {ran : List (RanSegment Session)}
    (h : (executor true).Proceeds s ran t) (hs : s.stage.Orderly) :
    t.transcript = ran.foldl RanSegment.showAfter s.transcript := by
  induction h with
  | nil => rfl
  | @cons command s t output ran _ ih =>
    have hsegment : ((executor true).runSegment command s).2.stage.Orderly :=
      (keeps_orderly true).runSegment command hs
    have htrace := transcript_trace ((executor true).trace_commandsOf command s) hs
    rw [ih ((keeps_orderly true).finished _ output hsegment), List.foldl_cons, transcript_finished,
      htrace, List.append_assoc]
    rfl

/-! ## Sessions of a host -/

/-- Whether a session has nothing left to do before the next line. -/
structure Resting (s : Session) : Prop where
  orderly : s.stage.Orderly
  unrequested : s.shell.clearRequested = false

theorem Resting.run (hs : s.Resting) (line : Text) (echo : Bool) : (s.run line echo).2.Resting :=
  ⟨(keeps_orderly echo).runLine _ hs.orderly,
    clearRequested_proceeds ((executor echo).proceeds_segmentsRun _ s) hs.unrequested⟩

/-- The session once a line has been typed, before it runs. -/
def typed (s : Session) (line : Text) : Session :=
  { s.write [s.promptLine line] with shell := s.shell.pushHistory line }

theorem Resting.typed (hs : s.Resting) (line : Text) : (s.typed line).Resting := by
  refine ⟨Orderly.write hs.orderly _, ?_⟩
  show (s.shell.pushHistory line).clearRequested = false
  unfold Shell.pushHistory
  dsimp only
  split
  · exact hs.unrequested
  · exact hs.unrequested

theorem Hosted.resting (h : s.Hosted) : s.Resting := by
  induction h with
  | new config commands => exact ⟨Stage.orderly_new config.pace, rfl⟩
  | submit _ line ih => exact (ih.typed line).run line true
  | run _ line ih => exact ih.run line false
  | tick _ now ih => exact ⟨ih.orderly.advanceTo now, ih.unrequested⟩
  | reset _ ih => exact ⟨ih.orderly.reset, rfl⟩
  | endTakeover _ ih => exact ⟨ih.orderly, ih.unrequested⟩
  | rewrite _ t hids ih => exact ⟨ih.orderly.withTranscript hids, ih.unrequested⟩
  | perform _ animation known step ih => exact ⟨ih.orderly.perform known step, ih.unrequested⟩
  | manage _ tasks ih =>
    refine ⟨ih.orderly.withRegistry (ih.orderly.ready.run fun w hw token heq => ?_), ih.unrequested⟩
    obtain ⟨task, -, rfl⟩ := List.mem_map.mp hw
    cases heq

end Session

/-- What submitting a line writes, with any commands. Let `ran` be the segments that run: it runs the
commands of these and takes note of each once. If none of them clears, the transcript goes on with the
prompt and then, for each segment, the regions that it opened and kept and its lines; else it holds
the lines of the last one that clears and the regions and lines of those after it. The output has
the lines of all of them, and no request to clear is left. -/
theorem submit_writes {s : Session} (hs : s.Hosted) (line : Text) :
    let x := Session.executor true
    let typed := s.typed line
    let ran := x.segmentsRun (typed.shell.expandLine line) typed
    let result := s.submit line
    x.recording.runLine (typed.shell.expandLine line) (typed, []) =
        (result.1, result.2, callsOf x ran) ∧
      ((∀ r ∈ ran, r.clears = false) → result.2.transcript =
        s.transcript ++ .line (s.promptLine line) :: ran.flatMap RanSegment.entries) ∧
      (∀ xs r ys, ran = xs ++ r :: ys → r.clears = true → (∀ q ∈ ys, q.clears = false) →
        result.2.transcript = r.output.lines.map .line ++ ys.flatMap RanSegment.entries) ∧
      result.1.lines = ran.flatMap (·.output.lines) ∧
      result.2.shell.clearRequested = false := by
  intro x typed ran result
  have htyped := hs.resting.typed line
  have hproceeds : x.Proceeds typed ran result.2 := x.proceeds_segmentsRun _ typed
  have htranscript := Session.transcript_proceeds hproceeds htyped.orderly
  refine ⟨x.recording_runLine _ typed, fun hnone => ?_, fun xs r ys heq hr hys => ?_,
    x.lines_runLine _ typed, Session.clearRequested_proceeds hproceeds htyped.unrequested⟩
  · rw [htranscript, RanSegment.foldl_showAfter _ hnone]
    exact List.append_assoc _ [Entry.line (s.promptLine line)] _
  · rw [htranscript, heq]
    exact RanSegment.foldl_showAfter_of_clears _ xs hr hys

/-- Of four segments of which the second clears, the last two are shown. -/
theorem submit_writes_after_clear :
    let line : Text := "echo a; clear; spinner && echo b".toList
    let s := Session.new {}
    let ran := (Session.executor true).segmentsRun ((s.typed line).shell.expandLine line)
      (s.typed line)
    s.Hosted ∧ ran.map RanSegment.clears = [false, true, false, false] ∧
      ∃ echoed cleared shown, ran = echoed :: cleared :: shown ∧
        (s.submit line).2.transcript =
          cleared.output.lines.map .line ++ shown.flatMap RanSegment.entries := by
  intro line s ran
  have hhosted : s.Hosted := .new {} Builtin.table
  have hclears : ran.map RanSegment.clears = [false, true, false, false] := by decide +kernel
  obtain ⟨echoed, _, hran, -, hrest⟩ := List.map_eq_cons_iff.mp hclears
  obtain ⟨cleared, shown, rfl, hcleared, hshown⟩ := List.map_eq_cons_iff.mp hrest
  have hnone : ∀ q ∈ shown, q.clears = false := fun q hq => by
    have hmem := List.mem_map_of_mem (f := RanSegment.clears) hq
    rw [hshown] at hmem
    simpa using hmem
  exact ⟨hhosted, hclears, echoed, cleared, shown, hran,
    (submit_writes hhosted line).2.2.1 [echoed] cleared shown hran hcleared hnone⟩

end VirtualTerminal
