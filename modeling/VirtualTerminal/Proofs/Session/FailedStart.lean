import VirtualTerminal.Proofs.Animation.Failure
import VirtualTerminal.Proofs.Session.Submit
import VirtualTerminal.Proofs.Session.Ticks

/-!
# Animated commands that fail

If the start of an animated command fails, the session shows what it showed before, the same animations
are active, and it makes no difference to any later tick that the command has been run
(`failed_start_leaves_no_trace`).
-/

namespace VirtualTerminal

open Animation

namespace Session

/-! ## The stage of a session -/

/-- Lines bring about the stage of a session from the one before. -/
theorem keeps_leads (echo : Bool) (stage : Stage) :
    (executor echo).Keeps fun s => stage.Leads s.stage where
  run s i hleads := by
    obtain ⟨-, heq⟩ | ⟨c, f, context, -, -, heq⟩ | ⟨c, name, plan, -, -, heq⟩ := run_cases echo s i
    · rw [heq]
      exact hleads
    · rw [heq]
      exact hleads
    · rw [heq]
      exact hleads.trans (s.stage.leads_run plan name i)
  finished s output hleads :=
    stage_finished echo s output (Q := stage.Leads) (·.tail .clear)
      (fun _ lines h => h.trans (Stage.leads_write _ lines)) hleads

theorem leads_run (s : Session) (line : Text) (echo : Bool) : s.stage.Leads (s.run line echo).2.stage :=
  (keeps_leads echo s.stage).runLine _ .refl

theorem leads_submit (s : Session) (line : Text) : s.stage.Leads (s.submit line).2.stage := by
  have htyped : s.stage.Leads (s.typed line).stage := s.stage.leads_write [s.promptLine line]
  exact htyped.trans (leads_run (s.typed line) line true)

/-- An animated command runs its plan. -/
theorem run_animation (echo : Bool) {s : Session} {i : Invocation} {c : Command Body} {name : Text}
    {plan : Plan} (hget : s.commands.get? i.command = some c) (hbody : c.body = .animation name plan) :
    (executor echo).run s i =
      ((plan.run name i s.stage).1, { s with stage := (plan.run name i s.stage).2 }) := by
  unfold executor CommandTable.execute
  dsimp only
  rw [hget]
  dsimp only
  rw [hbody]
  rfl

/-! ## Ticks -/

/-- Whether moving the clock through a list of times comes back. -/
def Arrives : List Nat → Session → Prop
  | [], _ => True
  | now :: rest, s => s.stage.Arrives now ∧ Arrives rest (s.tick now).2

theorem without_tickThrough {h : Handle} {s t : Session} (hw : Stage.Without h s.stage t.stage)
    (hs : s.stage.Going) (hnow : s.stage.timers.now = t.stage.timers.now) {times : List Nat}
    (harrives : Arrives times s) : Arrives times t ∧
      Stage.Without h (tickThrough times s).2.stage (tickThrough times t).2.stage := by
  induction times generalizing s t with
  | nil => exact ⟨trivial, hw⟩
  | cons now rest ih =>
    obtain ⟨hfirst, hrest⟩ := harrives
    obtain ⟨hfirst', hw', hnow'⟩ := hw.advanceTo hs hnow hfirst
    obtain ⟨hrest', hthrough⟩ := ih (s := (s.tick now).2) (t := (t.tick now).2) hw'
      (hs.advanceTo hfirst) hnow' hrest
    exact ⟨⟨hfirst', hrest'⟩, hthrough⟩

end Session

/-- In a session whose stage has come about in any way, a command starts an animation, and the start fails
after some steps. Then the command reports the failure, and the transcript and the active animations are
what they were before. Through whatever times the clock is moved, it comes back if it does without the
command, and then the transcript and the ids of the active animations are those without the command. And
whatever else happens on the stage, the animation is not active and has no region, no step of it changes
the transcript or makes an animation active or ends one, and a timer of it that fires has no effect. -/
theorem failed_start_leaves_no_trace {pace : Pace} {s : Session} (hs : (Stage.new pace).Leads s.stage)
    {i : Invocation} {c : Command Body} {name : Text} {plan : Plan} {e : Error}
    (hget : s.commands.get? i.command = some c) (hbody : c.body = .animation name plan)
    (hfail : s.stage.Fails plan name i e) (echo : Bool) :
    let h := (s.stage.launch name.lower).1
    let result := ((Session.executor echo).run s i).1
    let t := ((Session.executor echo).run s i).2
    result = .error e ∧ t.transcript = s.transcript ∧
      t.stage.registry.active = s.stage.registry.active ∧
      (∀ times, Session.Arrives times s → Session.Arrives times t ∧
        (Session.tickThrough times t).2.transcript = (Session.tickThrough times s).2.transcript ∧
        (Session.tickThrough times t).2.stage.registry.ids =
          (Session.tickThrough times s).2.stage.registry.ids) ∧
      ∀ u, t.stage.Leads u → u.isActive h = false ∧ h.id ∉ u.registry.ids ∧
        u.transcript.hasRegion h.id = false ∧
        (∀ step, (u.perform h step).transcript = u.transcript ∧
          (u.perform h step).registry.ids = u.registry.ids) ∧
        ∀ now, ∀ f ∈ u.firings now, f.2.handle = h → (f.1.play f.2).transcript = f.1.transcript ∧
          (f.1.play f.2).registry = f.1.registry ∧ (f.1.play f.2).timers = f.1.timers := by
  intro h result t
  have hprepared : s.stage.Prepared := (Stage.prepared_new pace).leads hs
  have hrun := Session.run_animation echo hget hbody
  have hstage : t.stage = (plan.run name i s.stage).2 := by
    show ((Session.executor echo).run s i).2.stage = _
    rw [hrun]
  have hresult : result = .error e := by
    show ((Session.executor echo).run s i).1 = _
    unfold Stage.Fails at hfail
    rw [hrun, Stage.result_run, hfail]
  have hw : Stage.Without h s.stage t.stage := hstage ▸ hprepared.without_run hfail
  obtain ⟨hstarts, hactive⟩ := hprepared.active_run hfail
  rw [← hstage] at hstarts hactive
  refine ⟨hresult, hw.transcript, hactive, fun times harrives => ?_, fun u hu => ?_⟩
  · obtain ⟨harrives', hthrough⟩ :=
      Session.without_tickThrough hw hprepared.going hstarts.now.symm harrives
    exact ⟨harrives', hthrough.transcript, hthrough.registry.ids.symm⟩
  · have hgone : u.Gone h := hw.gone.leads (s.stage.isNumbered_nextId name.lower) hu
    refine ⟨hgone.isActive, hgone.not_mem_ids, ?_, hgone.perform, fun now f hf hhandle => ?_⟩
    · exact Bool.eq_false_iff.mpr (mt Transcript.mem_ids.mpr hgone.region)
    · have hfiring : f.1.Gone h := hgone.of_mem_firings hf
      rcases hfiring.play hhandle with heq | heq <;> rw [heq] <;> exact ⟨rfl, rfl, rfl⟩

/-- An animation that blinks and is to end, but whose start fails. -/
def blink : Command Body where
  name := "blink".toList
  description := "Blink until it fails".toList
  usage := "blink".toList
  category := .effects
  body := .animation "blink".toList
    { start := fun _ =>
        ([.frames [[.plain "on".toList], [.plain "off".toList]] 50,
          .paintAfter 120 [.plain "still here".toList], .finishAfter 200 none],
        some (.failed "no light".toList)) }

/-- Beside a spinner, a failing animation has three timers left, which make no difference to the ticks
that the spinner turns with. -/
theorem failed_start_leaves_no_trace_blink :
    let commands := (CommandTable.registerMany [blink, Builtin.spinner] {}).2
    let s := (Session.submit (.new {} commands) "spinner".toList).2
    let i : Invocation := { command := "blink".toList }
    let t := ((Session.executor true).run s i).2
    ((Session.executor true).run s i).1 = .error (.failed "no light".toList) ∧
      t.transcript = s.transcript ∧ t.stage.registry.ids = s.stage.registry.ids ∧
      s.stage.timers.pending.length = 2 ∧ t.stage.timers.pending.length = 5 ∧
      (Session.tickThrough [60, 100, 5000] t).2.transcript =
        (Session.tickThrough [60, 100, 5000] s).2.transcript := by
  intro commands s i t
  have hs : (Animation.Stage.new ({} : Config).pace).Leads s.stage :=
    Session.leads_submit (.new {} commands) "spinner".toList
  have hget : s.commands.get? i.command = some blink := rfl
  obtain ⟨hresult, htranscript, hactive, hticks, -⟩ :=
    failed_start_leaves_no_trace hs hget rfl rfl true
  have harrives : Session.Arrives [60, 100, 5000] s :=
    ⟨.inl (by decide), .inl (by decide), .inl (by decide), trivial⟩
  exact ⟨hresult, htranscript, congrArg Table.keys hactive, by decide +kernel, by decide +kernel,
    (hticks [60, 100, 5000] harrives).2.1⟩

end VirtualTerminal
