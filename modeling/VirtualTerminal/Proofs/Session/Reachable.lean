import Mathlib.Tactic.Common
import VirtualTerminal.Proofs.Animation.Advance
import VirtualTerminal.Proofs.Animation.Plan
import VirtualTerminal.Proofs.Command.Table
import VirtualTerminal.Proofs.Executor
import VirtualTerminal.Proofs.Session.Execute

/-!
# Reachable sessions

All that a host can do to a session with the built-in commands keeps its stage settled
(`Reachable.sound`): lines run only commands, and the animations of the built-in commands end.
-/

namespace VirtualTerminal

/-! ## The built-in animations -/

/-- Whether a body starts only animations that end. -/
def Body.Ends : Body → Prop
  | .handler _ => True
  | .animation _ plan => plan.Ends

namespace Builtin

theorem duration_pos (default : Nat) (i : Invocation) : 0 < duration default i := by
  unfold duration mostSeconds
  dsimp only
  omega

/-- What holds of handlers, of the rain and of the spinner holds of every built-in command. -/
theorem body_of_mem_all {P : Body → Prop} (hhandler : ∀ f, P (.handler f)) (hmatrix : P matrix.body)
    (hspinner : P spinner.body) : ∀ c ∈ all, P c.body := by
  unfold all
  simp only [List.forall_mem_cons]
  and_intros
  -- all others are handlers
  all_goals first
    | exact hmatrix
    | exact hspinner
    | exact List.forall_mem_nil _
    | exact hhandler _

theorem each_body {P : Body → Prop} (hhandler : ∀ f, P (.handler f)) (hmatrix : P matrix.body)
    (hspinner : P spinner.body) : table.Each fun c => P c.body := by
  refine CommandTable.Each.registerMany (fun name c h => ?_)
    (body_of_mem_all hhandler hmatrix hspinner)
  cases h

/-- The animations of the built-in commands end: the rain has a duration, and the spinner a last
step. -/
theorem each_table : table.Each fun c => c.body.Ends :=
  each_body (fun _ => trivial) (fun scene => .inr (.inl ⟨_, rfl, duration_pos 5 scene.invocation⟩))
    fun _ => .inr (.inr ⟨_, List.mem_cons_of_mem _ List.mem_cons_self, trivial⟩)

end Builtin

/-! ## Reachable sessions -/

namespace Session

/-- The sessions that a host can bring about with the built-in commands. -/
inductive Reachable : Session → Prop where
  | new (config : Config) : Reachable (Session.new config)
  | submit {s : Session} (h : Reachable s) (line : Text) : Reachable (s.submit line).2
  | run {s : Session} (h : Reachable s) (line : Text) : Reachable (s.run line).2
  | tick {s : Session} (h : Reachable s) (now : Nat) : Reachable (s.tick now).2
  | reset {s : Session} (h : Reachable s) : Reachable s.reset
  | endTakeover {s : Session} (h : Reachable s) : Reachable s.endTakeover
  /-- The host may stop animations and register others, with cleanups of their own. -/
  | manage {s : Session} (h : Reachable s) (tasks : List Animation.Task) :
    Reachable { s with
      stage := { s.stage with registry := s.stage.registry.run (tasks.map .task) } }
  /-- The host may write into the transcript. -/
  | rewrite {s : Session} (h : Reachable s) (t : Transcript) :
    Reachable { s with stage := { s.stage with transcript := t } }

/-- Whether the stage of a session is settled and its commands are the built-in ones. -/
structure Sound (s : Session) : Prop where
  settled : s.stage.Settled
  commands_eq : s.commands = Builtin.table

variable {s : Session}

/-- A change of the stage that only makes it quieter. -/
theorem Sound.of_quietens {s' : Session} (hs : s.Sound) (htimers : s'.stage.timers = s.stage.timers)
    (hdelay : s'.stage.frameDelay = s.stage.frameDelay) (hquiet : s.stage.Quietens s'.stage)
    (hcommands : s'.commands = s.commands) : s'.Sound :=
  ⟨hs.settled.of_quietens htimers hdelay hquiet, hcommands.trans hs.commands_eq⟩

theorem Sound.write (hs : s.Sound) (lines : List Line) : (s.write lines).Sound :=
  hs.of_quietens rfl rfl (.refl _) rfl

theorem Sound.execute (hs : s.Sound) (i : Invocation) (echo : Bool) :
    ((executor echo).run s i).2.Sound := by
  obtain ⟨-, heq⟩ | ⟨c, f, context, -, -, heq⟩ | ⟨c, name, plan, hget, hbody, heq⟩ :=
    run_cases echo s i
  · rw [heq]
    exact hs
  · rw [heq]
    exact ⟨hs.settled, hs.commands_eq⟩
  · rw [hs.commands_eq] at hget
    have hends : c.body.Ends := Builtin.each_table.get? hget
    rw [hbody] at hends
    rw [heq]
    exact ⟨hs.settled.run hends name i, hs.commands_eq⟩

theorem keeps_sound (echo : Bool) : (executor echo).Keeps Sound where
  run _ i hs := hs.execute i echo
  finished s output hs := by
    refine ⟨?_, (commands_finished echo s output).trans hs.commands_eq⟩
    exact stage_finished echo s output (Q := Animation.Stage.Settled)
      (·.of_quietens rfl rfl (s.stage.quietens_run _)) (fun _ _ h => h.of_quietens rfl rfl (.refl _))
      hs.settled

theorem Sound.run (hs : s.Sound) (line : Text) (echo : Bool) : (s.run line echo).2.Sound :=
  (keeps_sound echo).runLine _ hs

theorem Sound.submit (hs : s.Sound) (line : Text) : (s.submit line).2.Sound := by
  have hpushed : Sound { s.write [s.promptLine line] with
      shell := s.shell.pushHistory line } :=
    (hs.write [s.promptLine line]).of_quietens rfl rfl (.refl _) rfl
  exact hpushed.run line true

theorem sound_new (config : Config) : (Session.new config).Sound :=
  ⟨Animation.Stage.settled_new _, rfl⟩

theorem Sound.reset (hs : s.Sound) : s.reset.Sound := by
  refine ⟨⟨hs.settled.valid.clear, hs.settled.frameDelay_pos, ?_⟩, hs.commands_eq⟩
  intro t ht
  cases ht

/-- Whatever a host has done, the session is sound. -/
theorem Reachable.sound (h : Reachable s) : s.Sound := by
  induction h with
  | new config => exact sound_new config
  | submit _ line ih => exact ih.submit line
  | run _ line ih => exact ih.run line false
  | tick _ now ih => exact ⟨(ih.settled.advanceTo now).2, ih.commands_eq⟩
  | reset _ ih => exact ih.reset
  | endTakeover _ ih => exact ih.of_quietens rfl rfl (.refl _) rfl
  | @manage s _ tasks ih => exact ih.of_quietens rfl rfl (s.stage.quietens_run _) rfl
  | rewrite _ t ih => exact ih.of_quietens rfl rfl (.refl _) rfl

end Session

end VirtualTerminal
