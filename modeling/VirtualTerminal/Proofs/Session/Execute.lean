import VirtualTerminal.Session

/-!
# What a command does to a session

A command that is not there changes nothing, a handler changes the files and the shell, and an animation
changes the stage (`run_cases`). When its output is noted, the stage may be cleared, and lines are written
(`stage_finished`); only the shell changes besides (`finished_eq`). What lines keep is proved from these.
-/

namespace VirtualTerminal.Session

open Animation

/-- All that running a command does to a session. -/
theorem run_cases (echo : Bool) (s : Session) (i : Invocation) :
    (s.commands.get? i.command = none ∧ ((executor echo).run s i).2 = s) ∨
      (∃ c f context, s.commands.get? i.command = some c ∧ c.body = .handler f ∧
        ((executor echo).run s i).2 = { s with toDesk := (f context s.toDesk).2 }) ∨
      ∃ c name plan, s.commands.get? i.command = some c ∧ c.body = .animation name plan ∧
        ((executor echo).run s i).2 = { s with stage := (plan.run name i s.stage).2 } := by
  have hrun : ((executor echo).run s i).2 = { s with
      toTerminal := (s.commands.execute s.config.prompt i.command i s.toTerminal).2 } := rfl
  rw [hrun]
  unfold CommandTable.execute
  cases s.commands.get? i.command with
  | none => exact .inl ⟨rfl, rfl⟩
  | some c =>
    dsimp only
    cases hbody : c.body with
    | handler f => exact .inr (.inl ⟨c, f, _, rfl, hbody, rfl⟩)
    | animation name plan => exact .inr (.inr ⟨c, name, plan, rfl, hbody, rfl⟩)

/-- Taking note of an output clears the stage or not, and writes lines or not. -/
theorem stage_finished (echo : Bool) (s : Session) (output : Output) {Q : Stage → Prop}
    (hclear : Q s.stage → Q s.stage.clear)
    (hwrite : ∀ (stage : Stage) (lines : List Line), Q stage →
      Q { stage with transcript := stage.transcript.extend lines })
    (hs : Q s.stage) : Q ((executor echo).finished s output).stage := by
  have hcleared : Q s.clearIfRequested.stage := by
    unfold clearIfRequested
    split
    · exact hclear hs
    · exact hs
  cases echo with
  | false => exact hcleared
  | true => exact hwrite _ _ hcleared

/-- Taking note of an output changes nothing but the shell and the stage. -/
theorem finished_eq (echo : Bool) (s : Session) (output : Output) :
    ∃ shell stage, (executor echo).finished s output = { s with shell := shell, stage := stage } := by
  have hcleared : ∃ shell stage, s.clearIfRequested = { s with shell := shell, stage := stage } := by
    unfold clearIfRequested
    split <;> exact ⟨_, _, rfl⟩
  obtain ⟨shell, stage, heq⟩ := hcleared
  cases echo with
  | false => exact ⟨shell, stage, heq⟩
  | true =>
    show ∃ shell stage, s.clearIfRequested.write output.lines = _
    rw [heq]
    exact ⟨_, _, rfl⟩

theorem commands_finished (echo : Bool) (s : Session) (output : Output) :
    ((executor echo).finished s output).commands = s.commands := by
  obtain ⟨shell, stage, heq⟩ := finished_eq echo s output
  rw [heq]

theorem config_finished (echo : Bool) (s : Session) (output : Output) :
    ((executor echo).finished s output).config = s.config := by
  obtain ⟨shell, stage, heq⟩ := finished_eq echo s output
  rw [heq]

end VirtualTerminal.Session
