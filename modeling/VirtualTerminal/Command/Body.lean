import VirtualTerminal.Animation.Plan
import VirtualTerminal.Command.Table
import VirtualTerminal.FileTree
import VirtualTerminal.Shell

/-!
# Running commands

A command either handles its invocation at once, reading and changing the files and the shell, or
starts an animation. Only animations touch the stage.
-/

namespace VirtualTerminal

/-- What a command may look at besides the files and the shell. -/
structure Context where
  invocation : Invocation
  prompt : Prompt
  /-- All commands, without what they do. -/
  catalog : CommandTable Unit
  /-- The time of the clock. -/
  now : Nat
  /-- The number of active animations. -/
  animations : Nat

/-- The files and the shell, which commands read and change. -/
structure Desk where
  files : FileTree
  shell : Shell
  deriving DecidableEq

/-- All that commands change. -/
structure Terminal extends Desk where
  stage : Animation.Stage

/-- What a command does at once. -/
abbrev Handler := Context → Desk → Except Error Output × Desk

/-- What a command does. -/
inductive Body where
  | handler (f : Handler)
  /-- Starts an animation with a name. -/
  | animation (name : Text) (plan : Animation.Plan)

/-- Runs a body for an invocation. -/
def Body.run (context : Context) (t : Terminal) : Body → Except Error Output × Terminal
  | .handler f =>
    let (result, desk) := f context t.toDesk
    (result, { t with toDesk := desk })
  | .animation name plan =>
    let (result, stage) := plan.run name context.invocation t.stage
    (result, { t with stage := stage })

/-- Runs the command with a name for an invocation. -/
def CommandTable.execute (commands : CommandTable Body) (prompt : Prompt) (name : Text)
    (i : Invocation) (t : Terminal) : Except Error Output × Terminal :=
  match commands.get? name with
  | none => (.error (.notFound name), t)
  | some c =>
    c.body.run ⟨i, prompt, commands.catalog, t.stage.timers.now, t.stage.registry.active.size⟩ t

/-- A handler that neither fails nor changes anything. -/
def Handler.showing (f : Context → Desk → Output) : Handler :=
  fun c d => (.ok (f c d), d)

/-- A handler that does not fail. -/
def Handler.doing (f : Context → Desk → Output × Desk) : Handler :=
  fun c d =>
    let (output, d) := f c d
    (.ok output, d)

/-- The output that tells how a command is used. -/
def Output.usage (usage : Text) : Output :=
  .error ("usage: ".toList ++ usage)

end VirtualTerminal
