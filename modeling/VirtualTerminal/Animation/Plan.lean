import VirtualTerminal.Animation.Stage
import VirtualTerminal.Invocation
import VirtualTerminal.Output
import VirtualTerminal.Text.Lowercase

/-!
# Plans of animations

A plan says what an animation does when a command starts it, whether that fails, and for how long
the animation runs. An animation whose start fails leaves nothing behind.
-/

namespace VirtualTerminal.Animation

/-- What an animation may do when it starts. -/
inductive Step where
  /-- Shows lines now. -/
  | paint (ls : List Line)
  /-- Shows lines later. -/
  | paintAfter (delay : Nat) (ls : List Line)
  /-- Shows frames in turn, over and over. -/
  | frames (pictures : List (List Line)) (delay : Nat)
  /-- Paints pictures, at the speed of the stage unless one is given. -/
  | continuous (painter : Painter) (framesPerSecond : Option Nat)
  /-- Ends the animation now. -/
  | finish
  /-- Ends the animation later, after showing its last lines if there are any. -/
  | finishAfter (delay : Nat) (last : Option (List Line))
  /-- Shows nothing any more; the animation stays in the registry. -/
  | cancel
  /-- Ends the animation now and removes its region. -/
  | abandon

/-- The stage after a step of an animation. -/
def Stage.perform (s : Stage) (h : Handle) : Step → Stage
  | .paint ls => s.update h ls
  | .paintAfter delay ls => s.schedule delay (.lines h ls)
  | .frames pictures delay => s.animateFrames h pictures delay
  | .continuous painter framesPerSecond =>
    s.animateContinuous h painter (framesPerSecond.getD s.framesPerSecond)
  | .finish => s.finish h
  | .finishAfter delay last => s.schedule delay (.finish h last)
  | .cancel => { s with registry := s.registry.cancel h.token }
  | .abandon => s.abandon h

/-- What an animation may look at when it starts. -/
structure Scene where
  invocation : Invocation
  id : Text
  /-- The time of the clock. -/
  now : Nat
  framesPerSecond : Nat

/-- What an animation that has been begun on a stage may look at. -/
def Stage.scene (s : Stage) (h : Handle) (i : Invocation) : Scene :=
  ⟨i, h.id, s.timers.now, s.framesPerSecond⟩

/-- What an animation does for an invocation. -/
structure Plan where
  /-- The steps of the start, and why it fails after them, if it does. -/
  start : Scene → List Step × Option Error
  /-- For how many milliseconds the animation runs; without a number, or with zero, until it is
  stopped. -/
  duration? : Invocation → Option Nat := fun _ => none

/-- Starts an animation. -/
def Plan.run (plan : Plan) (name : Text) (i : Invocation) (s : Stage) :
    Except Error Output × Stage :=
  let (h, s) := s.launch name.lower
  let (steps, failure) := plan.start (s.scene h i)
  let s := steps.foldl (fun s step => s.perform h step) s
  match failure, (plan.duration? i).filter (0 < ·) with
  | some e, _ => (.error e, s.abandon h)
  | none, some duration => (.ok .nothing, s.schedule duration (.finish h none))
  | none, none => (.ok .nothing, s)

end VirtualTerminal.Animation
