import VirtualTerminal.Animation.Registry
import VirtualTerminal.Config
import VirtualTerminal.Timer
import VirtualTerminal.Transcript

/-!
# The stage

An animation paints into a region of its own, now and whenever a timer of it fires, until it is
stopped. A timer of an animation that has stopped fires without effect.
-/

namespace VirtualTerminal.Animation

/-- What an animation knows of itself. -/
structure Handle where
  /-- The id of the animation and of its region. -/
  id : Text
  token : Nat
  /-- The number of animations begun before. -/
  seq : Nat
  deriving DecidableEq, Repr

/-- The lines of a picture, given how many were painted before and for how long the animation has
been running. -/
abbrev Painter := (count elapsed : Nat) → List Line

/-- What a timer of an animation does. -/
inductive Cue where
  /-- Paints a picture and schedules the next one. -/
  | picture (h : Handle) (painter : Painter) (count start delay : Nat)
  /-- Shows lines. -/
  | lines (h : Handle) (ls : List Line)
  /-- Ends the animation, after showing its last lines if there are any. -/
  | finish (h : Handle) (last : Option (List Line))

/-- All that animations share. -/
structure Stage where
  registry : Registry := {}
  timers : Queue Cue := {}
  transcript : Transcript := []
  /-- The number of animations begun. -/
  begun : Nat := 0
  /-- The numbers of the animations that have ended by themselves. -/
  ended : List Nat := []
  /-- The frames per second of an animation that does not say how many. -/
  framesPerSecond : Nat
  /-- The least delay between two pictures. -/
  frameDelay : Nat

namespace Stage

/-- The stage of a new session; both speeds are at least one. -/
def new (pace : Pace) : Stage :=
  { framesPerSecond := max pace.framesPerSecond 1, frameDelay := max pace.frameDelay 1 }

/-- Begins an animation: it gets an id made of a name, the time and its number, becomes active, and
gets a region. -/
def launch (s : Stage) (name : Text) : Handle × Stage :=
  let id := name ++ '-' :: Text.ofNat s.timers.now ++ '-' :: Text.ofNat s.begun
  let (token, registry) := s.registry.freshToken
  (⟨id, token, s.begun⟩,
    { s with
      begun := s.begun + 1
      registry := registry.register id token []
      transcript := s.transcript.openRegion id })

/-- Whether an animation has neither been stopped nor ended. -/
def isActive (s : Stage) (h : Handle) : Bool :=
  !s.ended.contains h.seq && !s.registry.isCancelled h.token

/-- Shows lines in the region of an animation while it is active. -/
def update (s : Stage) (h : Handle) (ls : List Line) : Stage :=
  if s.isActive h then { s with transcript := s.transcript.updateRegion h.id ls } else s

/-- Ends an animation; its region stays. -/
def finish (s : Stage) (h : Handle) : Stage :=
  { s with ended := h.seq :: s.ended, registry := s.registry.stop h.id }

/-- Ends an animation and removes its region. -/
def abandon (s : Stage) (h : Handle) : Stage :=
  let s := s.finish h
  { s with transcript := s.transcript.removeRegion h.id }

/-- Stops all animations and empties the transcript. -/
def clear (s : Stage) : Stage :=
  { s with registry := s.registry.stopAll, transcript := [] }

/-- Empties the stage and drops all timers. The clock and the number of animations begun are
kept. -/
def reset (s : Stage) : Stage :=
  { s.clear with timers := s.timers.clear }

/-- Schedules what an animation does later. -/
def schedule (s : Stage) (delay : Nat) (c : Cue) : Stage :=
  { s with timers := s.timers.schedule delay c }

/-- Does what a timer is for. -/
def play (s : Stage) : Cue → Stage
  | .picture h painter count start delay =>
    if s.isActive h then
      (s.update h (painter count (s.timers.now - start))).schedule delay
        (.picture h painter (count + 1) start delay)
    else s
  | .lines h ls => s.update h ls
  | .finish h none => s.finish h
  | .finish h (some last) => (s.update h last).finish h

/-- A delay, or the least one if that is longer. -/
def delayOf (s : Stage) (requested : Nat) : Nat :=
  max requested s.frameDelay

/-- Shows frames in turn, one after every delay, over and over. -/
def animateFrames (s : Stage) (h : Handle) (frames : List (List Line)) (delay : Nat) : Stage :=
  if frames.isEmpty then s
  else
    s.play (.picture h (fun count _ => frames.getD (count % frames.length) []) 0 s.timers.now
      (s.delayOf delay))

/-- Paints a picture of the time that has passed, so many times a second. -/
def animateContinuous (s : Stage) (h : Handle) (painter : Painter) (framesPerSecond : Nat) :
    Stage :=
  s.play (.picture h painter 0 s.timers.now (s.delayOf (1000 / max framesPerSecond 1)))

/-- Fires the timers due by `target`, at most `fuel` of them, and moves the clock there. Gives the
number of firings, `fired` of which have been counted. -/
def advanceFuel (target : Nat) : (fuel fired : Nat) → Stage → Nat × Stage
  | 0, fired, s => (fired, { s with timers := s.timers.settle target })
  | fuel + 1, fired, s =>
    match s.timers.pop? target with
    | none => (fired, { s with timers := s.timers.settle target })
    | some (t, timers) => advanceFuel target fuel (fired + 1) (play { s with timers := timers } t.task)

/-- Fires all timers due by `target` and moves the clock there. A firing leads to at most one more,
at a later time; at the last time of the clock one more round is needed to end each animation. -/
def advanceTo (s : Stage) (target : Nat) : Nat × Stage :=
  advanceFuel target (s.timers.pending.length * (target - s.timers.now + 3) + 1) 0 s

end Stage

end VirtualTerminal.Animation
