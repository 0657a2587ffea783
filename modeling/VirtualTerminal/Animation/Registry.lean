import VirtualTerminal.Table

/-!
# Active animations

At most one animation is active under an id. When an animation stops, its token is cancelled and
its cleanup is done; the animation has left the registry before, so a cleanup may itself start and
stop animations.
-/

namespace VirtualTerminal.Animation

/-- What a cleanup does. -/
inductive Task where
  /-- Writes a note. -/
  | note (label : Text)
  | stop (id : Text)
  | stopAll
  /-- Makes an animation with a token and a cleanup of its own active. -/
  | register (id : Text) (cleanup : List Task)

/-- An active animation. -/
structure Registration where
  token : Nat
  cleanup : List Task

/-- The active animations by their ids, the tokens that have been cancelled, and the notes that
cleanups have written. -/
structure Registry where
  active : Table Registration := .empty
  cancelled : List Nat := []
  nextToken : Nat := 0
  notes : List Text := []

/-- What a registry still has to do. -/
inductive Work where
  | task (t : Task)
  /-- Cancels an animation that has left the registry and does its cleanup. -/
  | finish (r : Registration)
  | install (id : Text) (r : Registration)

mutual

/-- A bound for the steps that a task takes. -/
def Task.weight : Task → Nat
  | .register _ cleanup => 5 + weightAll cleanup
  | _ => 1

/-- A bound for the steps that tasks take. -/
def weightAll : List Task → Nat
  | [] => 0
  | t :: rest => t.weight + weightAll rest

end

/-- A bound for the steps that work takes. -/
def Work.weight : Work → Nat
  | .task t => t.weight
  | .finish r => 1 + weightAll r.cleanup
  | .install _ r => 3 + weightAll r.cleanup

namespace Registry

/-- A bound for the steps that stopping all animations takes. -/
def weight (g : Registry) : Nat :=
  g.active.entries.foldr (fun e n => 2 + weightAll e.2.cleanup + n) 0

/-- Does one step of work; gives what is to be done next. Animations that are stopped together are
finished in the order of their ids. No order is promised to those who stop them, so what becomes of
animations is also proved for every other order (`Registry.Steps`). -/
def step (g : Registry) : Work → List Work × Registry
  | .task (.note label) => ([], { g with notes := g.notes ++ [label] })
  | .task (.stop id) =>
    match g.active.find? id with
    | none => ([], g)
    | some r => ([.finish r], { g with active := g.active.erase id })
  | .task .stopAll =>
    (g.active.entries.map fun e => .finish e.2, { g with active := .empty })
  | .task (.register id cleanup) =>
    ([.task (.stop id), .install id ⟨g.nextToken, cleanup⟩],
      { g with nextToken := g.nextToken + 1 })
  | .finish r => (r.cleanup.map .task, { g with cancelled := r.token :: g.cancelled })
  | .install id r => ([], { g with active := g.active.insert id r })

/-- Does at most `fuel` steps of work. -/
def runFuel : (fuel : Nat) → List Work → Registry → Registry
  | 0, _, g => g
  | _, [], g => g
  | fuel + 1, w :: rest, g =>
    let (more, g) := g.step w
    runFuel fuel (more ++ rest) g

/-- Does all work. -/
def run (g : Registry) (work : List Work) : Registry :=
  runFuel (work.foldr (fun w n => w.weight + n) (g.weight + 1)) work g

/-- A token that no animation has had. -/
def freshToken (g : Registry) : Nat × Registry :=
  (g.nextToken, { g with nextToken := g.nextToken + 1 })

/-- Makes an animation active; one that has its id is stopped before. -/
def register (g : Registry) (id : Text) (token : Nat) (cleanup : List Task) : Registry :=
  g.run [.task (.stop id), .install id ⟨token, cleanup⟩]

/-- Stops the animation with an id, if there is one. -/
def stop (g : Registry) (id : Text) : Registry :=
  g.run [.task (.stop id)]

/-- Stops all animations. -/
def stopAll (g : Registry) : Registry :=
  g.run [.task .stopAll]

/-- Cancels a token; the animation stays in the registry. -/
def cancel (g : Registry) (token : Nat) : Registry :=
  { g with cancelled := token :: g.cancelled }

/-- Whether a token has been cancelled. -/
def isCancelled (g : Registry) (token : Nat) : Bool :=
  g.cancelled.contains token

/-- Whether an animation is active under an id. -/
def isActive (g : Registry) (id : Text) : Bool :=
  g.active.contains id

/-- The ids of the active animations, in increasing order. -/
def ids (g : Registry) : List Text :=
  g.active.keys

end Registry

end VirtualTerminal.Animation
