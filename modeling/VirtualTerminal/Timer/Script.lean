import VirtualTerminal.Text.Basic
import VirtualTerminal.Timer

/-!
# Scripts of timers

A script is a finite list of operations on a queue, among them scheduling further scripts and
moving the clock while another move is under way. Scripts may also change a state `σ` that they
share. Every firing and the answer to every operation of a fired script is written to a log.
-/

namespace VirtualTerminal.Script

/-- An operation on a queue whose timers are known by tags. -/
inductive Op (σ : Type u) where
  | schedule (tag : Text) (delay : Nat) (script : List (Op σ))
  | cancel (tag : Text)
  | advanceTo (target : Nat)
  | advanceBy (delta : Nat)
  | clear
  | peek
  | change (f : σ → σ)

/-- The answer to an operation. -/
inductive Reply where
  | nothing
  | flag (b : Bool)
  | number (n : Nat)
  deriving DecidableEq, Repr

/-- The name of an operation. -/
def Op.name {σ : Type u} : Op σ → Text
  | schedule .. => "schedule".toList
  | cancel _ => "cancel".toList
  | advanceTo _ => "advance_to".toList
  | advanceBy _ => "advance_by".toList
  | clear => "clear".toList
  | peek => "peek".toList
  | change _ => "change".toList

/-- What is written to the log. -/
inductive Note where
  /-- The timer of a tag fires at a time of the clock. -/
  | fired (tag : Text) (now seq : Nat)
  /-- An operation of the script of a tag has been answered. -/
  | answered (tag op : Text) (reply : Reply)
  deriving DecidableEq, Repr

/-- A queue of scripts with the numbers of the timers of each tag, the shared state and the log. -/
structure State (σ : Type u) where
  shared : σ
  queue : Queue (Text × List (Op σ)) := {}
  seqs : List (Text × Nat) := []
  log : List Note := []

variable {σ : Type u}

mutual

/-- The number of operations that an operation leads to, itself among them. -/
def Op.weight : Op σ → Nat
  | .schedule _ _ script => 2 + weightAll script
  | _ => 1

/-- The number of operations that a script leads to. -/
def weightAll : List (Op σ) → Nat
  | [] => 0
  | op :: rest => op.weight + weightAll rest

end

/-- The number of operations and firings that a state leads to. -/
def State.weight (s : State σ) : Nat :=
  s.queue.pending.foldr (fun t n => 1 + weightAll t.task.2 + n) 0

mutual

/-- Performs an operation; `fuel` bounds the operations and firings that it leads to. -/
def performFuel : (fuel : Nat) → Op σ → State σ → Reply × State σ
  | 0, _, s => (.nothing, s)
  | fuel + 1, op, s =>
    match op with
    | .schedule tag delay script =>
      let queue := s.queue.schedule delay (tag, script)
      (.number queue.pending.length,
        { s with queue := queue, seqs := (tag, s.queue.nextSeq) :: s.seqs })
    | .cancel tag =>
      match s.seqs.lookup tag with
      | none => (.nothing, s)
      | some seq => (.flag (s.queue.isPending seq), { s with queue := s.queue.cancel seq })
    | .advanceTo target =>
      let (n, s) := advanceFuel fuel target s
      (.number n, s)
    | .advanceBy delta =>
      let (n, s) := advanceFuel fuel (min (s.queue.now + delta) Queue.lastTime) s
      (.number n, s)
    | .clear => (.flag true, { s with queue := s.queue.clear })
    | .peek => (.flag s.queue.pending.isEmpty, s)
    | .change f => (.nothing, { s with shared := f s.shared })

/-- Performs the operations of the script of a tag and writes the answers to the log. -/
def performAllFuel : (fuel : Nat) → (tag : Text) → List (Op σ) → State σ → State σ
  | 0, _, _, s => s
  | _ + 1, _, [], s => s
  | fuel + 1, tag, op :: rest, s =>
    let (reply, s) := performFuel fuel op s
    performAllFuel fuel tag rest { s with log := s.log ++ [.answered tag op.name reply] }

/-- Fires all timers due by `target`, moves the clock there, and gives the number of firings. -/
def advanceFuel : (fuel : Nat) → (target : Nat) → State σ → Nat × State σ
  | 0, _, s => (0, s)
  | fuel + 1, target, s =>
    match s.queue.pop? target with
    | none => (0, { s with queue := s.queue.settle target })
    | some (t, queue) =>
      let (tag, script) := t.task
      let s := performAllFuel fuel tag script
        { s with queue := queue, log := s.log ++ [.fired tag queue.now t.seq] }
      let (n, s) := advanceFuel fuel target s
      (n + 1, s)

end

/-- Performs an operation. -/
def perform (op : Op σ) (s : State σ) : Reply × State σ :=
  performFuel (4 * (op.weight + s.weight) + 4) op s

end VirtualTerminal.Script
