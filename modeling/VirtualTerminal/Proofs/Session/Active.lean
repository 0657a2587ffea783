import VirtualTerminal.Proofs.Animation.Active
import VirtualTerminal.Proofs.Session.Repaint

/-!
# Active animations of a session

With the built-in commands, whatever a host submits and runs, and whichever animations it stops, the
registry holds the ids of the active animations of a session and no others
(`active_iff_registered`). What running the plan of a command keeps, and stopping animations and moving
the clock keep, holds after all these events (`Lasts.after`).
-/

namespace VirtualTerminal

open Animation

/-! ## Events that bring in animations by commands only -/

/-- What a host does to a session without bringing in animations or lines of its own. -/
inductive Event.IsInput : Event → Prop where
  | submit (line : Text) : IsInput (.submit line)
  | run (line : Text) : IsInput (.run line)
  | tick (now : Nat) : IsInput (.tick now)
  | reset : IsInput .reset
  | endTakeover : IsInput .endTakeover
  | stop (id : Text) : IsInput (.manage [.stop id])
  | stopAll : IsInput (.manage [.stopAll])

/-- Whether what happens on the stage of a session with some commands keeps a property of the stage and
of the animations begun on it. -/
structure Lasts (commands : CommandTable Body) (Q : List Handle → Stage → Prop) : Prop where
  plan : ∀ {hs s c name plan} i, commands.get? i.command = some c → c.body = .animation name plan →
    Q hs s → Q (hs ++ [(s.launch name.lower).1]) (plan.run name i s).2
  write : ∀ {hs s} lines, Q hs s → Q hs { s with transcript := s.transcript.extend lines }
  stop : ∀ {hs s} id, Q hs s → Q hs { s with registry := s.registry.stop id }
  stopAll : ∀ {hs s}, Q hs s → Q hs { s with registry := s.registry.stopAll }
  clear : ∀ {hs s}, Q hs s → Q hs s.clear
  reset : ∀ {hs s}, Q hs s → Q hs s.reset
  advance : ∀ {hs s} now, Q hs s → Q hs (s.advanceTo now).2

namespace Lasts

variable {commands : CommandTable Body} {Q : List Handle → Stage → Prop}

theorem follows (hQ : Lasts commands Q) (echo : Bool) :
    Session.Follows echo fun hs s => s.commands = commands ∧ Q hs s.stage where
  run {hs s} i h := by
    obtain ⟨hcommands, hstage⟩ := h
    refine ⟨hcommands, ?_⟩
    rcases Session.stage_execute echo s i with
      ⟨heq, hbegins⟩ | ⟨c, name, plan, hget, hbody, heq, hbegins⟩
    · rw [heq, hbegins, List.append_nil]
      exact hstage
    · rw [hcommands] at hget
      rw [heq, hbegins]
      exact hQ.plan i hget hbody hstage
  finished {hs s} output h :=
    ⟨(Session.commands_finished echo s output).trans h.1,
      Session.stage_finished echo s output (Q := Q hs) hQ.clear (fun _ => hQ.write) h.2⟩

theorem next (hQ : Lasts commands Q) {l : Life}
    (hl : l.session.commands = commands ∧ Q l.animations l.session.stage) {e : Event}
    (he : e.IsInput) :
    (l.next e).session.commands = commands ∧ Q (l.next e).animations (l.next e).session.stage := by
  obtain ⟨hcommands, hstage⟩ := hl
  cases he with
  | submit line =>
    exact (hQ.follows true).line (s := l.session.typed line) ⟨hcommands, hQ.write _ hstage⟩ line
  | run line => exact (hQ.follows false).line ⟨hcommands, hstage⟩ line
  | tick now => exact ⟨hcommands, hQ.advance now hstage⟩
  | reset => exact ⟨hcommands, hQ.reset hstage⟩
  | endTakeover => exact ⟨hcommands, hstage⟩
  | stop id => exact ⟨hcommands, hQ.stop id hstage⟩
  | stopAll => exact ⟨hcommands, hQ.stopAll hstage⟩

/-- A property that lasts holds after all events, if it holds of an empty stage. -/
theorem after (hQ : Lasts commands Q) (config : Config) (hnew : Q [] (.new config.pace))
    {events : List Event} (hinput : ∀ e ∈ events, e.IsInput) :
    let l := (Life.start config commands).after events
    l.session.commands = commands ∧ Q l.animations l.session.stage :=
  List.foldlRecOn
    (motive := fun l : Life => l.session.commands = commands ∧ Q l.animations l.session.stage)
    events _ ⟨rfl, hnew⟩ fun _ hl e he => hQ.next hl (hinput e he)

end Lasts

/-! ## Built-in animations -/

/-- Whether a body at most starts animations that paint at first and are to end after a time. -/
def Body.Passes (limit : Nat) : Body → Prop
  | .handler _ => True
  | .animation _ plan => ∀ scene, ∃ first delay last,
    plan.steps scene = [first, .finishAfter delay last] ∧ first ≠ .cancel ∧ delay ≤ limit

namespace Builtin

theorem duration_le (default : Nat) (i : Invocation) : duration default i ≤ 1000 * mostSeconds :=
  Nat.mul_le_mul_left _ (Nat.min_le_right _ _)

/-- A built-in animation ends after a minute at most. -/
theorem each_passes : table.Each fun c => c.body.Passes (1000 * mostSeconds) := by
  refine each_body (fun _ => trivial) (fun scene => ?_) fun scene => ?_
  · have hpos := duration_pos 5 scene.invocation
    refine ⟨.continuous (fun _ elapsed => rain elapsed) none, duration 5 scene.invocation, none,
      ?_, nofun, duration_le _ _⟩
    unfold Plan.steps
    dsimp only
    rw [Option.filter_some, if_pos (decide_eq_true hpos)]
    rfl
  · exact ⟨.frames _ 100, duration 3 scene.invocation, some _, rfl, nofun, duration_le _ _⟩

theorem steps_of_get? {n name : Text} {c : Command Body} {plan : Plan} (hget : table.get? n = some c)
    (hbody : c.body = .animation name plan) (scene : Scene) : ∃ first delay last,
      plan.steps scene = [first, .finishAfter delay last] ∧ first ≠ .cancel ∧
        delay ≤ 1000 * mostSeconds := by
  have hpasses : c.body.Passes (1000 * mostSeconds) := each_passes.get? hget
  rw [hbody] at hpasses
  exact hpasses scene

theorem steps_ne_cancel {n name : Text} {c : Command Body} {plan : Plan} (hget : table.get? n = some c)
    (hbody : c.body = .animation name plan) (scene : Scene) :
    ∀ step ∈ plan.steps scene, step ≠ .cancel := by
  obtain ⟨first, delay, last, hsteps, hfirst, -⟩ := steps_of_get? hget hbody scene
  rw [hsteps]
  exact List.forall_mem_cons.mpr ⟨hfirst, List.forall_mem_singleton.mpr nofun⟩

end Builtin

theorem lasts_hosts : Lasts Builtin.table Stage.Hosts where
  plan i hget hbody ho := ho.run (Builtin.steps_ne_cancel hget hbody) _ i
  write lines ho := ho.write lines
  stop id ho := ho.stop id (List.Subset.refl _) ho.orderly.ended fun _ _ => .inl
  stopAll ho := ho.stopAll
  clear ho := ho.clear
  reset ho := ho.reset
  advance now ho := ho.advanceTo now

/-- With the built-in commands, whatever a host submits, runs and stops: all animations that have been
begun have different ids, as have all regions, and the next animation gets an id that neither an active
animation nor a region has. An animation is active as long as the registry holds its id, which is as
long as its token is not cancelled and it has not ended, and as long as it is active there is one region
with its id. -/
theorem active_iff_registered (config : Config) (events : List Event)
    (hinput : ∀ e ∈ events, e.IsInput) :
    let l := (Life.start config Builtin.table).after events
    let s := l.session.stage
    l.animations.map (·.seq) = List.range s.begun ∧ (l.animations.map (·.id)).Nodup ∧
      s.transcript.ids.Nodup ∧
      (∀ name, s.registry.isActive (s.launch name).1.id = false ∧
        s.transcript.hasRegion (s.launch name).1.id = false) ∧
      ∀ h ∈ l.animations,
        (s.isActive h = true ↔ s.registry.isActive h.id = true) ∧
        (s.isActive h = true ↔ s.registry.isCancelled h.token = false ∧ h.seq ∉ s.ended) ∧
        (s.isActive h = true → s.transcript.ids.count h.id = 1) := by
  intro l s
  obtain ⟨-, ho⟩ := lasts_hosts.after config (Stage.hosts_new config.pace) hinput
  refine ⟨ho.owns.seqs, ho.owns.nodup_ids, ho.regions, fun name => ⟨?_, ?_⟩, fun h hh =>
    ⟨ho.isActive_iff_registered hh, ?_, fun hactive => ?_⟩⟩
  · show (s.registry.active.find? (s.nextId name)).isSome = false
    rw [ho.find?_nextId name]
    rfl
  · exact ho.orderly.hasRegion_nextId name
  · rw [Stage.isActive_iff, and_comm]
    exact and_congr_left' (Bool.eq_false_iff.trans (not_congr List.contains_iff_mem)).symm
  · exact List.count_eq_one_of_mem ho.regions (ho.region h hh hactive)

/-- A visitor runs an animation, clears the screen while another one has just begun, and runs two
more. -/
def visit : List Event :=
  [.submit "matrix --seconds=2".toList, .tick 500, .submit "spinner; clear && spinner".toList,
    .tick 900, .run "matrix".toList]

/-- Of the four animations of the visit the last two are active, and have a region each: clearing the
screen has stopped the others. -/
theorem active_iff_registered_visit :
    let l := (Life.start {} Builtin.table).after visit
    l.animations.map l.session.stage.isActive = [false, false, true, true] ∧
      l.animations.map (l.session.stage.registry.isActive ·.id) = [false, false, true, true] ∧
      ∀ h ∈ l.animations.drop 2, l.session.stage.transcript.ids.count h.id = 1 := by
  have hinput : ∀ e ∈ visit, e.IsInput := by
    unfold visit
    simp only [List.forall_mem_cons]
    exact ⟨.submit _, .tick _, .submit _, .tick _, .run _, List.forall_mem_nil _⟩
  obtain ⟨-, -, -, -, hequivalent⟩ := active_iff_registered {} visit hinput
  have hactive : (let l := (Life.start {} Builtin.table).after visit
    l.animations.map l.session.stage.isActive = [false, false, true, true]) := by decide +kernel
  generalize (Life.start {} Builtin.table).after visit = l at hequivalent hactive ⊢
  refine ⟨hactive, ?_, fun h hh => ?_⟩
  · rw [← hactive]
    exact List.map_congr_left fun h hh => Bool.eq_iff_iff.mpr (hequivalent h hh).1.symm
  · have hmem := List.mem_map_of_mem (f := l.session.stage.isActive) hh
    rw [List.map_drop, hactive] at hmem
    have htrue : l.session.stage.isActive h = true := by simpa using hmem
    exact (hequivalent h (List.mem_of_mem_drop hh)).2.2 htrue

end VirtualTerminal
