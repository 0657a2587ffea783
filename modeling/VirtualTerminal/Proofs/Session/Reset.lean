import VirtualTerminal.Proofs.Animation.Alike
import VirtualTerminal.Proofs.Session.Deadline

/-!
# What a reset forgets

A session that has been reset cannot be told from a new one whose clock has been moved to the same time
(`reset_forgets`): whatever a host asks of both, the answers are the same, and so are the files, the
shell, the number of active animations and the transcript, in which only the numbers in the ids of
regions differ. For the numbers of animations are not reset, the two are alike (`Session.Alike`), and
every request keeps them alike.
-/

namespace VirtualTerminal

open Animation

/-! ## Requests -/

/-- What a host asks of a session. -/
inductive Request where
  | submit (line : Text)
  | run (line : Text)
  | tick (now : Nat)
  | reset
  | endTakeover
  | complete (line : Text)
  | prompt

/-- What a host is told. -/
inductive Reply where
  | output (o : Output)
  /-- The number of timers that have fired. -/
  | fired (n : Nat)
  /-- What a line may be completed to. -/
  | words (ws : List Text)
  | text (t : Text)
  | nothing

namespace Session

/-- The reply to a request, and the session after it. -/
def serve (s : Session) : Request → Reply × Session
  | .submit line => (.output (s.submit line).1, (s.submit line).2)
  | .run line => (.output (s.run line).1, (s.run line).2)
  | .tick now => (.fired (s.tick now).1, (s.tick now).2)
  | .reset => (.nothing, s.reset)
  | .endTakeover => (.nothing, s.endTakeover)
  | .complete line => (.words (s.complete line), s)
  | .prompt => (.text s.prompt, s)

/-- The replies to requests, and the session after them. -/
def serveAll : List Request → Session → List Reply × Session
  | [], s => ([], s)
  | q :: rest, s =>
    let (reply, s) := s.serve q
    let (replies, s) := serveAll rest s
    (reply :: replies, s)

end Session

/-! ## Commands -/

/-- Whether a body at most starts animations that do not look at their ids. -/
def Body.IgnoresId : Body → Prop
  | .handler _ => True
  | .animation _ plan => plan.IgnoresId

theorem Builtin.each_ignoresId : table.Each fun c => c.body.IgnoresId :=
  each_body (fun _ => trivial) (fun _ _ => rfl) fun _ _ => rfl

/-- A built-in command gives the same result on stages that differ in numbers, and leaves them so. -/
theorem execute_of_shifted {k : Nat} {stage stage' : Stage} (h : stage.Shifted k stage')
    (prompt : Prompt) (name : Text) (i : Invocation) (desk : Desk) :
    let p := Builtin.table.execute prompt name i ⟨desk, stage⟩
    let q := Builtin.table.execute prompt name i ⟨desk, stage'⟩
    p.1 = q.1 ∧ p.2.toDesk = q.2.toDesk ∧ p.2.stage.Shifted k q.2.stage := by
  unfold CommandTable.execute
  cases hget : Builtin.table.get? name with
  | none => exact ⟨rfl, rfl, h⟩
  | some c =>
    have hid : c.body.IgnoresId := Builtin.each_ignoresId.get? hget
    dsimp only
    rw [h.now, h.size_active]
    cases hbody : c.body with
    | handler f => exact ⟨rfl, rfl, h⟩
    | animation animation plan =>
      rw [hbody] at hid
      obtain ⟨hresult, hstage⟩ := h.run (Builtin.steps_ne_cancel hget hbody) hid animation i
      exact ⟨hresult, rfl, hstage⟩

/-! ## Sessions that differ in numbers -/

namespace Session

/-- Whether two sessions with the built-in commands are the same but for their stages, and these up to
numbers. -/
inductive Alike (k : Nat) (s : Session) : Session → Prop where
  | intro {stage : Stage} (commands_eq : s.commands = Builtin.table)
    (shifted : s.stage.Shifted k stage) : Alike k s { s with stage := stage }

namespace Alike

variable {k : Nat} {s t : Session}

theorem desk (h : s.Alike k t) : s.toDesk = t.toDesk := by
  cases h
  rfl

theorem shifted (h : s.Alike k t) : s.stage.Shifted k t.stage := by
  cases h with
  | intro _ hshifted => exact hshifted

theorem clearIfRequested (h : s.Alike k t) : s.clearIfRequested.Alike k t.clearIfRequested := by
  cases h with
  | intro hcommands hshifted =>
    unfold Session.clearIfRequested
    dsimp only
    split
    · exact .intro hcommands hshifted.clear
    · exact .intro hcommands hshifted

theorem write (h : s.Alike k t) (lines : List Line) : (s.write lines).Alike k (t.write lines) := by
  cases h with
  | intro hcommands hshifted => exact .intro hcommands (hshifted.write lines)

end Alike

/-- Lines cannot tell sessions apart that are alike. -/
theorem simulates_alike (k : Nat) (echo : Bool) :
    (executor echo).Simulates (executor echo) (Alike k) where
  parse h := by
    cases h
    rfl
  isRegistered h := by
    cases h
    rfl
  run {s t} i h := by
    cases h with
    | @intro stage hcommands hshifted =>
      obtain ⟨hresult, hdesk, hstage⟩ :=
        execute_of_shifted hshifted s.config.prompt i.command i s.toDesk
      rw [← hcommands] at hresult hdesk hstage
      refine ⟨hresult, ?_⟩
      have hsame : ((executor echo).run { s with stage := stage } i).2 =
          { ((executor echo).run s i).2 with
            stage := ((executor echo).run { s with stage := stage } i).2.stage } :=
        congrArg (fun desk => Session.mk ⟨desk, _⟩ s.config s.commands) hdesk.symm
      rw [hsame]
      exact .intro hcommands hstage
  finished {s t} output h := by
    cases echo with
    | false => exact h.clearIfRequested
    | true => exact h.clearIfRequested.write _

namespace Alike

variable {k : Nat} {s t : Session}

theorem run (h : s.Alike k t) (line : Text) (echo : Bool) :
    (s.run line echo).1 = (t.run line echo).1 ∧ (s.run line echo).2.Alike k (t.run line echo).2 := by
  have hline := (simulates_alike k echo).runLine (s.shell.expandLine line) h
  cases h
  exact hline

theorem typed (h : s.Alike k t) (line : Text) : (s.typed line).Alike k (t.typed line) := by
  cases h with
  | intro hcommands hshifted => exact .intro hcommands (hshifted.write [s.promptLine line])

/-- A request is answered alike, and leaves the sessions alike. -/
theorem serve (h : s.Alike k t) (q : Request) :
    (s.serve q).1 = (t.serve q).1 ∧ (s.serve q).2.Alike k (t.serve q).2 := by
  cases q with
  | submit line =>
    obtain ⟨houtput, hnext⟩ := (h.typed line).run line true
    exact ⟨congrArg Reply.output houtput, hnext⟩
  | run line =>
    obtain ⟨houtput, hnext⟩ := h.run line false
    exact ⟨congrArg Reply.output houtput, hnext⟩
  | tick now =>
    cases h with
    | intro hcommands hshifted =>
      obtain ⟨hfired, hstage⟩ := hshifted.advanceTo now
      exact ⟨congrArg Reply.fired hfired, .intro hcommands hstage⟩
  | reset =>
    cases h with
    | intro hcommands hshifted => exact ⟨rfl, .intro hcommands hshifted.reset⟩
  | endTakeover =>
    cases h with
    | intro hcommands hshifted => exact ⟨rfl, .intro hcommands hshifted⟩
  | complete line =>
    refine ⟨?_, h⟩
    cases h
    rfl
  | prompt =>
    refine ⟨?_, h⟩
    cases h
    rfl

theorem serveAll (h : s.Alike k t) (later : List Request) :
    (s.serveAll later).1 = (t.serveAll later).1 ∧
      (s.serveAll later).2.Alike k (t.serveAll later).2 := by
  induction later generalizing s t with
  | nil => exact ⟨rfl, h⟩
  | cons q later ih =>
    obtain ⟨hreply, hnext⟩ := h.serve q
    obtain ⟨hreplies, hlast⟩ := ih hnext
    exact ⟨congrArg₂ List.cons hreply hreplies, hlast⟩

end Alike

end Session

/-! ## What stays as it was in the beginning -/

/-- Nothing changes the speeds of a stage. -/
theorem lasts_paced (pace : Pace) (commands : CommandTable Body) :
    Lasts commands fun _ s => s.Paced pace where
  plan i _ _ hs := hs.run _ _ i
  write _ hs := hs
  stop _ hs := hs
  stopAll hs := hs
  clear hs := hs
  reset hs := hs
  advance now hs := hs.advanceTo now

theorem Session.keeps_config (config : Config) (echo : Bool) :
    (executor echo).Keeps fun s => s.config = config where
  run _ _ hs := hs
  finished s output hs := (config_finished echo s output).trans hs

theorem Life.config_after (config : Config) (commands : CommandTable Body) (events : List Event) :
    ((start config commands).after events).session.config = config := by
  refine List.foldlRecOn (motive := fun l : Life => l.session.config = config) events _ rfl
    fun l hl e _ => ?_
  cases e with
  | submit line => exact (Session.keeps_config config true).runLine _ (s := l.session.typed line) hl
  | run line => exact (Session.keeps_config config false).runLine _ hl
  | perform n step =>
    unfold Life.next
    dsimp only
    split
    · exact hl
    · exact hl
  | _ => exact hl

/-! ## A new session at a time -/

/-- Moving a clock that no timer waits for. -/
theorem Animation.Stage.advanceTo_of_idle {s : Stage} {target : Nat}
    (hpop : s.timers.pop? target = none) :
    s.advanceTo target = (0, { s with timers := s.timers.settle target }) :=
  (Drains.arrive hpop).advanceFuel_eq _ 0 (Nat.zero_le _)

/-- A session after a reset is a new one at its time, up to the numbers of animations. -/
theorem Session.alike_reset {config : Config} {s : Session} {hs : List Handle}
    (hconfig : s.config = config) (hcommands : s.commands = Builtin.table) (hhosts : s.stage.Hosts hs)
    (hpace : s.stage.Paced config.pace) (hnow : s.stage.timers.now ≤ Queue.lastTime) :
    ((Session.new config).tick s.stage.timers.now).2.Alike s.stage.begun s.reset := by
  have htick : (Stage.new config.pace).advanceTo s.stage.timers.now =
      (0, { Stage.new config.pace with
        timers := (Stage.new config.pace).timers.settle s.stage.timers.now }) :=
    Stage.advanceTo_of_idle rfl
  have hidle := (Stage.hosts_new config.pace).advanceTo s.stage.timers.now
  rw [htick] at hidle
  have htime : ((Stage.new config.pace).timers.settle s.stage.timers.now).now = s.stage.timers.now := by
    show max 0 (min s.stage.timers.now Queue.lastTime) = _
    rw [Nat.min_eq_left hnow, Nat.zero_max]
  have hshifted : ((Session.new config).tick s.stage.timers.now).2.stage.Shifted s.stage.begun
      s.stage.reset := by
    show Stage.Shifted s.stage.reset.begun ((Stage.new config.pace).advanceTo _).2 s.stage.reset
    rw [htick]
    exact ⟨[], hs, Stage.alike_of_empty hidle hhosts.reset hpace.1.symm hpace.2.symm htime rfl rfl rfl
      rfl hhosts.isActive_stopAll⟩
  have hsame : s.reset =
      { ((Session.new config).tick s.stage.timers.now).2 with stage := s.stage.reset } := by
    subst hconfig
    show Session.mk ⟨⟨Seed.tree s.config.home, _⟩, s.stage.reset⟩ s.config s.commands = _
    rw [hcommands]
    rfl
  rw [hsame]
  exact .intro rfl hshifted

/-- After anything that a host has done to a session with the built-in commands, a reset forgets all but
the clock: whatever the host asks then, it gets the replies that a new session gives whose clock has been
moved to the same time, and is left with the same files, shell, time and number of active animations.
The transcript is that of the new session, the ids of its regions being numbered on. -/
theorem reset_forgets (config : Config) {events : List Event} (hinput : ∀ e ∈ events, e.IsInput)
    (later : List Request) :
    let s := ((Life.start config Builtin.table).after events).session
    let fresh := ((Session.new config).tick s.stage.timers.now).2
    let r := s.reset.serveAll later
    let f := fresh.serveAll later
    r.1 = f.1 ∧ r.2.toDesk = f.2.toDesk ∧ r.2.stage.timers.now = f.2.stage.timers.now ∧
      r.2.stage.registry.active.size = f.2.stage.registry.active.size ∧
      f.2.transcript.Alike s.stage.begun r.2.transcript := by
  intro s fresh r f
  obtain ⟨hcommands, hhosts⟩ := lasts_hosts.after config (Stage.hosts_new config.pace) hinput
  obtain ⟨-, hpace⟩ := (lasts_paced config.pace Builtin.table).after config ⟨rfl, rfl⟩ hinput
  have hconfig : s.config = config := Life.config_after config Builtin.table events
  have hnow := (Life.reachable_after config hinput).sound.settled.valid.now_le
  have halike : fresh.Alike s.stage.begun s.reset :=
    Session.alike_reset hconfig hcommands hhosts hpace hnow
  obtain ⟨hreplies, hlast⟩ := halike.serveAll later
  exact ⟨hreplies.symm, hlast.desk.symm, hlast.shifted.now.symm, hlast.shifted.size_active.symm,
    hlast.shifted.transcript⟩

/-- A visitor has set an alias, run two animations and started a game. After a reset the next animation
has the number 2, and in a new session 0; else nothing differs. -/
theorem reset_forgets_game :
    let events : List Event :=
      [.submit "alias l=ls; matrix".toList, .tick 500, .submit "spinner && snake".toList]
    let later : List Request :=
      [.submit "l; spinner".toList, .tick 1500, .complete "cd p".toList, .prompt, .run "history".toList]
    let s := ((Life.start {} Builtin.table).after events).session
    let r := s.reset.serveAll later
    let f := ((Session.new {}).tick s.stage.timers.now).2.serveAll later
    (r.1 = f.1 ∧ r.2.toDesk = f.2.toDesk ∧ f.2.transcript.Alike s.stage.begun r.2.transcript) ∧
      s.shell.takeover.isSome = true ∧ s.stage.registry.active.size = 2 ∧
      r.2.transcript.ids = ["spinner-500-2".toList] ∧ f.2.transcript.ids = ["spinner-500-0".toList] := by
  intro events later
  have hinput : ∀ e ∈ events, e.IsInput := by
    simp only [events, List.forall_mem_cons]
    exact ⟨.submit _, .tick _, .submit _, List.forall_mem_nil _⟩
  obtain ⟨hreplies, hdesk, -, -, htranscript⟩ := reset_forgets {} hinput later
  refine ⟨⟨hreplies, hdesk, htranscript⟩, ?_⟩
  decide +kernel

end VirtualTerminal
