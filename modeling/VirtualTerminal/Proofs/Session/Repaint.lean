import Mathlib.Data.List.Nodup
import VirtualTerminal.Proofs.Animation.Repaint
import VirtualTerminal.Proofs.Session.Reachable
import VirtualTerminal.Proofs.Session.Submit

/-!
# What ticks repaint

A tick repaints the regions of animations that are active when it begins, and changes nothing else in
the transcript. An animation that is not active never becomes so again, whatever the host does, so no
later tick changes its region, and a timer of it that is still pending neither paints nor schedules
(`ticks_repaint_active`). To tell whose a region is, the animations that lines begin are kept beside
the session (`Life`). Events bring about every session that can be reached with the built-in commands
(`lived_of_reachable`).
-/

namespace VirtualTerminal

open Animation

namespace Session

/-! ## The animations that a line begins -/

/-- The animation that the command of an invocation begins. -/
def begins (s : Session) (i : Invocation) : List Handle :=
  match (s.commands.get? i.command).map Command.body with
  | some (.animation name _) => [(s.stage.launch name.lower).1]
  | _ => []

/-- The animations that running a line begins, in order. -/
def begunBy (s : Session) (line : Text) (echo : Bool) : List Handle :=
  ((executor echo).segmentsRun (s.shell.expandLine line) s).flatMap fun r =>
    ((executor echo).commandsOf r.command r.before).flatMap fun c => c.before.begins c.invocation

end Session

/-! ## The life of a session -/

/-- A session and the animations that have been begun in it, in order. -/
structure Life where
  session : Session
  animations : List Handle := []

/-- What a host does to a session. -/
inductive Event where
  | submit (line : Text)
  | run (line : Text)
  | tick (now : Nat)
  | reset
  | endTakeover
  /-- The host may stop animations and register others, with cleanups of their own. -/
  | manage (tasks : List Task)
  /-- The host may write into the transcript. -/
  | rewrite (t : Transcript)
  /-- An animation may at any time do any step, as from a timer of its own. -/
  | perform (n : Nat) (step : Step)

namespace Life

/-- A new session with any commands. -/
def start (config : Config) (commands : CommandTable Body) : Life :=
  { session := Session.new config commands }

/-- The session after an event. -/
def next (l : Life) : Event → Life
  | .submit line =>
    ⟨(l.session.submit line).2, l.animations ++ (l.session.typed line).begunBy line true⟩
  | .run line => ⟨(l.session.run line).2, l.animations ++ l.session.begunBy line false⟩
  | .tick now => { l with session := (l.session.tick now).2 }
  | .reset => { l with session := l.session.reset }
  | .endTakeover => { l with session := l.session.endTakeover }
  | .manage tasks =>
    let stage := l.session.stage
    let registry := stage.registry.run (tasks.map .task)
    { l with session := { l.session with stage := { stage with registry := registry } } }
  | .rewrite t =>
    { l with session := { l.session with stage := { l.session.stage with transcript := t } } }
  | .perform n step =>
    match l.animations[n]? with
    | none => l
    | some h => { l with session := { l.session with stage := l.session.stage.perform h step } }

/-- The session after events. -/
def after (l : Life) (events : List Event) : Life :=
  events.foldl next l

end Life

namespace Session

variable {s t : Session} {hs : List Handle} {echo : Bool}

/-! ## Lines -/

/-- A command leaves the stage as it is, or it begins one animation and runs its plan. -/
theorem stage_execute (echo : Bool) (s : Session) (i : Invocation) :
    (((executor echo).run s i).2.stage = s.stage ∧ s.begins i = []) ∨
      ∃ (c : Command Body) (name : Text) (plan : Plan), s.commands.get? i.command = some c ∧
        c.body = .animation name plan ∧
        ((executor echo).run s i).2.stage = (plan.run name i s.stage).2 ∧
        s.begins i = [(s.stage.launch name.lower).1] := by
  unfold begins
  obtain ⟨hget, heq⟩ | ⟨c, f, context, hget, hbody, heq⟩ | ⟨c, name, plan, hget, hbody, heq⟩ :=
    run_cases echo s i
  · rw [hget, heq]
    exact .inl ⟨rfl, rfl⟩
  · rw [hget, Option.map_some, hbody, heq]
    exact .inl ⟨rfl, rfl⟩
  · rw [hget, Option.map_some, hbody, heq]
    exact .inr ⟨c, name, plan, rfl, hbody, rfl, rfl⟩

/-- Whether running commands and taking note of outputs keep a property of a session and of the
animations begun in it. -/
structure Follows (echo : Bool) (P : List Handle → Session → Prop) : Prop where
  run : ∀ {hs s} i, P hs s → P (hs ++ s.begins i) ((executor echo).run s i).2
  finished : ∀ {hs s} output, P hs s → P hs ((executor echo).finished s output)

namespace Follows

variable {P : List Handle → Session → Prop}

theorem trace (hP : Follows echo P) {ran : List (RanCommand Session)}
    (h : (executor echo).Trace s ran t) (hs' : P hs s) :
    P (hs ++ ran.flatMap fun c => c.before.begins c.invocation) t := by
  induction h generalizing hs with
  | nil => rwa [List.flatMap_nil, List.append_nil]
  | @cons s t u i result ran run _ ih =>
    have hexecute := hP.run i hs'
    rw [run] at hexecute
    rw [List.flatMap_cons, ← List.append_assoc]
    exact ih hexecute

theorem proceeds (hP : Follows echo P) {ran : List (RanSegment Session)}
    (h : (executor echo).Proceeds s ran t) (hs' : P hs s) : P (hs ++ ran.flatMap fun r =>
      ((executor echo).commandsOf r.command r.before).flatMap fun c =>
        c.before.begins c.invocation) t := by
  induction h generalizing hs with
  | nil => rwa [List.flatMap_nil, List.append_nil]
  | @cons command s t output ran _ ih =>
    have htrace := hP.trace ((executor echo).trace_commandsOf command s) hs'
    rw [List.flatMap_cons, ← List.append_assoc]
    exact ih (hP.finished output htrace)

/-- What commands and outputs keep, lines keep. -/
theorem line (hP : Follows echo P) (hs' : P hs s) (line : Text) :
    P (hs ++ s.begunBy line echo) (s.run line echo).2 :=
  hP.proceeds ((executor echo).proceeds_segmentsRun _ s) hs'

end Follows

theorem follows_owns (echo : Bool) : Follows echo fun hs s => s.stage.Owns hs where
  run {hs s} i ho := by
    rcases stage_execute echo s i with ⟨hstage, hbegins⟩ | ⟨c, name, plan, -, -, hstage, hbegins⟩
    · rw [hstage, hbegins, List.append_nil]
      exact ho
    · rw [hstage, hbegins]
      exact ho.run plan name i
  finished {hs s} output ho :=
    stage_finished echo s output (Q := Stage.Owns hs) (·.withTimers rfl fun _ => .inl)
      (fun _ _ ho => ho.withTimers rfl fun _ => .inl) ho

/-- A line makes no animation active that was begun before. -/
theorem keeps_quietens (echo : Bool) (stage : Stage) :
    (executor echo).Keeps fun s => stage.Quietens s.stage where
  run s i hquiet := by
    rcases stage_execute echo s i with ⟨hstage, -⟩ | ⟨c, name, plan, -, -, hstage, -⟩
    · rw [hstage]
      exact hquiet
    · rw [hstage]
      exact hquiet.trans (Stage.quietens_plan plan name i s.stage)
  finished s output hquiet :=
    stage_finished echo s output (Q := stage.Quietens) (·.trans (s.stage.quietens_run _))
      (fun _ _ hquiet => hquiet) hquiet

end Session

/-! ## Events -/

namespace Life

variable {l : Life}

/-- Whether a life knows the animations of its session. -/
def Known (l : Life) : Prop :=
  l.session.stage.Owns l.animations

theorem known_start (config : Config) (commands : CommandTable Body) :
    (start config commands).Known :=
  Stage.owns_new config.pace

theorem Known.next (hl : l.Known) (e : Event) : (l.next e).Known := by
  have hkeep : ∀ stage : Stage, stage.begun = l.session.stage.begun →
      stage.timers.pending ⊆ l.session.stage.timers.pending → stage.Owns l.animations :=
    fun _ hbegun hpending => hl.withTimers hbegun fun _ ht => .inl (hpending ht)
  cases e with
  | submit line =>
    have htyped : (l.session.typed line).stage.Owns l.animations :=
      hkeep _ rfl (List.Subset.refl _)
    exact (Session.follows_owns true).line htyped line
  | run line => exact (Session.follows_owns false).line hl line
  | tick now => exact Stage.Owns.advanceTo hl now
  | reset => exact hkeep _ rfl (List.nil_subset _)
  | endTakeover => exact hl
  | manage tasks => exact hkeep _ rfl (List.Subset.refl _)
  | rewrite t => exact hkeep _ rfl (List.Subset.refl _)
  | perform n step =>
    unfold Life.next
    dsimp only
    split
    · exact hl
    next h hh => exact Stage.Owns.perform hl (List.mem_of_getElem? hh) step

theorem quietens_next (l : Life) (e : Event) :
    l.session.stage.Quietens (l.next e).session.stage := by
  cases e with
  | submit line =>
    exact (Session.keeps_quietens true l.session.stage).runLine _ (s := l.session.typed line) (.refl _)
  | run line => exact (Session.keeps_quietens false l.session.stage).runLine _ (.refl _)
  | tick now => exact l.session.stage.quietens_advanceTo now
  | reset => exact l.session.stage.quietens_run _
  | endTakeover => exact .refl _
  | manage tasks => exact l.session.stage.quietens_run _
  | rewrite t => exact .refl _
  | perform n step =>
    unfold Life.next
    dsimp only
    split
    · exact .refl _
    next h _ => exact l.session.stage.quietens_perform h step

theorem animations_next (l : Life) (e : Event) : l.animations ⊆ (l.next e).animations := by
  cases e with
  | submit line => exact List.subset_append_left _ _
  | run line => exact List.subset_append_left _ _
  | perform n step =>
    unfold Life.next
    dsimp only
    split
    · exact List.Subset.refl _
    · exact List.Subset.refl _
  | _ => exact List.Subset.refl _

theorem Known.after (hl : l.Known) (events : List Event) : (l.after events).Known :=
  List.foldlRecOn (motive := Known) events _ hl fun _ h e _ => h.next e

theorem quietens_after (l : Life) (events : List Event) :
    l.session.stage.Quietens (l.after events).session.stage :=
  List.foldlRecOn (motive := fun l' : Life => l.session.stage.Quietens l'.session.stage) events _
    (.refl _) fun l' hquiet e _ => hquiet.trans (l'.quietens_next e)

theorem animations_after (l : Life) (events : List Event) :
    l.animations ⊆ (l.after events).animations :=
  List.foldlRecOn (motive := fun l' : Life => l.animations ⊆ l'.animations) events _
    (List.Subset.refl _) fun l' hsub e _ => List.Subset.trans hsub (l'.animations_next e)

/-- Whether a session is one with the built-in commands after events. -/
def Lived (s : Session) : Prop :=
  ∃ (config : Config) (events : List Event),
    ((start config Builtin.table).after events).session = s

theorem Lived.next {s s' : Session} (h : Lived s) (e : Event)
    (he : ∀ l : Life, l.session = s → (l.next e).session = s') : Lived s' := by
  obtain ⟨config, events, hs⟩ := h
  refine ⟨config, events ++ [e], ?_⟩
  unfold after
  rw [List.foldl_concat]
  exact he _ hs

/-- Events bring about every session that can be reached with the built-in commands. -/
theorem lived_of_reachable {s : Session} (h : s.Reachable) : Lived s := by
  induction h with
  | new config => exact ⟨config, [], rfl⟩
  | submit _ line ih => exact ih.next (.submit line) fun _ hl => hl ▸ rfl
  | run _ line ih => exact ih.next (.run line) fun _ hl => hl ▸ rfl
  | tick _ now ih => exact ih.next (.tick now) fun _ hl => hl ▸ rfl
  | reset _ ih => exact ih.next .reset fun _ hl => hl ▸ rfl
  | endTakeover _ ih => exact ih.next .endTakeover fun _ hl => hl ▸ rfl
  | manage _ tasks ih => exact ih.next (.manage tasks) fun _ hl => hl ▸ rfl
  | rewrite _ t ih => exact ih.next (.rewrite t) fun _ hl => hl ▸ rfl

/-- A tick repaints regions of active animations only. -/
theorem Known.repaints_tick (hl : l.Known) (now : Nat) :
    l.session.transcript.Repaints
      (fun id => ∃ h ∈ l.animations, h.id = id ∧ l.session.stage.isActive h = true)
      (l.session.tick now).2.transcript :=
  Stage.repaints_advanceTo now fun t ht hactive => ⟨t.task.handle, hl.timers t ht, rfl, hactive⟩

end Life

/-- Whatever a host does to a session, with any commands: no two of the animations begun in it have
one id, and a tick keeps the transcript but for what the regions of animations show that are active
when it begins. Once an animation is not active, it never is again: a tick leaves its region as it is,
and a timer of it that fires neither paints nor schedules. -/
theorem ticks_repaint_active (config : Config) (commands : CommandTable Body)
    (events : List Event) :
    let l := (Life.start config commands).after events
    (l.animations.map (·.id)).Nodup ∧
      (∀ now, l.session.transcript.Repaints
        (fun id => ∃ h ∈ l.animations, h.id = id ∧ l.session.stage.isActive h = true)
        (l.session.tick now).2.transcript) ∧
      ∀ h ∈ l.animations, l.session.stage.isActive h = false → ∀ later : List Event,
        let s := (l.after later).session
        s.stage.isActive h = false ∧ ∀ now,
          s.transcript.Repaints (· ≠ h.id) (s.tick now).2.transcript ∧
            ∀ f ∈ s.stage.firings now, f.2.handle = h →
              (f.1.play f.2).transcript = f.1.transcript ∧ (f.1.play f.2).timers = f.1.timers := by
  intro l
  have hl : l.Known := (Life.known_start config commands).after events
  refine ⟨hl.nodup_ids, hl.repaints_tick, fun h hh hinactive later => ?_⟩
  intro s
  have hlater : (l.after later).Known := hl.after later
  have hs : s.stage.isActive h = false := l.quietens_after later h hinactive
  refine ⟨hs, fun now => ⟨(hlater.repaints_tick now).mono ?_, fun f hf hhandle => ?_⟩⟩
  · rintro id ⟨g, hg, rfl, hactive⟩ heq
    -- the only animation with that id is not active
    obtain rfl := List.inj_on_of_nodup_map hlater.nodup_ids hg (l.animations_after later hh) heq
    rw [hs] at hactive
    cases hactive
  · refine Stage.play_of_inactive ?_
    rw [hhandle]
    exact Stage.quietens_of_mem_firings hf h hs

/-- Two spinners, of which the first is stopped. -/
def twoSpinners : List Event :=
  [.submit "spinner".toList, .submit "spinner".toList, .perform 0 .finish]

/-- Of two spinners the first has been stopped: a tick repaints the second one only. -/
theorem ticks_repaint_active_spinners :
    let l := (Life.start {} Builtin.table).after twoSpinners
    l.animations.map l.session.stage.isActive = [false, true] ∧
      (l.session.tick 500).2.transcript ≠ l.session.transcript ∧
      ∃ h rest, l.animations = h :: rest ∧
        l.session.transcript.Repaints (· ≠ h.id) (l.session.tick 500).2.transcript := by
  have hstopped := (ticks_repaint_active {} Builtin.table twoSpinners).2.2
  have hactive : (let l := (Life.start {} Builtin.table).after twoSpinners
    l.animations.map l.session.stage.isActive = [false, true]) := by decide +kernel
  have hchanged : (let l := (Life.start {} Builtin.table).after twoSpinners
    (l.session.tick 500).2.transcript ≠ l.session.transcript) := by decide +kernel
  generalize (Life.start {} Builtin.table).after twoSpinners = l at hstopped hactive hchanged ⊢
  obtain ⟨h, rest, hanimations, hinactive, -⟩ := List.map_eq_cons_iff.mp hactive
  have hmem : h ∈ l.animations := by
    rw [hanimations]
    exact List.mem_cons_self
  obtain ⟨-, htick⟩ := hstopped h hmem hinactive []
  exact ⟨hactive, hchanged, h, rest, hanimations, (htick 500).1⟩

end VirtualTerminal
