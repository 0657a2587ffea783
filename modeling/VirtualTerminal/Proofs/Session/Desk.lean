import VirtualTerminal.Proofs.Session.Repaint

/-!
# What sessions keep of their desks

Most of the built-in commands change nothing on a desk, or only parts of the shell that do not say where
it is. So a property that looks at nothing else of the shell than that is kept by all of them if `cd` and
the commands that change files keep it (`Builtin.each_keeps`), and a property of the aliases alone if the
two commands that set and remove them do (`Builtin.each_keeps_aliases`). What all commands keep, all that
a host does to a session with the built-in commands keeps (`Life.hasDesk_after`).
-/

namespace VirtualTerminal

/-! ## Desks -/

/-- Whether a shell is where another one was. -/
structure Shell.Stays (s s' : Shell) : Prop where
  home : s'.home = s.home
  cwd : s'.cwd = s.cwd

/-- Whether a property of desks looks at nothing else of the shell than where it is. -/
structure Desk.OfPlace (P : Desk → Prop) : Prop where
  withShell : ∀ {d : Desk} {s : Shell}, P d → d.shell.Stays s → P { d with shell := s }

/-- Whether a shell is where another one was, with the same aliases. -/
structure Shell.Resembles (s s' : Shell) : Prop extends s.Stays s' where
  aliases : s'.aliases = s.aliases

/-- Whether a property of desks looks at nothing else of the shell than where it is and its aliases. -/
structure Desk.OfShell (P : Desk → Prop) : Prop where
  withShell : ∀ {d : Desk} {s : Shell}, P d → d.shell.Resembles s → P { d with shell := s }

theorem Desk.OfPlace.ofShell {P : Desk → Prop} (hP : Desk.OfPlace P) : Desk.OfShell P where
  withShell hd hs := hP.withShell hd hs.toStays

/-- Whether a property of desks looks at the aliases only. -/
structure Desk.OfAliases (P : Desk → Prop) : Prop where
  withDesk : ∀ {d d' : Desk}, P d → d'.shell.aliases = d.shell.aliases → P d'

theorem Desk.OfAliases.ofShell {P : Desk → Prop} (hP : Desk.OfAliases P) : Desk.OfShell P where
  withShell hd hs := hP.withDesk hd hs.aliases

/-! ## Commands -/

/-- Whether a handler keeps a property of desks, whatever it is asked to do. -/
def Handler.Keeps (P : Desk → Prop) (f : Handler) : Prop :=
  ∀ c d, P d → P (f c d).2

theorem Handler.keeps_showing {P : Desk → Prop} (f : Context → Desk → Output) :
    (Handler.showing f).Keeps P :=
  fun _ _ hd => hd

theorem Handler.keeps_doing {P : Desk → Prop} {f : Context → Desk → Output × Desk}
    (hf : ∀ c d, P d → P (f c d).2) : (Handler.doing f).Keeps P :=
  hf

/-- Whether a body keeps a property of desks; an animation does not change the desk. -/
def Body.Keeps (P : Desk → Prop) : Body → Prop
  | .handler f => f.Keeps P
  | .animation .. => True

namespace Builtin

variable {P : Desk → Prop}

theorem stays_aliasArgs (shown : List Line) (args : List Text) (s : Shell) :
    s.Stays (aliasArgs shown args s).2 := by
  induction args generalizing shown s with
  | nil => exact ⟨rfl, rfl⟩
  | cons arg rest ih =>
    unfold aliasArgs
    split
    · split
      next name expansion _ s' hdefine =>
        unfold defineAlias at hdefine
        dsimp only at hdefine
        split at hdefine
        · cases hdefine
        · split at hdefine
          · cases hdefine
          · cases hdefine
            exact ⟨(ih shown _).home, (ih shown _).cwd⟩
      · exact ⟨rfl, rfl⟩
    · split
      · exact ih _ s
      · exact ⟨rfl, rfl⟩

theorem stays_unaliasArgs (report : Output) (args : List Text) (s : Shell) :
    s.Stays (unaliasArgs report args s).2 := by
  induction args generalizing report s with
  | nil => exact ⟨rfl, rfl⟩
  | cons name rest ih =>
    unfold unaliasArgs
    split
    · exact ⟨(ih report _).home, (ih report _).cwd⟩
    · exact ih _ s

/-! What the commands that change files or the working directory do, as far as a desk shows it. -/

theorem keeps_cd_of (hhome : ∀ d, P d → P { d with shell := { d.shell with cwd := d.shell.home } })
    (hdir : ∀ d typed, P d → d.files.stat (resolve d typed) = .ok .dir →
      P { d with shell := { d.shell with cwd := resolve d typed } }) : cd.body.Keeps P := by
  refine Handler.keeps_doing fun c d hd => ?_
  dsimp only
  split
  · exact hhome d hd
  · split
    next hstat => exact hdir d _ hd hstat
    · exact hd
    · exact hd

theorem keeps_mkdir_of
    (h : ∀ parents args d, P d → P { d with files := (changing (mkdirOne parents) args d).2 }) :
    mkdir.body.Keeps P := by
  refine Handler.keeps_doing fun c d hd => ?_
  dsimp only
  split
  · exact hd
  · exact h _ _ d hd

theorem keeps_touch_of (h : ∀ args d, P d → P { d with files := (changing touchOne args d).2 }) :
    touch.body.Keeps P := by
  refine Handler.keeps_doing fun c d hd => ?_
  dsimp only
  split
  · exact hd
  · exact h _ d hd

theorem keeps_rm_of (h : ∀ force recursive args d, P d →
      P (leaveRemoved { d with files := (changing (rmOne force recursive) args d).2 })) :
    rm.body.Keeps P := by
  refine Handler.keeps_doing fun c d hd => ?_
  dsimp only
  split
  · exact hd
  · exact h _ _ _ d hd

/-- All other commands change nothing on a desk. -/
theorem each_keeps_of_changing (hclear : clear.body.Keeps P) (hhistory : history.body.Keeps P)
    (halias : aliasCommand.body.Keeps P) (hunalias : unalias.body.Keeps P) (hcrt : crt.body.Keeps P)
    (hsnake : snake.body.Keeps P) (hcd : cd.body.Keeps P) (hmkdir : mkdir.body.Keeps P)
    (htouch : touch.body.Keeps P) (hrm : rm.body.Keeps P) :
    table.Each fun c => c.body.Keeps P := by
  refine CommandTable.Each.registerMany (fun name c h => by cases h) ?_
  -- in the order in which the commands are listed
  have hshowing : ∀ f : Context → Desk → Output, (Handler.showing f).Keeps P :=
    fun f => Handler.keeps_showing f
  unfold all
  simp only [List.forall_mem_cons]
  exact ⟨hshowing _, hclear, hshowing _, hhistory, halias, hunalias, hshowing _, hshowing _, hshowing _,
    trivial, trivial, hcrt, hshowing _, hsnake, hshowing _, hshowing _, hshowing _, hshowing _, hcd,
    hshowing _, hshowing _, hmkdir, htouch, hrm, hshowing _, List.forall_mem_nil _⟩

theorem keeps_clear (hP : Desk.OfPlace P) : clear.body.Keeps P :=
  fun _ _ hd => hP.withShell hd ⟨rfl, rfl⟩

theorem keeps_crt (hP : Desk.OfPlace P) : crt.body.Keeps P :=
  fun _ _ hd => hP.withShell hd ⟨rfl, rfl⟩

theorem keeps_snake (hP : Desk.OfPlace P) : snake.body.Keeps P := by
  refine Handler.keeps_doing fun c d hd => ?_
  dsimp only
  split
  · exact hd
  · exact hP.withShell hd ⟨rfl, rfl⟩

theorem keeps_history (hP : Desk.OfPlace P) : history.body.Keeps P := by
  refine Handler.keeps_doing fun c d hd => ?_
  split
  · exact hP.withShell hd ⟨rfl, rfl⟩
  · exact hd

theorem keeps_aliasCommand (hP : Desk.OfPlace P) : aliasCommand.body.Keeps P := by
  refine Handler.keeps_doing fun c d hd => ?_
  dsimp only
  split
  · exact hd
  · exact hd
  · exact hP.withShell hd (stays_aliasArgs _ _ _)

theorem keeps_unalias (hP : Desk.OfPlace P) : unalias.body.Keeps P := by
  refine Handler.keeps_doing fun c d hd => ?_
  dsimp only
  split
  · exact hd
  · exact hP.withShell hd (stays_unaliasArgs _ _ _)

theorem each_keeps (hP : Desk.OfPlace P) (hcd : cd.body.Keeps P) (hmkdir : mkdir.body.Keeps P)
    (htouch : touch.body.Keeps P) (hrm : rm.body.Keeps P) :
    table.Each fun c => c.body.Keeps P :=
  each_keeps_of_changing (keeps_clear hP) (keeps_history hP) (keeps_aliasCommand hP) (keeps_unalias hP)
    (keeps_crt hP) (keeps_snake hP) hcd hmkdir htouch hrm

/-! Of the commands that change something, these leave the aliases as they are. -/

theorem keeps_of_aliases (hP : Desk.OfAliases P) {f : Context → Desk → Output × Desk}
    (hf : ∀ c d, (f c d).2.shell.aliases = d.shell.aliases) : (Handler.doing f).Keeps P :=
  fun c d hd => hP.withDesk hd (hf c d)

theorem keeps_aliases_history (hP : Desk.OfAliases P) : history.body.Keeps P := by
  refine keeps_of_aliases hP fun c d => ?_
  split <;> rfl

theorem keeps_aliases_snake (hP : Desk.OfAliases P) : snake.body.Keeps P := by
  refine keeps_of_aliases hP fun c d => ?_
  dsimp only
  split <;> rfl

theorem aliases_leaveRemoved (d : Desk) : (leaveRemoved d).shell.aliases = d.shell.aliases := by
  unfold leaveRemoved
  split <;> rfl

theorem each_keeps_aliases (hP : Desk.OfAliases P) (halias : aliasCommand.body.Keeps P)
    (hunalias : unalias.body.Keeps P) : table.Each fun c => c.body.Keeps P :=
  each_keeps_of_changing (keeps_of_aliases hP fun _ _ => rfl) (keeps_aliases_history hP) halias hunalias
    (keeps_of_aliases hP fun _ _ => rfl) (keeps_aliases_snake hP)
    (keeps_cd_of (fun _ hd => hP.withDesk hd rfl) fun _ _ hd _ => hP.withDesk hd rfl)
    (keeps_mkdir_of fun _ _ _ hd => hP.withDesk hd rfl) (keeps_touch_of fun _ _ hd => hP.withDesk hd rfl)
    (keeps_rm_of fun _ _ _ _ hd => hP.withDesk hd (aliases_leaveRemoved _))

end Builtin

/-! ## Sessions -/

namespace Session

variable {config : Config} {P : Desk → Prop} {s : Session}

/-- Whether a session has the built-in commands, a given configuration, and a desk with a property. -/
structure HasDesk (config : Config) (P : Desk → Prop) (s : Session) : Prop where
  commands_eq : s.commands = Builtin.table
  config_eq : s.config = config
  desk : P s.toDesk

theorem HasDesk.execute (hs : s.HasDesk config P) (hP : Builtin.table.Each fun c => c.body.Keeps P)
    (i : Invocation) (echo : Bool) : ((executor echo).run s i).2.HasDesk config P := by
  obtain ⟨-, heq⟩ | ⟨c, f, context, hget, hbody, heq⟩ | ⟨c, name, plan, -, -, heq⟩ :=
    run_cases echo s i
  · rw [heq]
    exact hs
  · rw [hs.commands_eq] at hget
    have hkeeps : c.body.Keeps P := hP.get? hget
    rw [hbody] at hkeeps
    rw [heq]
    exact ⟨hs.commands_eq, hs.config_eq, hkeeps context s.toDesk hs.desk⟩
  · rw [heq]
    exact ⟨hs.commands_eq, hs.config_eq, hs.desk⟩

theorem HasDesk.clearIfRequested (hs : s.HasDesk config P) (hP : Desk.OfShell P) :
    s.clearIfRequested.HasDesk config P := by
  unfold Session.clearIfRequested
  split
  · exact ⟨hs.commands_eq, hs.config_eq, hP.withShell hs.desk ⟨⟨rfl, rfl⟩, rfl⟩⟩
  · exact hs

theorem keeps_hasDesk (hP : Desk.OfShell P) (heach : Builtin.table.Each fun c => c.body.Keeps P)
    (echo : Bool) : (executor echo).Keeps (HasDesk config P) where
  run _ i hs := hs.execute heach i echo
  finished s output hs := by
    obtain ⟨hcommands, hconfig, hdesk⟩ := hs.clearIfRequested hP
    cases echo with
    | false => exact ⟨hcommands, hconfig, hdesk⟩
    | true => exact ⟨hcommands, hconfig, hdesk⟩

theorem HasDesk.typed (hs : s.HasDesk config P) (hP : Desk.OfShell P) (line : Text) :
    (s.typed line).HasDesk config P := by
  refine ⟨hs.commands_eq, hs.config_eq, hP.withShell hs.desk ?_⟩
  unfold Shell.pushHistory
  dsimp only
  split <;> exact ⟨⟨rfl, rfl⟩, rfl⟩

theorem HasDesk.reset (hs : s.HasDesk config P) (hnew : P (Terminal.new config).toDesk) :
    s.reset.HasDesk config P := by
  refine ⟨hs.commands_eq, hs.config_eq, ?_⟩
  show P (Terminal.new s.config).toDesk
  rw [hs.config_eq]
  exact hnew

end Session

namespace Life

variable {config : Config} {P : Desk → Prop} {l : Life}

theorem hasDesk_next (hl : l.session.HasDesk config P) (hP : Desk.OfShell P)
    (heach : Builtin.table.Each fun c => c.body.Keeps P) (hnew : P (Terminal.new config).toDesk)
    (e : Event) : (l.next e).session.HasDesk config P := by
  have hcommands := hl.commands_eq
  have hconfig := hl.config_eq
  have hdesk := hl.desk
  cases e with
  | submit line => exact (Session.keeps_hasDesk hP heach true).runLine _ (hl.typed hP line)
  | run line => exact (Session.keeps_hasDesk hP heach false).runLine _ hl
  | tick now => exact ⟨hcommands, hconfig, hdesk⟩
  | reset => exact hl.reset hnew
  | endTakeover => exact ⟨hcommands, hconfig, hP.withShell hdesk ⟨⟨rfl, rfl⟩, rfl⟩⟩
  | manage tasks => exact ⟨hcommands, hconfig, hdesk⟩
  | rewrite t => exact ⟨hcommands, hconfig, hdesk⟩
  | perform n step =>
    unfold Life.next
    dsimp only
    split
    · exact ⟨hcommands, hconfig, hdesk⟩
    · exact ⟨hcommands, hconfig, hdesk⟩

/-- What holds of a new desk and is kept by the built-in commands holds whatever happens. -/
theorem hasDesk_after (hP : Desk.OfShell P) (heach : Builtin.table.Each fun c => c.body.Keeps P)
    (hnew : P (Terminal.new config).toDesk) (events : List Event) :
    ((start config Builtin.table).after events).session.HasDesk config P :=
  List.foldlRecOn (motive := fun l : Life => l.session.HasDesk config P) events _
    ⟨rfl, rfl, hnew⟩ fun _ hl e _ => hasDesk_next hl hP heach hnew e

end Life

end VirtualTerminal
