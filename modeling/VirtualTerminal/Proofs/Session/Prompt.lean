import VirtualTerminal.Proofs.Path.Display
import VirtualTerminal.Proofs.Session.Desk

/-!
# The path in the prompt

The working directory is the home directory as it is configured, or what a path was resolved to. Of both
the prompt shows a path that leads where the working directory is (`displayed_leads_back`).
-/

namespace VirtualTerminal

variable {home : Text}

/-! ## Desks -/

/-- Whether the working directory of a desk is the home directory or a path that has been resolved. -/
structure Desk.Sited (home : Text) (d : Desk) : Prop where
  home_eq : d.shell.home = home
  cwd : d.shell.cwd = home ∨ Path.Resolved d.shell.cwd

namespace Desk

variable {d : Desk}

theorem ofPlace_sited (home : Text) : OfPlace (Sited home) where
  withShell {d s} hd hs := by
    refine ⟨hs.home.trans hd.home_eq, ?_⟩
    show s.cwd = home ∨ Path.Resolved s.cwd
    rw [hs.cwd]
    exact hd.cwd

theorem Sited.withFiles (hd : d.Sited home) (t : FileTree) : Sited home { d with files := t } :=
  ⟨hd.home_eq, hd.cwd⟩

theorem Sited.goHome (hd : d.Sited home) :
    Sited home { d with shell := { d.shell with cwd := d.shell.home } } :=
  ⟨hd.home_eq, .inl hd.home_eq⟩

end Desk

/-! ## Commands -/

namespace Builtin

variable {d : Desk}

theorem sited_cd : cd.body.Keeps (Desk.Sited home) :=
  keeps_cd_of (fun _ hd => hd.goHome) fun _ _ hd _ =>
    ⟨hd.home_eq, .inr (Path.resolved_resolve _ _ _)⟩

theorem sited_leaveRemoved (hd : d.Sited home) : (leaveRemoved d).Sited home := by
  unfold leaveRemoved
  split
  · exact hd.goHome
  · exact hd

/-- Of the commands that change files, only `rm` may also leave the working directory, and goes home. -/
theorem each_keeps_sited : table.Each fun c => c.body.Keeps (Desk.Sited home) :=
  each_keeps (Desk.ofPlace_sited home) sited_cd (keeps_mkdir_of fun _ _ _ hd => hd.withFiles _)
    (keeps_touch_of fun _ _ hd => hd.withFiles _)
    (keeps_rm_of fun _ _ _ _ hd => sited_leaveRemoved (hd.withFiles _))

end Builtin

/-! ## Sessions -/

/-- Wherever commands have led, the working directory is the configured home directory or has been
resolved. -/
theorem Life.sited_after (config : Config) (events : List Event) :
    ((start config Builtin.table).after events).session.HasDesk config (Desk.Sited config.home) :=
  Life.hasDesk_after (Desk.ofPlace_sited _).ofShell Builtin.each_keeps_sited ⟨rfl, .inl rfl⟩ events

/-- What is displayed of a resolved path is resolved to that path, whatever the home directory and the
working directory; so resolved paths that are displayed alike are the same. Whatever a host has done to a
session with the built-in commands, the path in its prompt leads from anywhere to where `.` leads in the
session, and to the very working directory unless that is the home directory and was not configured as a
resolved path. -/
theorem displayed_leads_back :
    (∀ cwd home p, Path.Resolved p → Path.resolve cwd (Path.display p home) home = p) ∧
      (∀ home p q, Path.Resolved p → Path.Resolved q →
        Path.display p home = Path.display q home → p = q) ∧
      ∀ (config : Config) (events : List Event),
        let s := ((Life.start config Builtin.table).after events).session
        ∃ shown, s.prompt = config.prompt.user ++ '@' :: config.prompt.host ++ ':' :: shown ++
            config.prompt.symbol ++ [' '] ∧
          (∀ dir, Path.resolve dir shown s.shell.home = Path.resolve s.shell.cwd ['.'] s.shell.home) ∧
          ((∀ dir, Path.resolve dir shown s.shell.home = s.shell.cwd) ∨
            s.shell.cwd = config.home ∧ ¬ Path.Resolved config.home) := by
  refine ⟨fun cwd home p hp => Path.resolve_display hp cwd home,
    fun home p q hp hq => Path.eq_of_display_eq hp hq, fun config events => ?_⟩
  intro s
  obtain ⟨-, hconfig, hhome, hcwd⟩ := Life.sited_after config events
  refine ⟨Path.display s.shell.cwd s.shell.home, ?_, fun dir => ?_, ?_⟩
  · rw [← hconfig]
    rfl
  · refine Path.resolve_display_eq ?_ dir
    rw [hhome]
    exact hcwd.imp_right fun hresolved => hresolved.absolute
  · by_cases hresolved : Path.Resolved s.shell.cwd
    · exact .inl fun dir => Path.resolve_display hresolved dir s.shell.home
    · have hat : s.shell.cwd = config.home := hcwd.resolve_right hresolved
      exact .inr ⟨hat, hat ▸ hresolved⟩

/-- A directory in the home directory is displayed with `~`, and found again from elsewhere. -/
theorem displayed_leads_back_of_notes :
    Path.display "/home/guest/notes".toList "/home/guest".toList = "~/notes".toList ∧
      Path.resolve "/etc".toList "~/notes".toList "/home/guest".toList = "/home/guest/notes".toList := by
  have hshown : Path.display "/home/guest/notes".toList "/home/guest".toList = "~/notes".toList := by
    decide +kernel
  have hresolved : Path.Resolved "/home/guest/notes".toList := by
    have hself : Path.resolve [] "/home/guest/notes".toList [] = "/home/guest/notes".toList := by
      decide +kernel
    exact hself ▸ Path.resolved_resolve _ _ _
  refine ⟨hshown, ?_⟩
  rw [← hshown]
  exact displayed_leads_back.1 _ _ _ hresolved

end VirtualTerminal
