import VirtualTerminal.Proofs.FileTree.Seed
import VirtualTerminal.Proofs.Path.Resolve
import VirtualTerminal.Proofs.Session.Desk

/-!
# The working directory

Commands change the working directory in two places: `cd` goes to a directory that it has looked up, or
home, and `rm` goes home if the working directory is gone. All other commands leave it where it is and
keep the directories that there are. So the working directory is always in normal form, and a directory
unless it is the home directory and that is gone (`cwd_isDir_or_home`).
-/

namespace VirtualTerminal

variable {home : Text}

/-! ## Desks -/

/-- Whether the files of a desk form a tree, and its working directory is in normal form and a
directory, unless it is the home directory. -/
structure Desk.Placed (home : Text) (d : Desk) : Prop where
  home_eq : d.shell.home = home
  wellFormed : d.files.WellFormed
  normal : Path.Normal d.shell.cwd
  isDir : d.files.isDir d.shell.cwd = true ∨ d.shell.cwd = home

namespace Desk

variable {d : Desk}

theorem ofPlace_placed (home : Text) : OfPlace (Placed home) where
  withShell {d s} hd hs := by
    refine ⟨hs.home.trans hd.home_eq, hd.wellFormed, ?_, ?_⟩
    · show Path.Normal s.cwd
      rw [hs.cwd]
      exact hd.normal
    · show d.files.isDir s.cwd = true ∨ s.cwd = home
      rw [hs.cwd]
      exact hd.isDir

theorem Placed.withFiles (hd : d.Placed home) {t : FileTree} (ht : t.WellFormed)
    (hstay : d.files.DirsStay t) : Placed home { d with files := t } :=
  ⟨hd.home_eq, ht, hd.normal, hd.isDir.imp_left hstay.isDir⟩

/-- A shell may go home. -/
theorem Placed.goHome (hd : d.Placed home) (hhome : Path.Normal home) {t : FileTree}
    (ht : t.WellFormed) :
    Placed home ⟨t, { d.shell with cwd := d.shell.home }⟩ := by
  refine ⟨hd.home_eq, ht, ?_, .inr hd.home_eq⟩
  show Path.Normal d.shell.home
  rw [hd.home_eq]
  exact hhome

end Desk

/-! ## Commands -/

namespace Builtin

variable {d : Desk}

/-- What a change keeps at every path that has been resolved, it keeps over all arguments. -/
theorem changing_rec {P : FileTree → Prop}
    {change : (path typed : Text) → FileTree → List Text × FileTree}
    (hchange : ∀ path typed t, Path.Resolved path → P t → P (change path typed t).2) (args : List Text)
    (hd : P d.files) : P (changing change args d).2 :=
  List.foldlRecOn (motive := fun r : List Text × FileTree => P r.2) args _ hd
    fun _ hr _ _ => hchange _ _ _ (Path.resolved_resolve _ _ _) hr

/-- Whether a tree has come from another one by making things. -/
def Grows (t t' : FileTree) : Prop :=
  t'.WellFormed ∧ t.DirsStay t'

theorem grows_mkdirOne (t₀ : FileTree) (parents : Bool) (path typed : Text) (t : FileTree)
    (ht : Grows t₀ t) : Grows t₀ (mkdirOne parents path typed t).2 := by
  unfold mkdirOne
  split
  · exact ht
  · split
    · exact ht
    · split
      next hmake => exact ⟨ht.1.makeDir hmake, ht.2.trans (ht.1.dirsStay_makeDir hmake)⟩
      · exact ht

theorem grows_touchOne (t₀ : FileTree) (path typed : Text) (t : FileTree) (ht : Grows t₀ t) :
    Grows t₀ (touchOne path typed t).2 := by
  unfold touchOne
  split
  · exact ht
  · split
    next hwrite => exact ⟨ht.1.write hwrite, ht.2.trans (FileTree.dirsStay_write hwrite)⟩
    · exact ht

/-- What removing one node keeps, `rm` keeps at every path. -/
theorem rmOne_rec {P : FileTree → Prop} {t : FileTree}
    (hremove : ∀ t path t', P t → t.remove path = .ok t' → P t') (force recursive : Bool)
    (path typed : Text) (ht : P t) : P (rmOne force recursive path typed t).2 := by
  have hremoved : P (if t.isDir path then t.removeAll path else t.attempt (t.remove path)).2 := by
    split
    · exact FileTree.removeAllFuel_rec hremove _ path ht
    · exact FileTree.attempt_rec ht fun _ => hremove _ _ _ ht
  unfold rmOne
  split
  · exact ht
  · split
    · exact ht
    · split
      · exact ht
      · split
        next heq =>
          rw [heq] at hremoved
          exact hremoved
        next heq =>
          rw [heq] at hremoved
          exact hremoved

theorem placed_leaveRemoved (hd : d.Placed home) (hhome : Path.Normal home) {t : FileTree}
    (ht : t.WellFormed) : (leaveRemoved { d with files := t }).Placed home := by
  unfold leaveRemoved
  split
  · exact hd.goHome hhome ht
  next hthere =>
    refine ⟨hd.home_eq, ht, hd.normal, .inl ?_⟩
    by_cases hroot : d.shell.cwd = Path.root
    · show t.isDir d.shell.cwd = true
      rw [hroot, FileTree.isDir_iff, Path.normal_root.normalize_eq]
      exact ht.root
    · simpa [hroot] using hthere

theorem keeps_cd (hhome : Path.Normal home) : cd.body.Keeps (Desk.Placed home) :=
  keeps_cd_of (fun _ hd => hd.goHome hhome hd.wellFormed) fun _ _ hd hstat =>
    ⟨hd.home_eq, hd.wellFormed, (Path.resolved_resolve _ _ _).toNormal,
      .inl (FileTree.isDir_of_stat hstat)⟩

theorem keeps_mkdir : mkdir.body.Keeps (Desk.Placed home) := by
  refine keeps_mkdir_of fun parents args d hd => ?_
  obtain ⟨ht, hstay⟩ := changing_rec (fun path typed t _ => grows_mkdirOne d.files parents path typed t)
    args ⟨hd.wellFormed, .refl _⟩
  exact hd.withFiles ht hstay

theorem keeps_touch : touch.body.Keeps (Desk.Placed home) := by
  refine keeps_touch_of fun args d hd => ?_
  obtain ⟨ht, hstay⟩ := changing_rec (fun path typed t _ => grows_touchOne d.files path typed t)
    args ⟨hd.wellFormed, .refl _⟩
  exact hd.withFiles ht hstay

theorem keeps_rm (hhome : Path.Normal home) : rm.body.Keeps (Desk.Placed home) :=
  keeps_rm_of fun force recursive args _ hd => placed_leaveRemoved hd hhome <|
    changing_rec (fun path typed _ _ => rmOne_rec (fun _ _ _ ht => ht.remove) force recursive path typed)
      args hd.wellFormed

end Builtin

/-! ## Sessions -/

/-- A home directory with a usable tree keeps the working directory in place, whatever happens. -/
theorem Life.placed_after (config : Config) (hhome : Path.Normal config.home)
    (husable : Seed.Usable config.home) (events : List Event) :
    ((start config Builtin.table).after events).session.HasDesk config (Desk.Placed config.home) :=
  Life.hasDesk_after (Desk.ofPlace_placed _).ofShell
    (Builtin.each_keeps (Desk.ofPlace_placed _) (Builtin.keeps_cd hhome) Builtin.keeps_mkdir
      Builtin.keeps_touch (Builtin.keeps_rm hhome))
    ⟨rfl, husable.wellFormed, hhome, .inl husable.isDir_home⟩ events

/-- Whatever a host does to a session with the default configuration and the built-in commands, its
working directory is in normal form, and is a directory, unless it is the home directory and there is
no such directory any more. -/
theorem cwd_isDir_or_home (events : List Event) :
    let s := ((Life.start {} Builtin.table).after events).session
    Path.Normal s.shell.cwd ∧
      (s.files.isDir s.shell.cwd = true ∨
        s.shell.cwd = "/home/guest".toList ∧ s.files.isDir "/home/guest".toList = false) := by
  intro s
  obtain ⟨hnormal, hroot, hmotd⟩ := Seed.fit_default
  have husable := Seed.usable_of_normal hnormal hroot hmotd
  have hdesk := (Life.placed_after {} hnormal husable events).desk
  refine ⟨hdesk.normal, or_iff_not_imp_left.mpr fun hnot => ?_⟩
  have hcwd : s.shell.cwd = "/home/guest".toList := hdesk.isDir.resolve_left hnot
  rw [hcwd] at hnot
  exact ⟨hcwd, Bool.eq_false_iff.mpr hnot⟩

/-- Once what the home directory lies in has been removed, the working directory is no directory: the
shell has gone home without looking whether there is one. -/
theorem cwd_not_isDir_of_removed_home :
    let s := ((Life.start {} Builtin.table).after [.submit "rm -r /home".toList]).session
    s.files.isDir s.shell.cwd = false := by
  decide +kernel

end VirtualTerminal
