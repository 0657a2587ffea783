import Mathlib.Data.List.Nodup
import VirtualTerminal.Config
import VirtualTerminal.FileTree.Seed
import VirtualTerminal.Proofs.FileTree

/-!
# The first tree

A list of directories and files may be put into a tree in any order if it lists every path once, in
normal form, and the directory that each of them lies in (`Lists.wellFormed`, `Lists.find?_of_mem`). The
first tree is made of such a list if the home directory is in normal form, is not the root, and does not
lie at or beneath the message of the day, and is of use in no other case (`Seed.usable_iff`).
-/

namespace VirtualTerminal

namespace FileTree

/-! ## Trees made of lists -/

/-- What an entry of a list stands for: a directory has no text. -/
def nodeOf : Option Text → Node
  | none => .dir
  | some s => .file (Text.encode s)

/-- The tree that the entries of a list make, put into the empty tree one after the other. -/
def ofEntries (es : List (Text × Option Text)) : FileTree :=
  ⟨es.foldl (fun nodes e => nodes.insert e.1 (nodeOf e.2)) empty.nodes⟩

theorem find?_foldl_entries (es : List (Text × Option Text)) (nodes : Table Node) (p : Text) :
    (es.foldl (fun nodes e => nodes.insert e.1 (nodeOf e.2)) nodes).find? p =
      ((es.filter (·.1 = p)).getLast?.map fun e => nodeOf e.2).or (nodes.find? p) := by
  induction es generalizing nodes with
  | nil => rfl
  | cons e es ih =>
    rw [List.foldl_cons, ih, Table.find?_insert]
    by_cases he : e.1 = p
    · rw [if_pos he, List.filter_cons_of_pos (by simpa using he), List.getLast?_cons]
      cases (es.filter (·.1 = p)).getLast? <;> rfl
    · rw [if_neg he, List.filter_cons_of_neg (by simpa using he)]

/-- The last entry with a path decides what stands there. -/
theorem find?_ofEntries (es : List (Text × Option Text)) (p : Text) :
    (∃ x, (p, x) ∈ es ∧ (ofEntries es).nodes.find? p = some (nodeOf x)) ∨
      (∀ x, (p, x) ∉ es) ∧ (ofEntries es).nodes.find? p = empty.nodes.find? p := by
  unfold ofEntries
  rw [find?_foldl_entries]
  cases hlast : (es.filter (·.1 = p)).getLast? with
  | some e =>
    obtain ⟨hmem, hp⟩ := List.mem_filter.mp (List.mem_of_getLast? hlast)
    obtain rfl := of_decide_eq_true hp
    exact .inl ⟨e.2, hmem, rfl⟩
  | none =>
    refine .inr ⟨fun x hx => ?_, rfl⟩
    rw [List.getLast?_eq_none_iff, List.filter_eq_nil_iff] at hlast
    exact hlast _ hx (decide_eq_true rfl)

/-- Whether the entries of a list make a tree, in whatever order: paths are in normal form, the
directory that a path lies in is listed, and no path of a file is listed as something else. -/
structure Lists (es : List (Text × Option Text)) : Prop where
  normal : ∀ p x, (p, x) ∈ es → Path.Normal p
  parent : ∀ p x, (p, x) ∈ es → p ≠ Path.root →
    Path.parent p = Path.root ∨ (Path.parent p, none) ∈ es
  unique : ∀ p s x, (p, some s) ∈ es → (p, x) ∈ es → x = some s
  root : ∀ s, (Path.root, some s) ∉ es

section Lists

variable {es : List (Text × Option Text)} {p : Text} {x : Option Text}

theorem Lists.find?_of_mem (h : Lists es) (hx : (p, x) ∈ es) :
    (ofEntries es).nodes.find? p = some (nodeOf x) := by
  obtain ⟨y, hy, hfind⟩ | ⟨hnone, -⟩ := find?_ofEntries es p
  · rw [hfind]
    cases y with
    | some s => rw [h.unique p s x hy hx]
    | none =>
      cases x with
      | some s => cases h.unique p s none hx hy
      | none => rfl
  · exact absurd hx (hnone x)

theorem Lists.find?_root (h : Lists es) : (ofEntries es).nodes.find? Path.root = some .dir := by
  obtain ⟨y, hy, hfind⟩ | ⟨-, hfind⟩ := find?_ofEntries es Path.root
  · cases y with
    | some s => exact absurd hy (h.root s)
    | none => exact hfind
  · rw [hfind]
    rfl

theorem Lists.wellFormed (h : Lists es) : (ofEntries es).WellFormed := by
  have hlisted : ∀ p n, (ofEntries es).nodes.find? p = some n → p ≠ Path.root →
      ∃ x, (p, x) ∈ es := by
    intro p n hfind hp
    obtain ⟨x, hx, -⟩ | ⟨-, hempty⟩ := find?_ofEntries es p
    · exact ⟨x, hx⟩
    · rw [hempty, empty, Table.find?_insert, if_neg hp.symm] at hfind
      cases hfind
  refine ⟨fun p n hfind => ?_, h.find?_root, fun p n hfind hp => ?_⟩
  · by_cases hp : p = Path.root
    · rw [hp]
      exact Path.normal_root
    · obtain ⟨x, hx⟩ := hlisted p n hfind hp
      exact h.normal p x hx
  · obtain ⟨x, hx⟩ := hlisted p n hfind hp
    rcases h.parent p x hx hp with hroot | hparent
    · rw [hroot]
      exact h.find?_root
    · exact h.find?_of_mem hparent

end Lists

end FileTree

namespace Seed

open FileTree

variable {home p : Text}

theorem tree_eq (home : Text) : tree home = ofEntries (entries home) := by
  unfold tree ofEntries
  congr 2

/-! ## The paths that are listed -/

theorem pathsThrough_concat (above : Text) (parts : List Text) (name : Text) :
    pathsThrough above (parts ++ [name]) =
      pathsThrough above parts ++ [above ++ (parts.flatMap fun part => '/' :: part) ++ '/' :: name] := by
  induction parts generalizing above with
  | nil => simp [pathsThrough]
  | cons part parts ih => simp [pathsThrough, ih]

/-- The way to an entry is the way to its directory and one step more. -/
theorem ancestors_join {dir name : Text} (hdir : Path.Normal dir) (hname : Path.IsName name) :
    ancestors (Path.join dir name) = ancestors dir ++ [Path.join dir name] := by
  have hparts : (Path.components dir).flatMap (fun part => '/' :: part) ++ '/' :: name =
      Path.join dir name := by
    have h := (hdir.join hname).ofComponents_components
    rw [Path.components_join dir hname] at h
    cases hc : Path.components dir with
    | nil => simpa [hc, Path.ofComponents] using h
    | cons part parts => simpa [hc, Path.ofComponents] using h
  unfold ancestors
  rw [Path.components_join dir hname, pathsThrough_concat, List.nil_append, hparts]

theorem home_mem_ancestors (hhome : Path.Normal home) (hroot : home ≠ Path.root) :
    home ∈ ancestors home := by
  obtain ⟨dir, name, hdir, hname, rfl⟩ := hhome.exists_eq_join hroot
  rw [ancestors_join hdir hname]
  exact List.mem_append_right _ List.mem_cons_self

/-- The way to a path leads through paths of which each lies in the one before. -/
theorem of_mem_ancestors (hhome : Path.Normal home) : ∀ p ∈ ancestors home,
    Path.Normal p ∧ p ≠ Path.root ∧ (Path.parent p = Path.root ∨ Path.parent p ∈ ancestors home) ∧
      (p = home ∨ p ++ ['/'] <+: home) := by
  refine Path.normal_induction (fun p hp => nomatch hp) (fun dir name hdir hname ih p hp => ?_) hhome
  rw [ancestors_join hdir hname] at hp ⊢
  rcases List.mem_append.mp hp with hp | hp
  · obtain ⟨hnormal, hroot, hparent, hbeneath⟩ := ih p hp
    have hdirroot : dir ≠ Path.root := by
      rintro rfl
      cases hp
    have hjoin : Path.join dir name = dir ++ ['/'] ++ name := by
      rw [Path.join, if_neg hdirroot, ← List.append_cons]
    refine ⟨hnormal, hroot, hparent.imp_right (List.mem_append_left _), .inr ?_⟩
    rw [hjoin]
    rcases hbeneath with rfl | hbeneath
    · exact List.prefix_append _ _
    · rw [List.append_assoc]
      exact hbeneath.trans (List.prefix_append _ _)
  · obtain rfl := List.mem_singleton.mp hp
    refine ⟨hdir.join hname, Path.join_ne_root hname, ?_, .inl rfl⟩
    rw [Path.parent_join hdir.ne_nil hname, or_iff_not_imp_left]
    exact fun hroot => List.mem_append_left _ (home_mem_ancestors hdir hroot)

/-- The directories in the home directory, as seen from there. -/
def ownDirectories : List Text :=
  ["/projects".toList, "/projects/termfolio".toList, "/notes".toList]

/-- The files in the home directory, as seen from there. -/
def ownFiles : List (Text × Text) :=
  [("/README.md".toList, readme), ("/about.txt".toList, about), ("/contact.txt".toList, contact),
    ("/projects/termfolio/README.md".toList, projectReadme), ("/projects/ideas.txt".toList, ideas),
    ("/notes/todo.txt".toList, todo)]

theorem directories_eq (home : Text) : directories home =
    ancestors home ++ "/etc".toList :: "/tmp".toList :: ownDirectories.map (home ++ ·) := rfl

theorem files_eq (home : Text) : files home =
    ("/etc/motd".toList, motd) :: ownFiles.map fun (path, text) => (home ++ path, text) := rfl

theorem mem_entries_dir : (p, none) ∈ entries home ↔
    p ∈ ancestors home ∨ p = "/etc".toList ∨ p = "/tmp".toList ∨
      ∃ rel ∈ ownDirectories, home ++ rel = p := by
  unfold entries
  rw [directories_eq, files_eq]
  simp

theorem mem_entries_file {s : Text} : (p, some s) ∈ entries home ↔
    p = "/etc/motd".toList ∧ s = motd ∨ ∃ rel, (rel, s) ∈ ownFiles ∧ home ++ rel = p := by
  unfold entries
  rw [directories_eq, files_eq]
  simp

/-! ## The list makes a tree -/

/-- What stands in the home directory is in normal form as seen from there, and lies right in the home
directory or in a directory in it. -/
theorem of_mem_own : ∀ rel ∈ ownDirectories ++ ownFiles.map (·.1),
    Path.isNormal rel = true ∧ rel ≠ Path.root ∧
      (Path.parent rel = Path.root ∨ Path.parent rel ∈ ownDirectories) := by
  decide +kernel

/-- The home directory holds none of the paths that are the same for all homes. -/
theorem own_not_suffix : ∀ rel ∈ ownDirectories ++ ownFiles.map (·.1),
    ∀ q ∈ [Path.root, "/etc".toList, "/tmp".toList, "/etc/motd".toList], ¬ rel <:+ q := by
  decide +kernel

theorem nodup_own : (ownDirectories ++ ownFiles.map (·.1)).Nodup := by
  decide +kernel

theorem mem_own_of_mem_ownFiles {rel s : Text} (h : (rel, s) ∈ ownFiles) :
    rel ∈ ownDirectories ++ ownFiles.map (·.1) :=
  List.mem_append_right _ (List.mem_map_of_mem h)

theorem normal_own {rel : Text} (hhome : Path.Normal home) (hroot : home ≠ Path.root)
    (hrel : rel ∈ ownDirectories ++ ownFiles.map (·.1)) : Path.Normal (home ++ rel) := by
  obtain ⟨hnormal, hne, -⟩ := of_mem_own rel hrel
  exact (hhome.append hroot (Path.isNormal_iff.mp hnormal) hne).1

theorem parent_own {rel : Text} (hhome : Path.Normal home) (hroot : home ≠ Path.root)
    (hrel : rel ∈ ownDirectories ++ ownFiles.map (·.1)) :
    (Path.parent (home ++ rel), none) ∈ entries home := by
  obtain ⟨hnormal, hne, hparent⟩ := of_mem_own rel hrel
  rw [(hhome.append hroot (Path.isNormal_iff.mp hnormal) hne).2, mem_entries_dir]
  split
  · exact .inl (home_mem_ancestors hhome hroot)
  next htop => exact .inr (.inr (.inr ⟨_, hparent.resolve_left htop, rfl⟩))

theorem own_ne {rel q : Text} (hrel : rel ∈ ownDirectories ++ ownFiles.map (·.1))
    (hq : q ∈ [Path.root, "/etc".toList, "/tmp".toList, "/etc/motd".toList]) : home ++ rel ≠ q :=
  fun heq => own_not_suffix rel hrel q hq (heq ▸ List.suffix_append home rel)

theorem own_not_mem_ancestors {rel : Text} (hhome : Path.Normal home)
    (hrel : rel ∈ ownDirectories ++ ownFiles.map (·.1)) : home ++ rel ∉ ancestors home := by
  intro hmem
  obtain ⟨hnormal, -, -⟩ := of_mem_own rel hrel
  have hpos := List.length_pos_iff.mpr (Path.isNormal_iff.mp hnormal).ne_nil
  obtain ⟨-, -, -, heq | hprefix⟩ := of_mem_ancestors hhome _ hmem
  · have hlength := congrArg List.length heq
    rw [List.length_append] at hlength
    omega
  · have hlength := hprefix.length_le
    simp only [List.length_append] at hlength
    omega

/-- The paths at and beneath the message of the day. -/
def UnderMotd (p : Text) : Prop :=
  p = "/etc/motd".toList ∨ "/etc/motd/".toList <+: p

theorem motd_not_mem_ancestors (hhome : Path.Normal home) (hmotd : ¬ UnderMotd home) :
    "/etc/motd".toList ∉ ancestors home := by
  intro hmem
  obtain ⟨-, -, -, heq | hprefix⟩ := of_mem_ancestors hhome _ hmem
  · exact hmotd (.inl heq.symm)
  · exact hmotd (.inr hprefix)

theorem lists_entries (hhome : Path.Normal home) (hroot : home ≠ Path.root)
    (hmotd : ¬ UnderMotd home) : Lists (entries home) where
  normal p x hx := by
    cases x with
    | none =>
      rcases mem_entries_dir.mp hx with hp | rfl | rfl | ⟨rel, hrel, rfl⟩
      · exact (of_mem_ancestors hhome p hp).1
      · exact Path.isNormal_iff.mp (by decide +kernel)
      · exact Path.isNormal_iff.mp (by decide +kernel)
      · exact normal_own hhome hroot (List.mem_append_left _ hrel)
    | some s =>
      rcases mem_entries_file.mp hx with ⟨rfl, -⟩ | ⟨rel, hrel, rfl⟩
      · exact Path.isNormal_iff.mp (by decide +kernel)
      · exact normal_own hhome hroot (mem_own_of_mem_ownFiles hrel)
  parent p x hx _ := by
    cases x with
    | none =>
      rcases mem_entries_dir.mp hx with hp | rfl | rfl | ⟨rel, hrel, rfl⟩
      · exact (of_mem_ancestors hhome p hp).2.2.1.imp_right fun h => mem_entries_dir.mpr (.inl h)
      · exact .inl (by decide +kernel)
      · exact .inl (by decide +kernel)
      · exact .inr (parent_own hhome hroot (List.mem_append_left _ hrel))
    | some s =>
      rcases mem_entries_file.mp hx with ⟨rfl, -⟩ | ⟨rel, hrel, rfl⟩
      · exact .inr (mem_entries_dir.mpr (.inr (.inl (by decide +kernel))))
      · exact .inr (parent_own hhome hroot (mem_own_of_mem_ownFiles hrel))
  unique p s x hs hx := by
    rcases mem_entries_file.mp hs with ⟨rfl, rfl⟩ | ⟨rel, hrel, rfl⟩
    · cases x with
      | none =>
        rcases mem_entries_dir.mp hx with hp | heq | heq | ⟨rel, hrel, heq⟩
        · exact absurd hp (motd_not_mem_ancestors hhome hmotd)
        · exact absurd heq (by decide +kernel)
        · exact absurd heq (by decide +kernel)
        · exact absurd heq (own_ne (List.mem_append_left _ hrel) (by simp))
      | some s' =>
        rcases mem_entries_file.mp hx with ⟨-, rfl⟩ | ⟨rel, hrel, heq⟩
        · rfl
        · exact absurd heq (own_ne (mem_own_of_mem_ownFiles hrel) (by simp))
    · have hown := mem_own_of_mem_ownFiles hrel
      obtain ⟨-, hfiles, hdisjoint⟩ := List.nodup_append.mp nodup_own
      cases x with
      | none =>
        rcases mem_entries_dir.mp hx with hp | heq | heq | ⟨rel', hrel', heq⟩
        · exact absurd hp (own_not_mem_ancestors hhome hown)
        · exact absurd heq (own_ne hown (by simp))
        · exact absurd heq (own_ne hown (by simp))
        · exact absurd (List.append_cancel_left heq)
            (hdisjoint rel' hrel' rel (List.mem_map_of_mem hrel))
      | some s' =>
        rcases mem_entries_file.mp hx with ⟨heq, -⟩ | ⟨rel', hrel', heq⟩
        · exact absurd heq (own_ne hown (by simp))
        · cases List.inj_on_of_nodup_map hfiles hrel' hrel (List.append_cancel_left heq)
          rfl
  root s hs := by
    rcases mem_entries_file.mp hs with ⟨heq, -⟩ | ⟨rel, hrel, heq⟩
    · exact absurd heq (by decide +kernel)
    · exact own_ne (mem_own_of_mem_ownFiles hrel) (by simp) heq

/-! ## Homes with a usable tree -/

/-- Whether the first tree for a home directory is of use: its paths form a tree, the home directory
and all that is listed as a directory are there, and all files can be read. -/
structure Usable (home : Text) : Prop where
  wellFormed : (tree home).WellFormed
  isDir_home : (tree home).isDir home = true
  directories : ∀ p, (p, none) ∈ entries home → (tree home).isDir p = true
  files : ∀ p s, (p, some s) ∈ entries home → (tree home).read p = .ok (Text.encode s)

theorem read_of_find? {t : FileTree} {bytes : List UInt8} (hp : Path.Normal p)
    (hfind : t.nodes.find? p = some (.file bytes)) : t.read p = .ok bytes := by
  unfold FileTree.read
  simp only [hp.normalize_eq, hfind]

theorem usable_of_normal (hhome : Path.Normal home) (hroot : home ≠ Path.root)
    (hmotd : ¬ UnderMotd home) : Usable home := by
  have hlists := lists_entries hhome hroot hmotd
  have hdirs : ∀ p, (p, none) ∈ entries home → (tree home).isDir p = true := by
    intro p hp
    rw [tree_eq]
    rw [isDir_iff, (hlists.normal p none hp).normalize_eq]
    exact hlists.find?_of_mem hp
  refine ⟨?_, ?_, hdirs, fun p s hs => ?_⟩
  · rw [tree_eq]
    exact hlists.wellFormed
  · exact hdirs home (mem_entries_dir.mpr (.inl (home_mem_ancestors hhome hroot)))
  · rw [tree_eq]
    exact read_of_find? (hlists.normal p (some s) hs) (hlists.find?_of_mem hs)

/-- What is listed stands in the tree under its very path. -/
theorem find?_isSome {x : Option Text} (hx : (p, x) ∈ entries home) :
    ∃ n, (tree home).nodes.find? p = some n := by
  rw [tree_eq]
  obtain ⟨y, -, hfind⟩ | ⟨hnone, -⟩ := find?_ofEntries (entries home) p
  · exact ⟨_, hfind⟩
  · exact absurd hx (hnone x)

theorem projects_mem_entries (home : Text) : (home ++ "/projects".toList, none) ∈ entries home :=
  mem_entries_dir.mpr (.inr (.inr (.inr ⟨_, List.mem_cons_self, rfl⟩)))

theorem Usable.normal (hu : Usable home) (habsolute : home.head? = some '/') :
    Path.Normal home ∧ home ≠ Path.root := by
  obtain ⟨n, hfind⟩ := find?_isSome (projects_mem_entries home)
  have hnormal : Path.Normal (home ++ "/projects".toList) := hu.wellFormed.normal _ n hfind
  have hnot : home.getLast? ≠ some '/' := by
    intro hlast
    obtain ⟨before, rfl⟩ := List.getLast?_eq_some_iff.mp hlast
    exact hnormal.no_double_slash ⟨before, "projects".toList, by simp⟩
  refine ⟨⟨habsolute, fun hdouble => ?_, fun hlast => absurd hlast hnot⟩, ?_⟩
  · exact hnormal.no_double_slash (hdouble.trans (List.prefix_append _ _).isInfix)
  · rintro rfl
    exact hnot rfl

/-- The message of the day is a file, so nothing can lie beneath it. -/
theorem Usable.not_underMotd (hu : Usable home) : ¬ UnderMotd home := by
  intro hunder
  have hread := hu.files _ motd (mem_entries_file.mpr (.inl ⟨rfl, rfl⟩))
  obtain ⟨n, hfind⟩ := find?_isSome (projects_mem_entries home)
  have hbeneath : "/etc/motd".toList ++ ['/'] <+: home ++ "/projects".toList := by
    rcases hunder with rfl | hprefix
    · exact ⟨"projects".toList, by decide +kernel⟩
    · exact List.IsPrefix.trans hprefix (List.prefix_append _ _)
  have hdir := hu.wellFormed.isDir_of_beneath (by decide +kernel) hfind hbeneath
  have hnormal : Path.Normal "/etc/motd".toList := Path.isNormal_iff.mp (by decide +kernel)
  unfold FileTree.read at hread
  simp only [hnormal.normalize_eq, hdir] at hread
  cases hread

theorem fit_default : Path.Normal ({} : Config).home ∧ ({} : Config).home ≠ Path.root ∧
    ¬ UnderMotd ({} : Config).home := by
  refine ⟨Path.isNormal_iff.mp (by decide +kernel), by decide +kernel, ?_⟩
  rintro (h | h)
  · exact absurd h (by decide +kernel)
  · exact absurd h (by decide +kernel)

/-- The first tree is of use for exactly those home directories, of the ones that a configuration may
have, that are in normal form, are not the root, and do not lie at or beneath the message of the
day. -/
theorem usable_iff (config : Config) (hvalid : config.validate = .ok ()) :
    Usable config.home ↔
      Path.Normal config.home ∧ config.home ≠ Path.root ∧ ¬ UnderMotd config.home := by
  have habsolute : config.home.head? = some '/' := by
    unfold Config.validate at hvalid
    split at hvalid
    · cases hvalid
    next h => exact Decidable.of_not_not h
  constructor
  · intro hu
    obtain ⟨hnormal, hroot⟩ := hu.normal habsolute
    exact ⟨hnormal, hroot, hu.not_underMotd⟩
  · rintro ⟨hnormal, hroot, hmotd⟩
    exact usable_of_normal hnormal hroot hmotd

/-- The default home has a usable tree. -/
theorem usable_iff_default : ({} : Config).validate = .ok () ∧ Usable ({} : Config).home :=
  ⟨rfl, (usable_iff {} rfl).mpr fit_default⟩

/-- With a slash at the end of the home directory, the introduction in it stands in the tree under a
path that no look-up asks for. -/
theorem not_usable_of_trailing_slash :
    ({ home := "/home/ada/".toList } : Config).validate = .ok () ∧ ¬ Usable "/home/ada/".toList := by
  refine ⟨rfl, fun hu => ?_⟩
  have hlisted : ("/home/ada//README.md".toList, some readme) ∈ entries "/home/ada/".toList :=
    mem_entries_file.mpr (.inr ⟨_, List.mem_cons_self, by decide +kernel⟩)
  exact absurd (hu.files _ _ hlisted) (by decide +kernel)

end Seed

end VirtualTerminal
