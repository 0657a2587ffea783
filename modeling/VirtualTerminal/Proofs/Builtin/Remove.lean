import VirtualTerminal.Builtin.Files
import VirtualTerminal.Proofs.FileTree.Removal
import VirtualTerminal.Proofs.Path.Resolve

/-!
# What a removal takes away

Arguments are removed one after the other, and what one of them has taken away is missing for the next.
All the same the files that stay are told by the files that there were (`Remains`): a path is asked for
(`Asked`) whether it is still there or not, and if it is not, then it lies within one that was asked for
before. So neither the order nor the repetition of the arguments matters (`rm_exact`).
-/

namespace VirtualTerminal.Builtin

open FileTree

variable {t u : FileTree} {p q : Text} {force recursive : Bool} {d : Desk}

/-! ## One argument -/

/-- Whether a removal takes away what stands at a path: a file, or a directory if it is recursive, but
never the root. -/
structure Asked (t : FileTree) (recursive : Bool) (p : Text) : Prop where
  ne_root : p ≠ Path.root
  exists_node : ∃ n, t.nodes.find? p = some n ∧ (n.isDir = false ∨ recursive = true)

/-- The removal of one path takes it away with all beneath it, or changes nothing. -/
theorem rmOne_files (hu : u.WellFormed) (hp : Path.Normal p) (force recursive : Bool) (typed : Text) :
    (Asked u recursive p → (rmOne force recursive p typed u).2 = u.without p) ∧
      (¬ Asked u recursive p → (rmOne force recursive p typed u).2 = u) := by
  have hself := hp.normalize_eq
  unfold rmOne
  by_cases hroot : p = Path.root
  · rw [if_pos hroot]
    exact ⟨fun h => absurd hroot h.ne_root, fun _ => rfl⟩
  rw [if_neg hroot, holds_of_normal hp]
  cases hfind : u.nodes.find? p with
  | none =>
    refine ⟨fun h => ?_, fun _ => rfl⟩
    obtain ⟨n, hn, -⟩ := h.exists_node
    rw [hfind] at hn
    cases hn
  | some n =>
    rw [isDir_of_find? hp hfind]
    cases n with
    | file bytes =>
      have hremove : u.remove p = .ok (u.without (Path.normalize p)) :=
        hu.remove_of_file (hself.symm ▸ hfind)
      rw [hremove, hself]
      exact ⟨fun _ => rfl, fun h => absurd ⟨hroot, _, hfind, .inl rfl⟩ h⟩
    | dir =>
      cases recursive with
      | false =>
        refine ⟨fun h => ?_, fun _ => rfl⟩
        obtain ⟨n, hn, hkind⟩ := h.exists_node
        rw [Option.some.inj (hfind.symm.trans hn).symm] at hkind
        rcases hkind with h | h
        · cases h
        · cases h
      | true =>
        have hremove : u.removeAll p = (.ok (), u.without (Path.normalize p)) :=
          hu.removeAll_of_exists (hself.symm ▸ hroot) (hself.symm ▸ hfind)
        rw [hself] at hremove
        simp only [Node.isDir, Option.isSome_some, hremove]
        exact ⟨fun _ => rfl, fun h => absurd ⟨hroot, _, hfind, .inr rfl⟩ h⟩

/-! ## All arguments -/

/-- Whether a path is within one of those that a removal takes away. -/
def Gone (t : FileTree) (recursive : Bool) (paths : List Text) (q : Text) : Prop :=
  ∃ p ∈ paths, Asked t recursive p ∧ Within p q

theorem gone_concat_iff {paths : List Text} :
    Gone t recursive (paths ++ [p]) q ↔ Gone t recursive paths q ∨ Asked t recursive p ∧ Within p q := by
  unfold Gone
  simp only [List.mem_append, List.mem_singleton, or_and_right, exists_or, exists_eq_left]

/-- Whether a tree is what the removal of some paths leaves of another one. -/
structure Remains (t : FileTree) (recursive : Bool) (paths : List Text) (u : FileTree) : Prop where
  wellFormed : u.WellFormed
  find?_iff : ∀ q n, u.nodes.find? q = some n ↔
    t.nodes.find? q = some n ∧ ¬ Gone t recursive paths q

theorem remains_nil (ht : t.WellFormed) : Remains t recursive [] t where
  wellFormed := ht
  find?_iff q n := by simp [Gone]

/-- One more argument takes away what it would have taken away from the files at the start. -/
theorem Remains.rmOne {paths : List Text} (h : Remains t recursive paths u) (hp : Path.Normal p)
    (force : Bool) (typed : Text) :
    Remains t recursive (paths ++ [p]) (rmOne force recursive p typed u).2 := by
  obtain ⟨htaken, hkept⟩ := rmOne_files h.wellFormed hp force recursive typed
  by_cases hasked : Asked u recursive p
  · rw [htaken hasked]
    have hasked' : Asked t recursive p := by
      obtain ⟨n, hn, hkind⟩ := hasked.exists_node
      exact ⟨hasked.ne_root, n, ((h.find?_iff p n).mp hn).1, hkind⟩
    refine ⟨h.wellFormed.without hp.ne_nil hasked.ne_root, fun q n => ?_⟩
    rw [find?_without_eq_some_iff, h.find?_iff, gone_concat_iff, not_or, and_assoc,
      and_iff_right hasked']
  · rw [hkept hasked]
    refine ⟨h.wellFormed, fun q n => ?_⟩
    -- a path that was there at the start and is not any more lies within one that is gone
    have hbefore : Asked t recursive p → Within p q → Gone t recursive paths q := by
      intro hasked' hin
      by_contra hnot
      have hstays : ¬ Gone t recursive paths p := fun ⟨r, hr, hrasked, hrin⟩ =>
        hnot ⟨r, hr, hrasked, hrin.trans hin⟩
      obtain ⟨n, hn, hkind⟩ := hasked'.exists_node
      exact hasked ⟨hasked'.ne_root, n, (h.find?_iff p n).mpr ⟨hn, hstays⟩, hkind⟩
    rw [h.find?_iff, gone_concat_iff, or_iff_left_of_imp fun h => hbefore h.1 h.2]

theorem Remains.foldl {paths : List Text} (args : List Text) {r : List Text × FileTree}
    (h : Remains t recursive paths r.2) :
    Remains t recursive (paths ++ args.map (resolve d))
      (args.foldl (fun (errors, u) typed =>
        let (more, u) := Builtin.rmOne force recursive (resolve d typed) typed u
        (errors ++ more, u)) r).2 := by
  induction args generalizing paths r with
  | nil => simpa using h
  | cons typed rest ih =>
    have hone := h.rmOne (Path.resolved_resolve d.shell.cwd typed d.shell.home).toNormal force typed
    rw [List.foldl_cons, List.map_cons, List.append_cons]
    exact ih hone

/-- Whatever the order of the arguments, the same files remain. -/
theorem Remains.eq_of_mem_iff {a b : List Text} {v : FileTree} (hu : Remains t recursive a u)
    (hv : Remains t recursive b v) (h : ∀ p, p ∈ a ↔ p ∈ b) : u = v := by
  have hgone : ∀ q, Gone t recursive a q ↔ Gone t recursive b q := fun q =>
    exists_congr fun p => and_congr_left' (h p)
  refine ext_find? fun q => Option.ext fun n => ?_
  rw [hu.find?_iff, hv.find?_iff, hgone]

/-- Without being asked for directories, a removal takes none away. -/
theorem Remains.dirsStay (ht : t.WellFormed) {paths : List Text} (hu : Remains t false paths u)
    (hnormal : ∀ p ∈ paths, Path.Normal p) : t.DirsStay u := by
  refine fun q hq => (hu.find?_iff q .dir).mpr ⟨hq, ?_⟩
  rintro ⟨p, hp, hasked, hin⟩
  obtain ⟨n, hn, hkind⟩ := hasked.exists_node
  have hdir : t.nodes.find? p = some .dir := by
    by_cases hat : q = p
    · exact hat ▸ hq
    · exact ht.isDir_of_within (hnormal p hp).ne_nil hq hin hat
  rw [Option.some.inj (hn.symm.trans hdir)] at hkind
  rcases hkind with h | h
  · cases h
  · cases h

/-! ## The command -/

/-- Whether an invocation asks for directories too. -/
def recurses (i : Invocation) : Bool :=
  i.hasFlag "r".toList || i.hasFlag "R".toList

/-- The errors of a removal, and the files that remain. -/
def removing (i : Invocation) (d : Desk) : List Text × FileTree :=
  changing (rmOne (i.hasFlag "f".toList) (recurses i)) i.args d

theorem rm_run (c : Context) (s : Terminal) (hargs : c.invocation.args ≠ []) :
    rm.body.run c s = (.ok (reporting (removing c.invocation s.toDesk).1),
      ⟨leaveRemoved { s.toDesk with files := (removing c.invocation s.toDesk).2 }, s.stage⟩) := by
  unfold rm Body.run Handler.doing removing recurses
  dsimp only
  cases h : c.invocation.args with
  | nil => exact absurd h hargs
  | cons a rest => rfl

theorem remains_removing (i : Invocation) (hd : d.files.WellFormed) :
    Remains d.files (recurses i) (i.args.map (resolve d)) (removing i d).2 := by
  have hstart : Remains d.files (recurses i) [] (([], d.files) : List Text × FileTree).2 :=
    remains_nil hd
  exact hstart.foldl i.args

theorem leaveRemoved_files (d : Desk) : (leaveRemoved d).files = d.files := by
  unfold leaveRemoved
  split
  · rfl
  · rfl

theorem isSuccess_reporting_iff (errors : List Text) :
    (reporting errors).lines = errors.map .error ∧
      ((reporting errors).isSuccess = true ↔ errors = []) := by
  unfold reporting
  by_cases h : errors = []
  · rw [if_pos h, h]
    exact ⟨rfl, iff_of_true rfl rfl⟩
  · rw [if_neg h]
    exact ⟨rfl, iff_of_false (fun h => nomatch h) h⟩

/-- A removal takes away what was asked for, and that alone: of the nodes that there were, those stay as
they were that are not within the path of an argument that is not the root and stood for a file, or for a
directory of a recursive removal, when the command started. So the same files remain in whatever order
and however often the arguments are given; no directory is taken away unless the removal is recursive; and
the root always stays. The command succeeds if it reports no error, and fails otherwise. -/
theorem rm_exact (c : Context) (s : Terminal) (ht : s.files.WellFormed)
    (hargs : c.invocation.args ≠ []) :
    ∃ output s', rm.body.run c s = (.ok output, s') ∧
      (∀ q n, s'.files.nodes.find? q = some n ↔ s.files.nodes.find? q = some n ∧
        ¬ ∃ typed ∈ c.invocation.args, Asked s.files (recurses c.invocation) (resolve s.toDesk typed) ∧
          Within (resolve s.toDesk typed) q) ∧
      (∀ c' : Context, (∀ typed, typed ∈ c'.invocation.args ↔ typed ∈ c.invocation.args) →
        recurses c'.invocation = recurses c.invocation → (rm.body.run c' s).2.files = s'.files) ∧
      (recurses c.invocation = false → s.files.DirsStay s'.files) ∧
      s'.files.nodes.find? Path.root = some .dir ∧
      ∃ errors : List Text, output.lines = errors.map .error ∧
        (output.isSuccess = true ↔ errors = []) := by
  have hremains := remains_removing c.invocation ht
  have hfiles : ∀ i, (leaveRemoved { s.toDesk with files := (removing i s.toDesk).2 }).files =
      (removing i s.toDesk).2 := fun i => leaveRemoved_files _
  refine ⟨_, _, rm_run c s hargs, ?_, ?_, ?_, ?_, _, isSuccess_reporting_iff _⟩
  · intro q n
    rw [hfiles, hremains.find?_iff]
    unfold Gone
    simp only [List.mem_map, exists_exists_and_eq_and]
  · intro c' hsame hrecurses
    have hargs' : c'.invocation.args ≠ [] := by
      obtain ⟨typed, htyped⟩ := List.exists_mem_of_ne_nil _ hargs
      exact List.ne_nil_of_mem ((hsame typed).mpr htyped)
    have hremains' := remains_removing (d := s.toDesk) c'.invocation ht
    rw [hrecurses] at hremains'
    rw [rm_run c' s hargs', hfiles, hfiles]
    refine hremains'.eq_of_mem_iff hremains fun p => ?_
    simp only [List.mem_map, hsame]
  · intro hfalse
    rw [hfiles]
    rw [hfalse] at hremains
    refine hremains.dirsStay ht fun p hp => ?_
    obtain ⟨typed, -, rfl⟩ := List.mem_map.mp hp
    exact (Path.resolved_resolve _ _ _).toNormal
  · rw [hfiles]
    exact hremains.wellFormed.root

/-- A file and the directory that holds it, spelled in several ways, can be removed in any order. -/
theorem rm_exact_nested :
    let t := ofChanges [.makeDir "/a/b".toList, .write "/a/b/c".toList [], .write "/ab".toList []]
    let s : Terminal := ⟨⟨t, .new "/a".toList 10⟩, .new {}⟩
    let c (args : List String) : Context :=
      ⟨{ args := args.map String.toList, options := Table.empty.insert "r".toList .flag }, {}, {}, 0, 0⟩
    let s' := (rm.body.run (c ["b/c", "~/b", "b/../b"]) s).2
    s'.files.nodes.keys = ["/", "/a", "/ab"].map String.toList ∧
      s'.files.nodes.find? "/a/b/c".toList = none ∧
      (rm.body.run (c ["b/../b", "b/c", "~/b"]) s).2.files = s'.files := by
  intro t s c s'
  obtain ⟨output, s'', hrun, hleft, hsame, -⟩ :=
    rm_exact (c ["b/c", "~/b", "b/../b"]) s (wellFormed_ofChanges _) (by decide)
  have hafter : s' = s'' := congrArg Prod.snd hrun
  have hasked : Asked t true "/a/b/c".toList :=
    ⟨by decide +kernel, .file [], by decide +kernel, .inr rfl⟩
  refine ⟨by decide +kernel, Option.eq_none_iff_forall_ne_some.mpr fun n hn => ?_, ?_⟩
  · refine ((hleft _ n).mp (hafter ▸ hn)).2 ⟨"b/c".toList, by decide, ?_⟩
    exact ⟨hasked, within_refl _⟩
  · rw [hafter]
    exact hsame (c ["b/../b", "b/c", "~/b"]) (fun _ => List.Perm.mem_iff (by decide)) rfl

end VirtualTerminal.Builtin
