import VirtualTerminal.Builtin.Files
import VirtualTerminal.Proofs.FileTree.Preorder

/-!
# What a tree shows

The marks before an entry are put together on the way down to it. They say the same as the table of the
files: there is one cell for each directory on the way (`indent`), and it is blank if that directory comes
last in its own (`IsLast`). So the lines are those of the paths that a walk meets (`branches?_eq`).
-/

namespace VirtualTerminal

namespace FileTree

variable {t : FileTree} {dir p q : Text}

/-- Whether nothing else in the directory of a path comes after it. -/
def IsLast (t : FileTree) (q : Text) : Prop :=
  ∀ p ∈ t.nodes.keys, Path.parent p = Path.parent q → ¬ q < p

instance (t : FileTree) (q : Text) : Decidable (t.IsLast q) :=
  inferInstanceAs (Decidable (∀ p ∈ t.nodes.keys, _ → _))

/-- How many levels a path lies beneath a directory. -/
def depthBelow (dir q : Text) : Nat :=
  (Path.components q).length - (Path.components dir).length

/-- The path that lies `j` levels beneath a directory on the way to another one. -/
def ancestor (dir : Text) (j : Nat) (q : Text) : Text :=
  Path.ofComponents ((Path.components q).take ((Path.components dir).length + j))

/-- How many directories, or files, lie beneath a directory. -/
def countBelow (t : FileTree) (dir : Text) (isDir : Bool) : Nat :=
  t.nodes.keys.countP fun q => Within dir q ∧ q ≠ dir ∧ t.isDir q = isDir

/-! ## Levels -/

theorem length_components_join (dir : Text) {name : Text} (hname : Path.IsName name) :
    (Path.components (Path.join dir name)).length = (Path.components dir).length + 1 := by
  rw [Path.components_join dir hname, List.length_append, List.length_singleton]

theorem ancestor_zero (hdir : Path.Normal dir) (hq : Path.Normal q) (hin : Within dir q) :
    ancestor dir 0 q = dir := by
  unfold ancestor
  rw [Nat.add_zero, ← List.prefix_iff_eq_take.mp ((within_iff_components hdir hq).mp hin)]
  exact hdir.ofComponents_components

theorem ancestor_succ (dir : Text) (j : Nat) (q : Text) {name : Text} (hname : Path.IsName name) :
    ancestor dir (j + 1) q = ancestor (Path.join dir name) j q := by
  unfold ancestor
  rw [length_components_join dir hname, Nat.add_assoc, Nat.add_comm 1 j]

theorem depthBelow_join (dir : Text) {name : Text} (hname : Path.IsName name) :
    depthBelow dir (Path.join dir name) = 1 := by
  unfold depthBelow
  rw [length_components_join dir hname, Nat.add_sub_cancel_left]

theorem depthBelow_pos (hp : Path.Normal p) (hq : Path.Normal q) (hin : Within p q) (hne : q ≠ p) :
    0 < depthBelow p q := by
  have hfront := (within_iff_components hp hq).mp hin
  refine Nat.sub_pos_of_lt (Nat.lt_of_le_of_ne hfront.length_le fun hlength => hne ?_)
  exact ((hp.components_inj hq).mp (hfront.eq_of_length hlength)).symm

/-- Beneath an entry of a directory it is one level less than beneath that directory. -/
theorem depthBelow_succ (dir : Text) {name : Text} (hname : Path.IsName name)
    (hpos : 0 < depthBelow (Path.join dir name) q) :
    depthBelow dir q = depthBelow (Path.join dir name) q + 1 := by
  unfold depthBelow at hpos ⊢
  rw [length_components_join dir hname] at hpos ⊢
  omega

/-! ## The last entry -/

/-- In an increasing list nothing is greater than the last item, and only than that one. -/
theorem index_last_iff {items : List DirEntry} (h : items.Pairwise fun a b => a.name < b.name)
    {e : DirEntry} {k : Nat} (hk : items[k]? = some e) :
    k + 1 = items.length ↔ ∀ d ∈ items, ¬ e.name < d.name := by
  obtain ⟨hlt, rfl⟩ := List.getElem?_eq_some_iff.mp hk
  constructor
  · intro hlast d hd hless
    obtain ⟨i, hi, rfl⟩ := List.getElem_of_mem hd
    rcases Nat.lt_or_eq_of_le (show i ≤ k by omega) with hik | rfl
    · exact List.lt_irrefl _ (List.lt_trans hless (List.pairwise_iff_getElem.mp h i k hi hlt hik))
    · exact List.lt_irrefl _ hless
  · intro hnone
    by_contra hne
    have hnext : k + 1 < items.length := by omega
    exact hnone _ (List.getElem_mem hnext)
      (List.pairwise_iff_getElem.mp h k (k + 1) hlt hnext (Nat.lt_succ_self k))

theorem isLast_join_iff (ht : t.WellFormed) (hdir : Path.Normal dir) {name : Text}
    (hname : Path.IsName name) :
    t.IsLast (Path.join dir name) ↔ ∀ d ∈ t.children dir, ¬ name < d.name := by
  constructor
  · intro hlast d hd hless
    obtain ⟨hdname, n, hn, -⟩ := mem_children_iff.mp hd
    refine hlast _ ((Table.mem_keys_iff _ _).mpr (hn ▸ rfl)) ?_ (join_lt_join_iff.mpr hless)
    rw [Path.parent_join hdir.ne_nil hdname, Path.parent_join hdir.ne_nil hname]
  · intro hnone p hp hparent hless
    obtain ⟨n, hn⟩ := Option.isSome_iff_exists.mp ((Table.mem_keys_iff _ p).mp hp)
    have hnormal := ht.normal p n hn
    rw [Path.parent_join hdir.ne_nil hname] at hparent
    by_cases hroot : p = Path.root
    · obtain ⟨rest, hrest⟩ := List.head?_eq_some_iff.mp (hdir.join hname).absolute
      rw [hroot, hrest] at hless
      rcases List.cons_lt_cons_iff.mp hless with hlt | ⟨-, hlt⟩
      · exact Char.lt_irrefl _ hlt
      · exact List.not_lt_nil _ hlt
    · obtain ⟨other, hother, hjoin, -⟩ := hnormal.exists_eq_join_parent hroot
      rw [hparent] at hjoin
      rw [hjoin] at hn hless
      have hmem : ⟨other, n.isDir, n.size⟩ ∈ t.children dir :=
        mem_children_iff.mpr ⟨hother, n, hn, rfl⟩
      exact hnone _ hmem (join_lt_join_iff.mp hless)

/-- An entry has the last index in its directory exactly if nothing comes after it there. -/
theorem index_last_iff_isLast (ht : t.WellFormed) (hdir : Path.Normal dir) {a : DirEntry × Nat}
    (ha : a ∈ (t.children dir).zipIdx) :
    a.2 + 1 = (t.children dir).length ↔ t.IsLast (Path.join dir a.1.name) := by
  have hk : (t.children dir)[a.2]? = some a.1 := List.mem_zipIdx_iff_getElem?.mp ha
  rw [isLast_join_iff ht hdir (mem_children_iff.mp (List.mem_of_getElem? hk)).1]
  exact index_last_iff (t.pairwise_children dir) hk

end FileTree

namespace Builtin

open FileTree

variable {t : FileTree} {dir lead p q : Text}

/-! ## Rows -/

/-- What stands for a directory before the entries beneath it. -/
def cell (t : FileTree) (q : Text) : Text :=
  if t.IsLast q then "    ".toList else "│   ".toList

/-- The mark right before an entry. -/
def mark (t : FileTree) (q : Text) : Text :=
  if t.IsLast q then "└── ".toList else "├── ".toList

/-- What stands before the mark of a path beneath a directory: a cell for each directory on the way to
it. -/
def indent (t : FileTree) (dir q : Text) : Text :=
  (List.range (depthBelow dir q - 1)).flatMap fun j => cell t (ancestor dir (j + 1) q)

/-- The node at a path, as an entry of its directory. -/
def entryOf (t : FileTree) (q : Text) : DirEntry :=
  ⟨(Path.components q).getLast?.getD [], t.isDir q, ((t.node? q).map Node.size).getD 0⟩

/-- The entry at a path beneath a directory, with a lead and the marks before its name. -/
def row (t : FileTree) (dir lead q : Text) : Text × DirEntry :=
  (lead ++ (indent t dir q ++ mark t q), entryOf t q)

theorem indent_join (t : FileTree) (dir : Text) {name : Text} (hname : Path.IsName name) :
    indent t dir (Path.join dir name) = [] := by
  unfold indent
  rw [depthBelow_join dir hname]
  rfl

/-- Beneath an entry of a directory, the first cell is the one of that entry. -/
theorem indent_of_within {name : Text} (hdir : Path.Normal dir) (hname : Path.IsName name)
    (hq : Path.Normal q) (hin : Within (Path.join dir name) q) (hne : q ≠ Path.join dir name) :
    indent t dir q = cell t (Path.join dir name) ++ indent t (Path.join dir name) q := by
  have hentry := hdir.join hname
  have hpos := depthBelow_pos hentry hq hin hne
  obtain ⟨k, hk⟩ : ∃ k, depthBelow (Path.join dir name) q = k + 1 :=
    Nat.exists_eq_succ_of_ne_zero (Nat.ne_of_gt hpos)
  unfold indent
  rw [depthBelow_succ dir hname hpos, hk, Nat.add_sub_cancel, Nat.add_sub_cancel,
    List.range_succ_eq_map, List.flatMap_cons, List.flatMap_map, ancestor_succ dir 0 q hname,
    ancestor_zero hentry hq hin]
  exact congrArg _ (List.flatMap_congr fun j _ => congrArg _ (ancestor_succ dir (j + 1) q hname))

theorem entryOf_join (hdir : Path.Normal dir) {e : DirEntry} (he : e ∈ t.children dir) :
    entryOf t (Path.join dir e.name) = e := by
  obtain ⟨hname, n, hn, heq⟩ := mem_children_iff.mp he
  have hnormal := hdir.join hname
  unfold entryOf
  rw [Path.components_join dir hname, List.getLast?_concat, isDir_of_find? hnormal hn,
    node?_of_normal hnormal, hn]
  exact heq.symm

/-! ## Branches -/

/-- The rows of a tree, as `branches` finds them. There is no result if that is cut off, because it goes
down `depth` levels, or if something cannot be listed. -/
def branches? (t : FileTree) : (depth : Nat) → (dir lead : Text) → Option (List (Text × DirEntry))
  | 0, _, _ => none
  | depth + 1, dir, lead =>
    match t.list dir with
    | .error _ => none
    | .ok entries =>
      gather? (fun (e, k) =>
        let isLast := k + 1 = entries.length
        let branch := if isLast then "└── ".toList else "├── ".toList
        let indent := if isLast then "    ".toList else "│   ".toList
        if e.isDir then
          (branches? t depth (Path.join dir e.name) (lead ++ indent)).map ((lead ++ branch, e) :: ·)
        else some [(lead ++ branch, e)])
        entries.zipIdx

/-- The row of an entry of a directory with the rows beneath it, as they are shown there. -/
def entryRows (t : FileTree) (depth : Nat) (dir lead : Text) (e : DirEntry) : List (Text × DirEntry) :=
  (lead ++ mark t (Path.join dir e.name), e) ::
    if e.isDir then
      (t.walked depth (Path.join dir e.name)).map
        (row t (Path.join dir e.name) (lead ++ cell t (Path.join dir e.name)))
    else []

theorem row_join (lead : Text) (hdir : Path.Normal dir) {e : DirEntry} (he : e ∈ t.children dir) :
    row t dir lead (Path.join dir e.name) = (lead ++ mark t (Path.join dir e.name), e) := by
  unfold row
  rw [indent_join t dir (mem_children_iff.mp he).1, entryOf_join hdir he, List.nil_append]

theorem row_of_within (lead : Text) {name : Text} (hdir : Path.Normal dir) (hname : Path.IsName name)
    (hq : Path.Normal q) (hin : Within (Path.join dir name) q) (hne : q ≠ Path.join dir name) :
    row t dir lead q = row t (Path.join dir name) (lead ++ cell t (Path.join dir name)) q := by
  unfold row
  rw [indent_of_within hdir hname hq hin hne]
  simp only [List.append_assoc]

theorem rows_succ (ht : t.WellFormed) {depth : Nat} (hfind : t.nodes.find? dir = some .dir)
    (hdepth : t.countWithin dir ≤ depth + 1) (lead : Text) :
    (t.walked (depth + 1) dir).map (row t dir lead) =
      (t.children dir).zipIdx.flatMap fun a => entryRows t depth dir lead a.1 := by
  have hdir := ht.normal dir .dir hfind
  have hfst : (t.children dir).zipIdx.flatMap (fun a => entryRows t depth dir lead a.1) =
      (t.children dir).flatMap (entryRows t depth dir lead) := by
    conv_rhs => rw [← List.zipIdx_map_fst 0 (t.children dir), List.flatMap_map]
  rw [hfst, walked_succ depth hdir hfind, List.map_flatMap]
  refine List.flatMap_congr fun e he => ?_
  have hname := (mem_children_iff.mp he).1
  rw [List.map_cons, row_join lead hdir he]
  refine congrArg _ ?_
  rcases entry_cases hfind hdepth he with ⟨hkind, -⟩ | ⟨hkind, hsub, hless⟩
  · rw [hkind]
    rfl
  · rw [if_pos hkind, if_pos hkind]
    refine List.map_congr_left fun q hq => ?_
    obtain ⟨⟨n, hn⟩, hin, hne⟩ := ((ht.walk?_eq hsub hless).2.mem_iff q).mp hq
    exact row_of_within lead hdir hname (ht.normal q n hn) hin hne

/-- The rows of a tree that may go down as many levels as there are nodes within a directory are those of
all paths beneath the directory, and none is cut off. -/
theorem branches?_eq (ht : t.WellFormed) {depth : Nat} (hfind : t.nodes.find? dir = some .dir)
    (hdepth : t.countWithin dir ≤ depth) (lead : Text) :
    branches? t depth dir lead = some ((t.walked depth dir).map (row t dir lead)) ∧
      branches t depth dir lead = (t.walked depth dir).map (row t dir lead) := by
  induction depth generalizing dir lead with
  | zero => exact absurd (countWithin_pos hfind) (Nat.not_lt_of_le hdepth)
  | succ depth ih =>
    have hdir := ht.normal dir .dir hfind
    have hentry : ∀ a ∈ (t.children dir).zipIdx, a.1 ∈ t.children dir := fun a ha =>
      List.mem_of_getElem? (List.mem_zipIdx_iff_getElem?.mp ha)
    rw [rows_succ ht hfind hdepth, branches?, branches, list_of_normal hdir hfind]
    constructor
    · refine gather?_eq_some fun a ha => ?_
      dsimp only
      have hlast := index_last_iff_isLast ht hdir ha
      rw [if_congr hlast rfl rfl, if_congr hlast rfl rfl]
      unfold entryRows
      rcases entry_cases hfind hdepth (hentry a ha) with ⟨hkind, -⟩ | ⟨hkind, hsub, hless⟩
      · rw [hkind]
        rfl
      · rw [if_pos hkind, if_pos hkind, (ih hsub hless _).1]
        rfl
    · refine List.flatMap_congr fun a ha => ?_
      dsimp only
      have hlast := index_last_iff_isLast ht hdir ha
      rw [if_congr hlast rfl rfl, if_congr hlast rfl rfl]
      unfold entryRows
      rcases entry_cases hfind hdepth (hentry a ha) with ⟨hkind, -⟩ | ⟨hkind, hsub, hless⟩
      · rw [hkind]
        rfl
      · rw [if_pos hkind, if_pos hkind, (ih hsub hless _).2]
        rfl

/-! ## Totals -/

theorem foldl_add (entries : List DirEntry) (n : TreeCounts) :
    entries.foldl TreeCounts.add n =
      ⟨n.dirs + entries.countP (·.isDir = true), n.files + entries.countP (·.isDir = false)⟩ := by
  induction entries generalizing n with
  | nil => rfl
  | cons e rest ih =>
    rw [List.foldl_cons, ih]
    unfold TreeCounts.add
    cases hkind : e.isDir <;> simp [hkind, Nat.add_assoc, Nat.add_comm 1]

/-- There are as many directories, and files, in the order of a walk as beneath its directory. -/
theorem countP_of_preorder {paths : List Text} (h : Preorder t dir paths) (isDir : Bool) :
    paths.countP (fun q => t.isDir q = isDir) = t.countBelow dir isDir := by
  have hperm : paths.Perm (t.nodes.keys.filter fun q => Within dir q ∧ q ≠ dir) := by
    refine (List.perm_ext_iff_of_nodup h.nodup (t.nodes.nodup_keys.filter _)).mpr fun q => ?_
    rw [h.mem_iff, List.mem_filter, Table.mem_keys_iff, Option.isSome_iff_exists, decide_eq_true_iff]
  unfold countBelow
  rw [hperm.countP_eq, List.countP_filter]
  refine List.countP_congr fun q _ => ?_
  simp only [Bool.and_eq_true, decide_eq_true_eq]
  exact ⟨fun ⟨hkind, hin, hne⟩ => ⟨hin, hne, hkind⟩, fun ⟨hin, hne, hkind⟩ => ⟨hkind, hin, hne⟩⟩

/-- The line of a path in a tree. -/
def treeLine (t : FileTree) (dir q : Text) : Line :=
  .parts [⟨indent t dir q ++ mark t q, none⟩, entryRun (entryOf t q)]

/-- The tree of a directory has one line for each node beneath it, depth first: after the line of a
directory follow those of its content, and entries of one directory stand in the order of their names.
Before the mark of an entry there is a cell for each directory on the way to it, and that is blank if this
directory is the last entry of its own. The totals are the numbers of directories and of files beneath
the directory. Nothing is cut off, nothing fails, and nothing changes. -/
theorem tree_exact (ht : t.WellFormed) (hfind : t.nodes.find? dir = some .dir) :
    ∃ paths, Preorder t dir paths ∧
      (∀ p ∈ paths, ∃ before content after, paths = before ++ p :: (content ++ after) ∧
        Preorder t p content) ∧
      (∃ depth, branches? t depth dir [] = some (branches t t.nodes.size dir [])) ∧
      ∀ (c : Context) (s : Terminal), s.files = t → resolve s.toDesk (target c.invocation) = dir →
        tree.body.run c s =
          (.ok (.success (.colored .blue (Path.display dir s.shell.home) :: paths.map (treeLine t dir) ++
            [.blank, .plain (Text.ofNat (t.countBelow dir true) ++ " directories, ".toList ++
              Text.ofNat (t.countBelow dir false) ++ " files".toList)])), s) := by
  have hdir := ht.normal dir .dir hfind
  have horder := (ht.walk?_eq hfind (countWithin_le_size t dir)).2
  obtain ⟨hbranches, hrows⟩ := branches?_eq ht hfind (countWithin_le_size t dir) []
  refine ⟨_, horder, fun p hp => horder.exists_content ht hdir hp,
    ⟨_, hbranches.trans (congrArg _ hrows.symm)⟩, fun c s hfiles hpath => ?_⟩
  subst hfiles
  have hisDir : s.files.isDir dir = true := isDir_of_find? hdir hfind
  have hcount : ∀ isDir : Bool, ((s.files.walked s.files.nodes.size dir).map (entryOf s.files)).countP
      (·.isDir = isDir) = s.files.countBelow dir isDir := fun isDir => by
    rw [List.countP_map]
    exact countP_of_preorder horder isDir
  have hentries : (branches s.files s.files.nodes.size dir []).map (·.2) =
      (s.files.walked s.files.nodes.size dir).map (entryOf s.files) := by
    rw [hrows, List.map_map]
    rfl
  unfold tree Body.run Handler.showing
  dsimp only
  rw [hpath, hisDir, hentries, foldl_add, hcount, hcount, hrows, List.map_map]
  rw [if_neg (by decide)]
  simp only [Nat.zero_add]
  rfl

/-- A file three levels deep has two cells, of which only the second one is blank. -/
theorem tree_exact_nested :
    let t := ofChanges [.makeDir "/a/b".toList, .write "/a/b/c".toList [], .write "/z".toList []]
    let s : Terminal := ⟨⟨t, .new "/a".toList 10⟩, .new {}⟩
    ∃ lines, tree.body.run ⟨{ args := ["..".toList] }, {}, {}, 0, 0⟩ s =
        (.ok (.success (lines ++ [.blank, .plain "2 directories, 2 files".toList])), s) ∧
      .parts [⟨"│       └── ".toList, none⟩, ⟨"c".toList, none⟩] ∈ lines := by
  intro t s
  have hroot : t.nodes.find? Path.root = some .dir := by decide +kernel
  obtain ⟨paths, horder, -, -, hrun⟩ := tree_exact (wellFormed_ofChanges _) hroot
  have hline : treeLine t Path.root "/a/b/c".toList =
      .parts [⟨"│       └── ".toList, none⟩, ⟨"c".toList, none⟩] := by decide +kernel
  have hmem : "/a/b/c".toList ∈ paths :=
    (horder.mem_iff _).mpr ⟨⟨.file [], by decide +kernel⟩, by decide +kernel, by decide +kernel⟩
  refine ⟨_, hrun ⟨{ args := ["..".toList] }, {}, {}, 0, 0⟩ s rfl (by decide +kernel), ?_⟩
  exact List.mem_cons_of_mem _ (hline ▸ List.mem_map_of_mem hmem)

end Builtin

end VirtualTerminal
