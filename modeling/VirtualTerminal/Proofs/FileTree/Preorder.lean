import VirtualTerminal.Proofs.FileTree.Removal
import VirtualTerminal.Proofs.Text.ByteOrder

/-!
# Going down a tree

Whoever lists a directory, and each directory in it right after its name, meets what lies beneath it in
the lexicographic order of the components of the paths (`Preorder`). One level puts the orders of the
entries together (`Preorder.of_children`), and below each entry there are fewer nodes, so a walk ends
(`WellFormed.walk?_eq`) and meets every node once (`list_exact`).
-/

namespace VirtualTerminal.FileTree

variable {t : FileTree} {dir p q path : Text} {n : Node}

/-! ## Components -/

/-- What is within a path has the components of that path in front. -/
theorem within_iff_components (hp : Path.Normal p) (hq : Path.Normal q) :
    Within p q ↔ Path.components p <+: Path.components q := by
  refine Path.normal_induction ?_ (fun dir name hdir hname ih => ?_) hq
  · show Within p Path.root ↔ Path.components p <+: []
    rw [List.prefix_nil]
    refine ⟨fun h => ?_, fun h => ?_⟩
    · rw [eq_root_of_within hp.ne_nil h]
      rfl
    · exact .inl ((Path.normal_root.components_inj hp).mp h.symm)
  · rw [within_join hp.ne_nil hdir hname, Path.components_join dir hname, List.prefix_concat_iff, ih,
      ← Path.components_join dir hname, hp.components_inj (hdir.join hname), eq_comm]

/-- A path comes before what lies beneath it. -/
theorem components_lt_of_within (hp : Path.Normal p) (hq : Path.Normal q) (hin : Within p q)
    (hne : q ≠ p) : Path.components p < Path.components q := by
  obtain ⟨rest, hrest⟩ := (within_iff_components hp hq).mp hin
  rcases List.le_iff_lt_or_eq.mp (hrest ▸ List.le_append_left) with hlt | heq
  · exact hlt
  · exact absurd ((hp.components_inj hq).mp heq).symm hne

/-- Of two entries of a directory, what is within the one with the smaller name comes before what is
within the other one. -/
theorem components_lt_of_entries {a b : Text} (hdir : Path.Normal dir) (ha : Path.IsName a)
    (hb : Path.IsName b) (hlt : a < b) (hp : Path.Normal p) (hq : Path.Normal q)
    (hpin : Within (Path.join dir a) p) (hqin : Within (Path.join dir b) q) :
    Path.components p < Path.components q := by
  obtain ⟨u, hu⟩ := (within_iff_components (hdir.join ha) hp).mp hpin
  obtain ⟨v, hv⟩ := (within_iff_components (hdir.join hb) hq).mp hqin
  rw [← hu, ← hv, Path.components_join dir ha, Path.components_join dir hb, List.append_assoc,
    List.append_assoc]
  exact List.append_left_lt (List.cons_lt_cons_iff.mpr (.inl hlt))

/-! ## Depth first -/

/-- Whether paths are those of all that lies beneath a directory, each once and depth first: the content
of a directory follows right after it, and its entries are in the order of their names. -/
structure Preorder (t : FileTree) (dir : Text) (paths : List Text) : Prop where
  mem_iff : ∀ q, q ∈ paths ↔ (∃ n, t.nodes.find? q = some n) ∧ Within dir q ∧ q ≠ dir
  increasing : paths.Pairwise fun a b => Path.components a < Path.components b

theorem Preorder.nodup {paths : List Text} (h : Preorder t dir paths) : paths.Nodup := by
  refine List.Pairwise.imp (fun {a b} hlt => ?_) h.increasing
  rintro rfl
  exact List.lt_irrefl _ hlt

/-- What lies beneath a path that a walk meets follows right after it. -/
theorem Preorder.exists_content (ht : t.WellFormed) (hdir : Path.Normal dir) {paths : List Text}
    (h : Preorder t dir paths) (hp : p ∈ paths) :
    ∃ before content after, paths = before ++ p :: (content ++ after) ∧ Preorder t p content := by
  have hbelow : ∀ q ∈ paths, Path.Normal q ∧ Path.components dir < Path.components q := by
    intro q hq
    obtain ⟨⟨n, hn⟩, hin, hne⟩ := (h.mem_iff q).mp hq
    exact ⟨ht.normal q n hn, components_lt_of_within hdir (ht.normal q n hn) hin hne⟩
  obtain ⟨hnormal, hdirp⟩ := hbelow p hp
  obtain ⟨before, rest, rfl⟩ := List.append_of_mem hp
  obtain ⟨-, hfrom, hsplit⟩ := List.pairwise_append.mp h.increasing
  obtain ⟨hlater, hincreasing⟩ := List.pairwise_cons.mp hfrom
  refine ⟨before, _, _, by rw [List.takeWhile_append_dropWhile (p := fun q =>
    (Path.components p).isPrefixOf (Path.components q))], ?_⟩
  rw [takeWhile_eq_filter hincreasing fun q hq => List.le_of_lt (hlater q hq)]
  refine ⟨fun q => ?_, hincreasing.filter _⟩
  rw [List.mem_filter, List.isPrefixOf_iff_prefix]
  constructor
  · rintro ⟨hq, hprefix⟩
    have hmem := List.mem_append_right before (List.mem_cons_of_mem p hq)
    refine ⟨((h.mem_iff q).mp hmem).1,
      (within_iff_components hnormal (hbelow q hmem).1).mpr hprefix, ?_⟩
    rintro rfl
    exact List.lt_irrefl _ (hlater q hq)
  · rintro ⟨⟨n, hn⟩, hin, hne⟩
    have hqnormal := ht.normal q n hn
    have hlt := components_lt_of_within hnormal hqnormal hin hne
    have hmem : q ∈ before ++ p :: rest := by
      refine (h.mem_iff q).mpr ⟨⟨n, hn⟩, ((h.mem_iff p).mp hp).2.1.trans hin, ?_⟩
      rintro rfl
      exact List.lt_irrefl _ (List.lt_trans hdirp hlt)
    refine ⟨?_, (within_iff_components hnormal hqnormal).mp hin⟩
    rcases List.mem_append.mp hmem with hbefore | hat
    · exact absurd (List.lt_trans hlt (hsplit q hbefore p List.mem_cons_self)) (List.lt_irrefl _)
    · exact (List.mem_cons.mp hat).resolve_left hne

/-- Nothing lies beneath a file. -/
theorem WellFormed.preorder_of_file (ht : t.WellFormed) {bytes : List UInt8} (hp : p ≠ [])
    (hfile : t.nodes.find? p = some (.file bytes)) : Preorder t p [] := by
  refine ⟨fun q => iff_of_false List.not_mem_nil ?_, .nil⟩
  rintro ⟨⟨n, hn⟩, hin, hne⟩
  rw [ht.isDir_of_within hp hn hin hne] at hfile
  cases hfile

/-- The paths beneath a directory are those of its entries, each with the paths beneath it. -/
theorem Preorder.of_children (ht : t.WellFormed) (hdir : Path.Normal dir)
    {below : DirEntry → List Text}
    (h : ∀ e ∈ t.children dir, Preorder t (Path.join dir e.name) (below e)) :
    Preorder t dir ((t.children dir).flatMap fun e => Path.join dir e.name :: below e) := by
  have hmem : ∀ e ∈ t.children dir, ∀ q, q ∈ Path.join dir e.name :: below e ↔
      (∃ n, t.nodes.find? q = some n) ∧ Within (Path.join dir e.name) q := by
    intro e he q
    obtain ⟨-, n, hn, -⟩ := mem_children_iff.mp he
    rw [List.mem_cons, (h e he).mem_iff q]
    by_cases hq : q = Path.join dir e.name
    · exact iff_of_true (.inl hq) ⟨⟨n, hq ▸ hn⟩, .inl hq⟩
    · simp [hq]
  have hnormal : ∀ e ∈ t.children dir, ∀ q ∈ Path.join dir e.name :: below e, Path.Normal q := by
    intro e he q hq
    obtain ⟨⟨n, hn⟩, -⟩ := (hmem e he q).mp hq
    exact ht.normal q n hn
  refine ⟨fun q => ?_, List.pairwise_flatMap.mpr ⟨fun e he => ?_, ?_⟩⟩
  · rw [List.mem_flatMap]
    constructor
    · rintro ⟨e, he, hq⟩
      obtain ⟨hnode, hin⟩ := (hmem e he q).mp hq
      refine ⟨hnode, (within_join_self dir e.name).trans hin, ?_⟩
      rintro rfl
      exact not_within_join_self q (mem_children_iff.mp he).1 hin
    · rintro ⟨⟨n, hn⟩, hin, hne⟩
      obtain ⟨e, he, hentry⟩ := ht.exists_child hdir hn hin hne
      exact ⟨e, he, (hmem e he q).mpr ⟨⟨n, hn⟩, hentry⟩⟩
  · refine List.pairwise_cons.mpr ⟨fun q hq => ?_, (h e he).increasing⟩
    obtain ⟨-, hin, hne⟩ := ((h e he).mem_iff q).mp hq
    exact components_lt_of_within (hdir.join (mem_children_iff.mp he).1)
      (hnormal e he q (List.mem_cons_of_mem _ hq)) hin hne
  · refine (List.pairwise_iff_forall_sublist.mpr fun {a b} hsub x hx y hy => ?_)
    have ha : a ∈ t.children dir := hsub.subset List.mem_cons_self
    have hb : b ∈ t.children dir := hsub.subset (List.mem_cons_of_mem _ List.mem_cons_self)
    have hlt := List.pairwise_iff_forall_sublist.mp (t.pairwise_children dir) hsub
    exact components_lt_of_entries hdir (mem_children_iff.mp ha).1 (mem_children_iff.mp hb).1 hlt
      (hnormal a ha x hx) (hnormal b hb y hy) ((hmem a ha x).mp hx).2 ((hmem b hb y).mp hy).2

/-! ## A walk that is cut off -/

/-- The results for the items of a list one after the other, if there are results for each of them. -/
def gather? (f : α → Option (List β)) : List α → Option (List β)
  | [] => some []
  | a :: rest =>
    match f a, gather? f rest with
    | some found, some more => some (found ++ more)
    | _, _ => none

theorem gather?_eq_some {f : α → Option (List β)} {g : α → List β} {items : List α}
    (h : ∀ a ∈ items, f a = some (g a)) : gather? f items = some (items.flatMap g) := by
  induction items with
  | nil => rfl
  | cons a rest ih =>
    obtain ⟨ha, hrest⟩ := List.forall_mem_cons.mp h
    unfold gather?
    rw [ha, ih hrest, List.flatMap_cons]

/-- What lies beneath a directory, as `walk` finds it. There is no result if the walk is cut off, because
it goes down `depth` levels, or if something cannot be listed. -/
def walk? (t : FileTree) : (depth : Nat) → (dir : Text) → Option (List (Text × Option Nat))
  | 0, _ => none
  | depth + 1, dir =>
    match t.list dir with
    | .error _ => none
    | .ok entries =>
      gather? (fun e =>
        let path := Path.join dir e.name
        if e.isDir then (walk? t depth path).map ((path, none) :: ·) else some [(path, some e.size)])
        entries

/-- The paths that a walk meets. -/
def walked (t : FileTree) (depth : Nat) (dir : Text) : List Text :=
  (t.walk depth dir).map Prod.fst

/-- What a walk meets in an entry of a directory. -/
def walkEntry (t : FileTree) (depth : Nat) (dir : Text) (e : DirEntry) : List (Text × Option Nat) :=
  let path := Path.join dir e.name
  if e.isDir then (path, none) :: t.walk depth path else [(path, some e.size)]

theorem list_of_normal (hdir : Path.Normal dir) (hfind : t.nodes.find? dir = some .dir) :
    t.list dir = .ok (t.children dir) := by
  have hlist : t.list dir = .ok (t.children (Path.normalize dir)) :=
    list_of_dir (hdir.normalize_eq.symm ▸ hfind)
  rwa [hdir.normalize_eq] at hlist

theorem walk_succ (depth : Nat) (hdir : Path.Normal dir) (hfind : t.nodes.find? dir = some .dir) :
    t.walk (depth + 1) dir = (t.children dir).flatMap (t.walkEntry depth dir) := by
  rw [FileTree.walk, list_of_normal hdir hfind]
  rfl

theorem walked_succ (depth : Nat) (hdir : Path.Normal dir) (hfind : t.nodes.find? dir = some .dir) :
    t.walked (depth + 1) dir = (t.children dir).flatMap fun e =>
      Path.join dir e.name :: if e.isDir then t.walked depth (Path.join dir e.name) else [] := by
  unfold walked
  rw [walk_succ depth hdir hfind, List.map_flatMap]
  congr 1
  funext e
  unfold walkEntry
  cases e.isDir with
  | true => rfl
  | false => rfl

/-- An entry of a directory is a file, or a directory with fewer nodes within it. -/
theorem entry_cases (hfind : t.nodes.find? dir = some .dir) {depth : Nat}
    (hdepth : t.countWithin dir ≤ depth + 1) {e : DirEntry} (he : e ∈ t.children dir) :
    (e.isDir = false ∧ ∃ bytes, t.nodes.find? (Path.join dir e.name) = some (.file bytes)) ∨
    (e.isDir = true ∧ t.nodes.find? (Path.join dir e.name) = some .dir ∧
      t.countWithin (Path.join dir e.name) ≤ depth) := by
  obtain ⟨hname, n, hn, heq⟩ := mem_children_iff.mp he
  cases n with
  | file bytes =>
    refine .inl ⟨?_, bytes, hn⟩
    rw [heq]
    rfl
  | dir =>
    have hlt := countWithin_entry_lt (u := t) hfind hname fun _ _ hq => hq
    refine .inr ⟨?_, hn, Nat.le_of_lt_succ (Nat.lt_of_lt_of_le hlt hdepth)⟩
    rw [heq]
    rfl

/-- A walk that may go down as many levels as there are nodes within a directory is not cut off, and
meets all that lies beneath the directory. -/
theorem WellFormed.walk?_eq (ht : t.WellFormed) {depth : Nat} (hfind : t.nodes.find? dir = some .dir)
    (hdepth : t.countWithin dir ≤ depth) :
    t.walk? depth dir = some (t.walk depth dir) ∧ Preorder t dir (t.walked depth dir) := by
  induction depth generalizing dir with
  | zero => exact absurd (countWithin_pos hfind) (Nat.not_lt_of_le hdepth)
  | succ depth ih =>
    have hdir := ht.normal dir .dir hfind
    constructor
    · rw [walk_succ depth hdir hfind, walk?, list_of_normal hdir hfind]
      refine gather?_eq_some fun e he => ?_
      unfold walkEntry
      rcases entry_cases hfind hdepth he with ⟨hkind, -⟩ | ⟨hkind, hsub, hless⟩
      · rw [hkind]
        rfl
      · obtain ⟨hwalk, -⟩ := ih hsub hless
        rw [if_pos hkind, if_pos hkind, hwalk]
        rfl
    · rw [walked_succ depth hdir hfind]
      refine .of_children ht hdir fun e he => ?_
      rcases entry_cases hfind hdepth he with ⟨hkind, bytes, hfile⟩ | ⟨hkind, hsub, hless⟩
      · rw [hkind]
        exact ht.preorder_of_file (hdir.join (mem_children_iff.mp he).1).ne_nil hfile
      · rw [if_pos hkind]
        exact (ih hsub hless).2

/-- A walk shows each node with its kind and size. -/
theorem find?_of_mem_walk (ht : t.WellFormed) {depth : Nat} {size : Option Nat}
    (hfind : t.nodes.find? dir = some .dir) (h : (p, size) ∈ t.walk depth dir) :
    ∃ n, t.nodes.find? p = some n ∧ size = if n.isDir then none else some n.size := by
  induction depth generalizing dir with
  | zero => cases h
  | succ depth ih =>
    rw [walk_succ depth (ht.normal dir .dir hfind) hfind] at h
    obtain ⟨e, he, hp⟩ := List.mem_flatMap.mp h
    obtain ⟨-, n, hn, heq⟩ := mem_children_iff.mp he
    unfold walkEntry at hp
    rw [heq] at hp
    cases n with
    | file bytes =>
      obtain ⟨rfl, rfl⟩ := Prod.mk.inj (List.mem_singleton.mp hp)
      exact ⟨_, hn, rfl⟩
    | dir =>
      rcases List.mem_cons.mp hp with hhere | hbelow
      · obtain ⟨rfl, rfl⟩ := Prod.mk.inj hhere
        exact ⟨_, hn, rfl⟩
      · exact ih hn hbelow

/-- A name leads to an entry of a directory if it holds no slash and leads to a node other than the
directory itself, as the empty text does from the root. -/
theorem isName_iff_of_find? (ht : t.WellFormed) {name : Text} (hdir : Path.Normal dir)
    (hn : t.nodes.find? (Path.join dir name) = some n) :
    Path.IsName name ↔ '/' ∉ name ∧ Path.join dir name ≠ dir := by
  constructor
  · intro hname
    refine ⟨hname.no_slash, fun heq => ?_⟩
    exact Nat.lt_irrefl _ (heq ▸ length_lt_join dir hname)
  · rintro ⟨hslash, hne⟩
    refine ⟨?_, hslash⟩
    rintro rfl
    have hlead : Path.join dir [] = lead dir := (join_eq_append dir []).trans (List.append_nil _)
    rw [hlead] at hn hne
    have hroot : dir ≠ Path.root := fun h => hne (if_pos h)
    rw [lead_of_ne_root hroot] at hn
    have hshort := (ht.normal _ n hn).no_trailing_slash List.getLast?_concat
    exact hdir.ne_nil (List.append_left_eq_self.mp hshort)

/-- A listing of a directory is never missing and holds exactly its entries: one for each name without a
slash that leads from the directory to another node, with the kind and the size of that node. Their names
strictly increase in the order of their UTF-8 bytes, so none is there twice; and reading the table only
from the first path beneath the directory to the last one gives the same listing. Going down from the
root through the listings ends, fails nowhere, and meets every node but the root, each once. -/
theorem list_exact (ht : t.WellFormed) (hpath : t.isDir path = true) :
    let dir := Path.normalize path
    (∃ entries, t.list path = .ok entries ∧ t.listRun path = .ok entries ∧
      entries.Pairwise (fun a b => Text.encode a.name < Text.encode b.name) ∧
      ∀ e, e ∈ entries ↔ '/' ∉ e.name ∧ Path.join dir e.name ≠ dir ∧
        ∃ n, t.nodes.find? (Path.join dir e.name) = some n ∧ e = ⟨e.name, n.isDir, n.size⟩) ∧
    (∃ depth, t.walk? depth Path.root = some t.dump) ∧
    (t.dump.map Prod.fst).Nodup ∧
    ∀ p size, (p, size) ∈ t.dump ↔ p ≠ Path.root ∧
      ∃ n, t.nodes.find? p = some n ∧ size = if n.isDir then none else some n.size := by
  intro dir
  have hdir := isDir_iff.mp hpath
  have hnormal := Path.normal_normalize path
  have hlist := list_of_dir hdir
  obtain ⟨hwalk, horder⟩ := ht.walk?_eq ht.root (countWithin_le_size t Path.root)
  refine ⟨⟨t.children dir, hlist, (t.listRun_eq path).trans hlist, ?_, fun e => ?_⟩,
    ⟨t.nodes.size, hwalk⟩, horder.nodup, fun p size => ⟨fun hmem => ?_, ?_⟩⟩
  · exact (t.pairwise_children dir).imp Text.encode_lt_of_lt
  · rw [mem_children_iff, ← and_assoc]
    refine ⟨fun ⟨hname, n, hn, heq⟩ => ?_, fun ⟨hname, n, hn, heq⟩ => ?_⟩
    · exact ⟨(isName_iff_of_find? ht hnormal hn).mp hname, n, hn, heq⟩
    · exact ⟨(isName_iff_of_find? ht hnormal hn).mpr hname, n, hn, heq⟩
  · have hp : p ∈ t.walked t.nodes.size Path.root := List.mem_map.mpr ⟨_, hmem, rfl⟩
    exact ⟨((horder.mem_iff p).mp hp).2.2, find?_of_mem_walk ht ht.root hmem⟩
  · rintro ⟨hne, n, hn, rfl⟩
    have hp := (horder.mem_iff p).mpr ⟨⟨n, hn⟩, within_root (ht.normal p n hn), hne⟩
    obtain ⟨⟨q, size⟩, hmem, rfl⟩ := List.mem_map.mp hp
    obtain ⟨m, hm, rfl⟩ := find?_of_mem_walk ht ht.root hmem
    rw [Option.some.inj (hn.symm.trans hm)]
    exact hmem

/-- Neighbours whose paths stand between that of a directory and what lies beneath it are not among its
entries. -/
theorem list_exact_neighbours :
    let t := ofChanges [.makeDir "/dir/b/c".toList, .write "/dir/a".toList [104],
      .write "/dir-x".toList [], .write "/dir.txt".toList [104, 105]]
    t.list "//dir/".toList = .ok [⟨['a'], false, 1⟩, ⟨['b'], true, 0⟩] ∧
      ("/dir-x".toList, some 0) ∈ t.dump ∧ ("/dir/b/c".toList, none) ∈ t.dump := by
  intro t
  have hdir : t.isDir "//dir/".toList = true := by decide +kernel
  obtain ⟨-, -, -, hdump⟩ := list_exact (wellFormed_ofChanges _) hdir
  refine ⟨by decide +kernel, (hdump _ _).mpr ⟨by decide +kernel, .file [], by decide +kernel, rfl⟩,
    (hdump _ _).mpr ⟨by decide +kernel, .dir, by decide +kernel, rfl⟩⟩

end VirtualTerminal.FileTree
