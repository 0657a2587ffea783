import VirtualTerminal.Proofs.FileTree

/-!
# What a listing holds

A directory is listed by what stands right beneath it in the flat table (`list_of_dir`): there is one entry
for each name under which the directory holds a node (`mem_children_iff`), in increasing order of the names
(`pairwise_children`). All paths beneath a directory follow one another in the table, so a listing may stop
at the first one that lies elsewhere (`listRun_eq`).
-/

namespace VirtualTerminal.FileTree

variable {t : FileTree} {dir name path q : Text}

theorem childName?_eq_some_iff :
    childName? dir q = some name ↔ Path.IsName name ∧ q = Path.join dir name := by
  have hname : (name ≠ [] && !name.contains '/') = true ↔ Path.IsName name := by
    simp only [Bool.and_eq_true, decide_eq_true_eq, Bool.not_eq_true', ← Bool.not_eq_true,
      List.contains_iff_mem]
    exact ⟨fun ⟨h, h'⟩ => ⟨h, h'⟩, fun ⟨h, h'⟩ => ⟨h, h'⟩⟩
  unfold childName?
  rw [Option.filter_eq_some_iff, Text.stripPrefix?_eq_some_iff, hname, join_eq_append, and_comm]

/-- The entries right beneath a path. -/
def children (t : FileTree) (dir : Text) : List DirEntry :=
  t.nodes.entries.filterMap fun (p, n) => (childName? dir p).map fun name => ⟨name, n.isDir, n.size⟩

theorem list_of_dir (h : t.nodes.find? (Path.normalize path) = some .dir) :
    t.list path = .ok (t.children (Path.normalize path)) := by
  unfold FileTree.list children
  simp only [h]

theorem eq_children_of_list {entries : List DirEntry} (h : t.list path = .ok entries) :
    entries = t.children (Path.normalize path) := by
  unfold FileTree.list at h
  dsimp only at h
  split at h
  · cases h
  · cases h
  · exact (Except.ok.inj h).symm

theorem mem_children_iff {e : DirEntry} :
    e ∈ t.children dir ↔ Path.IsName e.name ∧
      ∃ n, t.nodes.find? (Path.join dir e.name) = some n ∧ e = ⟨e.name, n.isDir, n.size⟩ := by
  unfold children
  simp only [List.mem_filterMap, Option.map_eq_some_iff, childName?_eq_some_iff, Prod.exists]
  constructor
  · rintro ⟨p, n, hmem, name, ⟨hname, rfl⟩, rfl⟩
    exact ⟨hname, n, (Table.find?_eq_some_iff _ _ _).mpr hmem, rfl⟩
  · rintro ⟨hname, n, hfind, he⟩
    exact ⟨_, n, (Table.find?_eq_some_iff _ _ _).mp hfind, e.name, ⟨hname, rfl⟩, he.symm⟩

theorem join_lt_join_iff {a b : Text} : Path.join dir a < Path.join dir b ↔ a < b := by
  rw [join_eq_append, join_eq_append]
  refine ⟨fun h => ?_, List.append_left_lt⟩
  by_contra hnot
  rcases List.le_iff_lt_or_eq.mp (List.not_lt.mp hnot) with hlt | rfl
  · exact List.lt_irrefl _ (List.lt_trans h (List.append_left_lt hlt))
  · exact List.lt_irrefl _ h

/-- The names in a directory strictly increase. -/
theorem pairwise_children (t : FileTree) (dir : Text) :
    (t.children dir).Pairwise fun a b => a.name < b.name := by
  refine List.Pairwise.filterMap _ (fun d e hlt a ha b hb => ?_) t.nodes.increasing
  obtain ⟨x, hx, rfl⟩ := Option.map_eq_some_iff.mp ha
  obtain ⟨y, hy, rfl⟩ := Option.map_eq_some_iff.mp hb
  rw [(childName?_eq_some_iff.mp hx).2, (childName?_eq_some_iff.mp hy).2] at hlt
  exact join_lt_join_iff.mp hlt

/-- What lies beneath a directory is within one of its entries. -/
theorem WellFormed.exists_child (ht : t.WellFormed) (hdir : Path.Normal dir) {n : Node}
    (hq : t.nodes.find? q = some n) (hin : Within dir q) (hne : q ≠ dir) :
    ∃ e ∈ t.children dir, Within (Path.join dir e.name) q := by
  obtain ⟨name, hname, hentry⟩ := hin.exists_entry hdir.ne_nil (ht.normal q n hq) hne
  have hthere : ∃ m, t.nodes.find? (Path.join dir name) = some m := by
    by_cases hat : q = Path.join dir name
    · exact ⟨n, hat ▸ hq⟩
    · exact ⟨_, ht.isDir_of_within (hdir.join hname).ne_nil hq hentry hat⟩
  obtain ⟨m, hm⟩ := hthere
  exact ⟨⟨name, m.isDir, m.size⟩, mem_children_iff.mpr ⟨hname, m, hm, rfl⟩, hentry⟩

/-! ## One run of paths -/

/-- The entries from the first one that does not come before a text, up to the first one whose path does
not start with that text. -/
def runFrom (lead : Text) (entries : List (Text × Node)) : List (Text × Node) :=
  (entries.dropWhile fun e => e.1 < lead).takeWhile fun e => lead.isPrefixOf e.1

/-- The entry that a path after a lead stands for: none if there is no name after the lead, or if more
follows after the name. -/
def entryAfter? (lead : Text) (e : Text × Node) : Option DirEntry :=
  let name := e.1.drop lead.length
  if name = [] ∨ '/' ∈ name then none else some ⟨name, e.2.isDir, e.2.size⟩

/-- The entries of a directory, read off the run of paths that start with its path and a slash. -/
def listRun (t : FileTree) (path : Text) : Except FileError (List DirEntry) :=
  let dir := Path.normalize path
  match t.nodes.find? dir with
  | none => .error (.noDirectory dir)
  | some (.file _) => .error (.notDirectory dir)
  | some .dir => .ok ((runFrom (lead dir) t.nodes.entries).filterMap (entryAfter? (lead dir)))

section Prefix

variable {α : Type u} [LT α] [Std.Asymm fun a b : α => a < b] [Std.Trichotomous fun a b : α => a < b]

/-- Between a list and what starts with it stands only what starts with it as well. -/
theorem isPrefix_of_between {lead p r : List α} (hle : lead ≤ p) (hlt : p < lead ++ r) : lead <+: p := by
  induction lead generalizing p with
  | nil => exact List.nil_prefix
  | cons c lead ih =>
    cases p with
    | nil => exact absurd hle (List.not_le.mpr (List.nil_lt_cons _ _))
    | cons d p =>
      rcases List.cons_le_cons_iff.mp hle with hcd | ⟨rfl, hle'⟩
      · rcases List.cons_lt_cons_iff.mp hlt with hdc | ⟨rfl, -⟩
        · exact absurd hcd (Std.Asymm.asymm _ _ hdc)
        · exact absurd hcd (Std.Asymm.asymm _ _ hcd)
      · rcases List.cons_lt_cons_iff.mp hlt with hdc | ⟨-, hlt'⟩
        · exact absurd hdc (Std.Asymm.asymm _ _ hdc)
        · exact List.cons_prefix_cons.mpr ⟨rfl, ih hle' hlt'⟩

/-- Of the items whose keys do not come before a list, those whose keys start with it come first. -/
theorem takeWhile_eq_filter [BEq α] [LawfulBEq α] {β : Type v} {key : β → List α}
    {lead : List α} {items : List β} (h : items.Pairwise fun a b => key a < key b) (hle : ∀ a ∈ items, lead ≤ key a) :
    (items.takeWhile fun a => lead.isPrefixOf (key a)) = items.filter fun a => lead.isPrefixOf (key a) := by
  induction items with
  | nil => rfl
  | cons a rest ih =>
    obtain ⟨hlater, hrest⟩ := List.pairwise_cons.mp h
    obtain ⟨ha, hle⟩ := List.forall_mem_cons.mp hle
    by_cases hlead : lead.isPrefixOf (key a) = true
    · rw [List.takeWhile_cons, List.filter_cons, if_pos hlead, if_pos hlead, ih hrest hle]
    · rw [List.takeWhile_cons, List.filter_cons, if_neg hlead, if_neg hlead]
      refine (List.filter_eq_nil_iff.mpr fun b hb hprefix => hlead ?_).symm
      obtain ⟨r, hr⟩ := List.isPrefixOf_iff_prefix.mp hprefix
      exact List.isPrefixOf_iff_prefix.mpr (isPrefix_of_between ha (hr ▸ hlater b hb))

end Prefix

/-- The run from a text on holds all entries whose paths start with it. -/
theorem runFrom_eq_filter (lead : Text) {entries : List (Text × Node)} (h : Increasing entries) :
    runFrom lead entries = entries.filter fun e => lead.isPrefixOf e.1 := by
  unfold runFrom
  induction entries with
  | nil => rfl
  | cons e rest ih =>
    obtain ⟨hlater, hrest⟩ := List.pairwise_cons.mp h
    by_cases hbefore : e.1 < lead
    · have hnot : ¬ lead.isPrefixOf e.1 = true := fun hprefix => by
        obtain ⟨r, hr⟩ := List.isPrefixOf_iff_prefix.mp hprefix
        exact List.not_lt.mpr (hr ▸ List.le_append_left) hbefore
      rw [List.dropWhile_cons, if_pos (decide_eq_true hbefore), List.filter_cons, if_neg hnot, ih hrest]
    · have hle := List.not_lt.mp hbefore
      rw [List.dropWhile_cons, if_neg (mt of_decide_eq_true hbefore)]
      refine takeWhile_eq_filter h (List.forall_mem_cons.mpr ⟨hle, fun d hd => ?_⟩)
      exact List.le_of_lt (List.lt_of_le_of_lt hle (hlater d hd))

theorem entryAfter?_eq {e : Text × Node} (h : lead dir <+: e.1) :
    entryAfter? (lead dir) e = (childName? dir e.1).map fun name => ⟨name, e.2.isDir, e.2.size⟩ := by
  obtain ⟨rest, hrest⟩ := h
  unfold entryAfter? childName?
  rw [← hrest, List.drop_left, Text.stripPrefix?_eq_some_iff.mpr rfl, Option.filter_some]
  by_cases hnil : rest = []
  · simp [hnil]
  · by_cases hslash : '/' ∈ rest
    · simp [hslash]
    · simp [hnil, hslash]

theorem childName?_eq_none (h : ¬ lead dir <+: q) : childName? dir q = none := by
  rw [Option.eq_none_iff_forall_ne_some]
  intro name hname
  rw [(childName?_eq_some_iff.mp hname).2, join_eq_append] at h
  exact h (List.prefix_append _ _)

theorem filterMap_runFrom (t : FileTree) (dir : Text) :
    (runFrom (lead dir) t.nodes.entries).filterMap (entryAfter? (lead dir)) = t.children dir := by
  rw [runFrom_eq_filter _ t.nodes.increasing, List.filterMap_filter]
  refine List.filterMap_congr fun e _ => ?_
  by_cases hlead : (lead dir).isPrefixOf e.1 = true
  · rw [if_pos hlead, entryAfter?_eq (List.isPrefixOf_iff_prefix.mp hlead)]
  · rw [if_neg hlead]
    show none = (childName? dir e.1).map _
    rw [childName?_eq_none (mt List.isPrefixOf_iff_prefix.mpr hlead)]
    rfl

/-- A listing may stop at the first path that does not lie beneath the directory. -/
theorem listRun_eq (t : FileTree) (path : Text) : t.listRun path = t.list path := by
  unfold listRun FileTree.list
  dsimp only
  cases t.nodes.find? (Path.normalize path) with
  | none => rfl
  | some n =>
    cases n with
    | file bytes => rfl
    | dir => exact congrArg _ (t.filterMap_runFrom _)

end VirtualTerminal.FileTree
