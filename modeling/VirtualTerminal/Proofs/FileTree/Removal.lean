import Mathlib.Data.List.Perm.Subperm
import VirtualTerminal.Proofs.FileTree.Listing

/-!
# Removing with all beneath

Removal goes down through the listings of directories while the table shrinks under it. What is removed
with an entry takes away no other entry of the same directory (`Within.name_eq`), so when all entries have
been removed the directory is empty (`RemovesWithin.forEach?_children`) and can be removed as well; and it
never goes down more levels than there are nodes within the path (`removesWithin`). So exactly the path
and what lies beneath it are gone (`removeAll_exact`).
-/

namespace VirtualTerminal.FileTree

variable {t u : FileTree} {p q path name : Text} {n : Node}

theorem ext_find? (h : ∀ q, t.nodes.find? q = u.nodes.find? q) : t = u :=
  congrArg FileTree.mk (Table.ext_find? h)

/-! ## Trees without a path -/

/-- The tree without a path and all beneath it. -/
def without (t : FileTree) (p : Text) : FileTree :=
  ⟨t.nodes.filter fun q _ => ¬ Within p q⟩

/-- The tree without all that lies beneath a path. -/
def emptied (t : FileTree) (p : Text) : FileTree :=
  ⟨t.nodes.filter fun q _ => ¬ (q ≠ p ∧ Within p q)⟩

theorem find?_filter_not (nodes : Table Node) (P : Text → Prop) [DecidablePred P] (q : Text) :
    (nodes.filter fun q _ => ¬ P q).find? q = if P q then none else nodes.find? q := by
  rw [Table.find?_filter]
  by_cases h : P q
  · cases nodes.find? q <;> simp [h]
  · cases nodes.find? q <;> simp [h]

theorem find?_without (t : FileTree) (p q : Text) :
    (t.without p).nodes.find? q = if Within p q then none else t.nodes.find? q :=
  find?_filter_not t.nodes (Within p) q

theorem find?_emptied (t : FileTree) (p q : Text) :
    (t.emptied p).nodes.find? q = if q ≠ p ∧ Within p q then none else t.nodes.find? q :=
  find?_filter_not t.nodes (fun q => q ≠ p ∧ Within p q) q

theorem without_emptied (t : FileTree) (p : Text) : (t.emptied p).without p = t.without p := by
  refine ext_find? fun q => ?_
  rw [find?_without, find?_without, find?_emptied]
  by_cases h : Within p q
  · rw [if_pos h, if_pos h]
  · rw [if_neg h, if_neg h, if_neg fun hboth => h hboth.2]

theorem find?_without_eq_some_iff :
    (t.without p).nodes.find? q = some n ↔ t.nodes.find? q = some n ∧ ¬ Within p q := by
  rw [find?_without]
  split
  next hin => exact iff_of_false (fun h => nomatch h) fun h => h.2 hin
  next hout => exact (and_iff_left hout).symm

theorem WellFormed.without (ht : t.WellFormed) (hp : p ≠ []) (hroot : p ≠ Path.root) :
    (t.without p).WellFormed := by
  refine ⟨fun q n hq => ht.normal q n (find?_without_eq_some_iff.mp hq).1, ?_, fun q n hq hne => ?_⟩
  · exact find?_without_eq_some_iff.mpr ⟨ht.root, fun h => hroot (eq_root_of_within hp h)⟩
  · obtain ⟨hfound, hout⟩ := find?_without_eq_some_iff.mp hq
    have hup := within_parent (ht.normal q n hfound) hne
    exact find?_without_eq_some_iff.mpr ⟨ht.parent q n hfound hne, fun h => hout (h.trans hup)⟩

/-- What has nothing beneath it can be removed. -/
theorem remove_of_bare (hroot : Path.normalize path ≠ Path.root)
    (hfind : t.nodes.find? (Path.normalize path) = some n)
    (hbare : ∀ q m, t.nodes.find? q = some m → Within (Path.normalize path) q →
      q = Path.normalize path) :
    t.remove path = .ok (t.without (Path.normalize path)) := by
  generalize hp : Path.normalize path = p at *
  have herase : (⟨t.nodes.erase p⟩ : FileTree) = t.without p := by
    refine ext_find? fun q => ?_
    rw [find?_without, Table.find?_erase]
    by_cases hq : q = p
    · rw [if_pos hq, if_pos (hq ▸ within_refl _)]
    · rw [if_neg hq]
      split
      next hin =>
        cases hfound : t.nodes.find? q with
        | none => rfl
        | some m => exact absurd (hbare q m hfound hin) hq
      next => rfl
  have hempty : ¬ t.nodes.keys.any (p ++ ['/']).isPrefixOf = true := by
    intro hany
    obtain ⟨q, hq, hlead⟩ := List.any_eq_true.mp hany
    obtain ⟨m, hm⟩ := Option.isSome_iff_exists.mp ((Table.mem_keys_iff _ q).mp hq)
    have hlead := List.isPrefixOf_iff_prefix.mp hlead
    have hlength := hlead.length_le
    rw [hbare q m hm ((within_iff hroot).mpr (.inr hlead)), List.length_append,
      List.length_singleton] at hlength
    omega
  unfold FileTree.remove
  simp only [hp, if_neg hroot, hfind]
  cases n with
  | file bytes => exact congrArg _ herase
  | dir => exact (if_neg hempty).trans (congrArg _ herase)

/-- A file can be removed: nothing lies beneath it. -/
theorem WellFormed.remove_of_file (ht : t.WellFormed) {bytes : List UInt8}
    (hfile : t.nodes.find? (Path.normalize path) = some (.file bytes)) :
    t.remove path = .ok (t.without (Path.normalize path)) := by
  have hroot : Path.normalize path ≠ Path.root := fun hroot => by
    rw [hroot, ht.root] at hfile
    cases hfile
  refine remove_of_bare hroot hfile fun q m hq hin => ?_
  by_contra hne
  rw [ht.isDir_of_within (Path.normal_normalize path).ne_nil hq hin hne] at hfile
  cases hfile

/-! ## How deep removal goes -/

/-- How many nodes stand at a path and beneath it. -/
def countWithin (t : FileTree) (p : Text) : Nat :=
  (t.nodes.keys.filter fun q => Within p q).length

theorem countWithin_le_size (t : FileTree) (p : Text) : t.countWithin p ≤ t.nodes.size := by
  refine Nat.le_trans (List.length_filter_le _ _) (Nat.le_of_eq ?_)
  exact List.length_map _

theorem mem_within_iff : q ∈ t.nodes.keys.filter (fun q => Within p q) ↔
    (∃ n, t.nodes.find? q = some n) ∧ Within p q := by
  rw [List.mem_filter, Table.mem_keys_iff, Option.isSome_iff_exists, decide_eq_true_iff]

theorem countWithin_pos (hfind : t.nodes.find? p = some n) : 0 < t.countWithin p :=
  List.length_pos_of_mem (mem_within_iff.mpr ⟨⟨n, hfind⟩, within_refl p⟩)

/-- Fewer nodes stand at an entry and beneath it than at its directory, also once some of them have been
removed. -/
theorem countWithin_entry_lt (hdir : t.nodes.find? p = some n) (hname : Path.IsName name)
    (hsub : ∀ q m, u.nodes.find? q = some m → t.nodes.find? q = some m) :
    u.countWithin (Path.join p name) < t.countWithin p := by
  have hnodup : (p :: u.nodes.keys.filter fun q => Within (Path.join p name) q).Nodup := by
    refine List.nodup_cons.mpr ⟨fun hmem => ?_, u.nodes.nodup_keys.filter _⟩
    exact not_within_join_self p hname (mem_within_iff.mp hmem).2
  have hsubset : (p :: u.nodes.keys.filter fun q => Within (Path.join p name) q) ⊆
      t.nodes.keys.filter fun q => Within p q := by
    refine List.cons_subset.mpr ⟨mem_within_iff.mpr ⟨⟨n, hdir⟩, within_refl p⟩, fun q hq => ?_⟩
    obtain ⟨⟨m, hm⟩, hin⟩ := mem_within_iff.mp hq
    exact mem_within_iff.mpr ⟨⟨m, hsub q m hm⟩, (within_join_self p name).trans hin⟩
  exact (List.subperm_of_subset hnodup hsubset).length_le

/-! ## Removal that is cut off -/

/-- Applies an operation that may be cut off to the items of a list, one after the other, up to the first
failure. -/
def forEach? (f : α → FileTree → Option (Except FileError Unit × FileTree)) :
    List α → FileTree → Option (Except FileError Unit × FileTree)
  | [], t => some (.ok (), t)
  | a :: rest, t =>
    match f a t with
    | none => none
    | some (.ok (), t) => forEach? f rest t
    | some (.error e, t) => some (.error e, t)

/-- Removes what stands at a path and all beneath it, and is cut off if it goes down `depth` levels. -/
def removeAll? : (depth : Nat) → (path : Text) → FileTree → Option (Except FileError Unit × FileTree)
  | 0, _, _ => none
  | depth + 1, path, t =>
    match t.stat path with
    | .error e => some (.error e, t)
    | .ok (.file _) => some (t.attempt (t.remove path))
    | .ok .dir =>
      match t.list path with
      | .error e => some (.error e, t)
      | .ok entries =>
        match forEach? (fun e => removeAll? depth (Path.join path e.name)) entries t with
        | none => none
        | some (.ok (), t) => some (t.attempt (t.remove path))
        | some (.error e, t) => some (.error e, t)

theorem forEach_eq_of_forEach? {f : α → FileTree → Option (Except FileError Unit × FileTree)}
    {g : α → FileTree → Except FileError Unit × FileTree}
    (hfg : ∀ a t r, f a t = some r → g a t = r) {items : List α}
    {r : Except FileError Unit × FileTree} (h : forEach? f items t = some r) :
    forEach g items t = r := by
  induction items generalizing t with
  | nil => exact Option.some.inj h
  | cons a rest ih =>
    unfold forEach? at h
    unfold FileTree.forEach
    split at h
    · cases h
    next u heq =>
      rw [hfg a t _ heq]
      exact ih h
    next e u heq =>
      rw [hfg a t _ heq]
      exact Option.some.inj h

/-- A removal that is not cut off is the same whatever bound is put on its depth. -/
theorem removeAllFuel_eq_of_removeAll? {depth fuel : Nat} (hle : depth ≤ fuel)
    {r : Except FileError Unit × FileTree} (h : removeAll? depth path t = some r) :
    removeAllFuel fuel path t = r := by
  induction depth generalizing fuel path t r with
  | zero => cases h
  | succ depth ih =>
    obtain ⟨k, rfl⟩ : ∃ k, fuel = k + 1 := ⟨fuel - 1, by omega⟩
    have heach : ∀ (e : DirEntry) t r, removeAll? depth (Path.join path e.name) t = some r →
        removeAllFuel k (Path.join path e.name) t = r := fun e t r hr => ih (by omega) hr
    unfold removeAll? at h
    unfold FileTree.removeAllFuel
    cases hstat : t.stat path with
    | error e => simpa [hstat] using h
    | ok m =>
      cases m with
      | file bytes => simpa [hstat] using h
      | dir =>
        simp only [hstat] at h ⊢
        cases hlist : t.list path with
        | error e => simpa [hlist] using h
        | ok entries =>
          simp only [hlist] at h ⊢
          split at h
          · cases h
          next u hloop =>
            rw [forEach_eq_of_forEach? heach hloop]
            exact Option.some.inj h
          next e u hloop =>
            rw [forEach_eq_of_forEach? heach hloop]
            exact Option.some.inj h

/-! ## What is removed -/

theorem stat_of_find? (hfind : t.nodes.find? (Path.normalize path) = some n) :
    t.stat path = .ok n := by
  unfold FileTree.stat
  simp only [hfind]

theorem stat_of_missing (hfind : t.nodes.find? (Path.normalize path) = none) :
    t.stat path = .error (.noPath (Path.normalize path)) := by
  unfold FileTree.stat
  simp only [hfind]

/-- The tree without what some entries of a directory hold. -/
def withoutEach (t : FileTree) (p : Text) (entries : List DirEntry) : FileTree :=
  entries.foldl (fun t e => t.without (Path.join p e.name)) t

theorem find?_withoutEach (t : FileTree) (p q : Text) (entries : List DirEntry) :
    (t.withoutEach p entries).nodes.find? q =
      if ∃ e ∈ entries, Within (Path.join p e.name) q then none else t.nodes.find? q := by
  induction entries generalizing t with
  | nil => simp [withoutEach]
  | cons e rest ih =>
    show ((t.without (Path.join p e.name)).withoutEach p rest).nodes.find? q = _
    rw [ih, find?_without]
    by_cases he : Within (Path.join p e.name) q
    · simp [he]
    · simp [he]

/-- A directory without what its entries hold holds nothing. -/
theorem WellFormed.withoutEach_children (ht : t.WellFormed) (hp : Path.Normal p) :
    t.withoutEach p (t.children p) = t.emptied p := by
  refine ext_find? fun q => ?_
  rw [find?_withoutEach, find?_emptied]
  cases hq : t.nodes.find? q with
  | none => simp
  | some m =>
    refine if_congr ⟨?_, ?_⟩ rfl rfl
    · rintro ⟨e, he, hin⟩
      have hname := (mem_children_iff.mp he).1
      refine ⟨?_, (within_join_self p e.name).trans hin⟩
      rintro rfl
      exact not_within_join_self _ hname hin
    · rintro ⟨hne, hin⟩
      exact ht.exists_child hp hq hin hne

/-- Whether a removal that is cut off at a depth takes away all that stands within a path, if that is
not more nodes than the depth. -/
def RemovesWithin (depth : Nat) : Prop :=
  ∀ path t n, t.WellFormed → Path.normalize path ≠ Path.root →
    t.nodes.find? (Path.normalize path) = some n → t.countWithin (Path.normalize path) ≤ depth →
    removeAll? depth path t = some (.ok (), t.without (Path.normalize path))

/-- Entries of a directory that are removed one after the other do not get in each other's way. -/
theorem RemovesWithin.forEach? {depth : Nat} (hremoves : RemovesWithin depth)
    {entries : List DirEntry} (hp : Path.Normal (Path.normalize path))
    (hdir : t.nodes.find? (Path.normalize path) = some n)
    (hdepth : t.countWithin (Path.normalize path) ≤ depth + 1) (hu : u.WellFormed)
    (hsub : ∀ q m, u.nodes.find? q = some m → t.nodes.find? q = some m)
    (hpairwise : entries.Pairwise fun a b => a.name < b.name)
    (hentries : ∀ e ∈ entries, Path.IsName e.name ∧
      ∃ m, u.nodes.find? (Path.join (Path.normalize path) e.name) = some m) :
    FileTree.forEach? (fun e => removeAll? depth (Path.join path e.name)) entries u =
      some (.ok (), u.withoutEach (Path.normalize path) entries) := by
  induction entries generalizing u with
  | nil => rfl
  | cons e rest ih =>
    obtain ⟨hlt, hrest⟩ := List.pairwise_cons.mp hpairwise
    obtain ⟨⟨hname, m, hm⟩, hothers⟩ := List.forall_mem_cons.mp hentries
    have hjoin := normalize_join path hname
    have hremoved := hremoves (Path.join path e.name) u m hu
      (hjoin ▸ Path.join_ne_root hname) (hjoin ▸ hm)
      (hjoin ▸ Nat.le_of_lt_succ (Nat.lt_of_lt_of_le (countWithin_entry_lt hdir hname hsub) hdepth))
    rw [hjoin] at hremoved
    unfold FileTree.forEach?
    simp only [hremoved]
    refine ih (hu.without (hp.join hname).ne_nil (Path.join_ne_root hname))
      (fun q m hq => hsub q m (find?_without_eq_some_iff.mp hq).1) hrest fun d hd => ?_
    · obtain ⟨hdname, k, hk⟩ := hothers d hd
      have hapart : ¬ Within (Path.join (Path.normalize path) e.name)
          (Path.join (Path.normalize path) d.name) :=
        fun hin => List.lt_irrefl _ (hin.name_eq hp hname hdname ▸ hlt d hd)
      exact ⟨hdname, k, by rw [find?_without, if_neg hapart, hk]⟩

/-- Removing all entries of a directory leaves it empty. -/
theorem RemovesWithin.forEach?_children {depth : Nat} (hremoves : RemovesWithin depth)
    (ht : t.WellFormed) (hdir : t.nodes.find? (Path.normalize path) = some n)
    (hdepth : t.countWithin (Path.normalize path) ≤ depth + 1) :
    FileTree.forEach? (fun e => removeAll? depth (Path.join path e.name))
        (t.children (Path.normalize path)) t =
      some (.ok (), t.emptied (Path.normalize path)) := by
  have hp := Path.normal_normalize path
  rw [← ht.withoutEach_children hp]
  refine hremoves.forEach? hp hdir hdepth ht (fun _ _ hq => hq) (pairwise_children t _) fun e he => ?_
  obtain ⟨hname, m, hm, -⟩ := mem_children_iff.mp he
  exact ⟨hname, m, hm⟩

/-- Removal goes down no more levels than there are nodes within the path. -/
theorem removesWithin (depth : Nat) : RemovesWithin depth := by
  induction depth with
  | zero =>
    intro path t n _ _ hfind hdepth
    exact absurd (countWithin_pos hfind) (Nat.not_lt_of_le hdepth)
  | succ depth ih =>
    intro path t n ht hroot hfind hdepth
    have hp := Path.normal_normalize path
    unfold removeAll?
    simp only [stat_of_find? hfind]
    cases n with
    | file bytes =>
      rw [ht.remove_of_file hfind]
      rfl
    | dir =>
      have hstays : (t.emptied (Path.normalize path)).nodes.find? (Path.normalize path) = some .dir := by
        rw [find?_emptied, if_neg fun h => h.1 rfl, hfind]
      have hremove : (t.emptied (Path.normalize path)).remove path =
          .ok (t.without (Path.normalize path)) := by
        rw [← without_emptied]
        refine remove_of_bare hroot hstays fun q m hq hin => ?_
        by_contra hne
        rw [find?_emptied, if_pos ⟨hne, hin⟩] at hq
        cases hq
      simp only [list_of_dir hfind, ih.forEach?_children ht hfind hdepth, hremove]
      rfl

theorem WellFormed.size_pos (ht : t.WellFormed) : 0 < t.nodes.size :=
  Nat.lt_of_lt_of_le (countWithin_pos ht.root) (countWithin_le_size t Path.root)

/-- In a well-formed tree a removal is never cut off: what it does is what it would do without a bound on
its depth. -/
theorem WellFormed.removeAll?_of_exists (ht : t.WellFormed) (hroot : Path.normalize path ≠ Path.root)
    (hfind : t.nodes.find? (Path.normalize path) = some n) :
    removeAll? t.nodes.size path t = some (.ok (), t.without (Path.normalize path)) :=
  removesWithin t.nodes.size path t n ht hroot hfind (countWithin_le_size t _)

theorem WellFormed.removeAll?_of_missing (ht : t.WellFormed)
    (hfind : t.nodes.find? (Path.normalize path) = none) :
    removeAll? t.nodes.size path t = some (.error (.noPath (Path.normalize path)), t) := by
  obtain ⟨k, hk⟩ := Nat.exists_eq_succ_of_ne_zero (Nat.ne_of_gt ht.size_pos)
  rw [hk]
  unfold removeAll?
  simp only [stat_of_missing hfind]

theorem WellFormed.removeAll_of_exists (ht : t.WellFormed) (hroot : Path.normalize path ≠ Path.root)
    (hfind : t.nodes.find? (Path.normalize path) = some n) :
    t.removeAll path = (.ok (), t.without (Path.normalize path)) :=
  removeAllFuel_eq_of_removeAll? (Nat.le_refl _) (ht.removeAll?_of_exists hroot hfind)

theorem WellFormed.removeAll_of_missing (ht : t.WellFormed)
    (hfind : t.nodes.find? (Path.normalize path) = none) :
    t.removeAll path = (.error (.noPath (Path.normalize path)), t) :=
  removeAllFuel_eq_of_removeAll? (Nat.le_refl _) (ht.removeAll?_of_missing hfind)

theorem WellFormed.exists_removeAll?_eq (ht : t.WellFormed) (hroot : Path.normalize path ≠ Path.root) :
    ∃ depth, removeAll? depth path t = some (t.removeAll path) := by
  refine ⟨t.nodes.size, ?_⟩
  cases hfind : t.nodes.find? (Path.normalize path) with
  | none => rw [ht.removeAll_of_missing hfind, ht.removeAll?_of_missing hfind]
  | some n => rw [ht.removeAll_of_exists hroot hfind, ht.removeAll?_of_exists hroot hfind]

/-- Removing what stands at a path other than the root, with all beneath it, is never cut off. If there
is something, exactly that path and those that go on from it with a slash are gone, and all else stays as
it was. If there is nothing, that is an error, and nothing changes. -/
theorem removeAll_exact (ht : t.WellFormed) (hroot : Path.normalize path ≠ Path.root) :
    let p := Path.normalize path
    (∃ depth, removeAll? depth path t = some (t.removeAll path)) ∧
      (t.holds path = true → (t.removeAll path).1 = .ok () ∧
        ∀ q n, (t.removeAll path).2.nodes.find? q = some n ↔
          t.nodes.find? q = some n ∧ q ≠ p ∧ ¬ p ++ ['/'] <+: q) ∧
      (t.holds path = false → t.removeAll path = (.error (.noPath p), t)) := by
  intro p
  refine ⟨ht.exists_removeAll?_eq hroot, fun hholds => ?_, fun hholds => ?_⟩
  · obtain ⟨m, hfind⟩ := Option.isSome_iff_exists.mp hholds
    rw [ht.removeAll_of_exists hroot hfind]
    refine ⟨rfl, fun q n => ?_⟩
    rw [find?_without, ← not_or, ← within_iff hroot]
    split
    next hin => exact iff_of_false (fun h => nomatch h) fun h => h.2 hin
    next hout => exact (and_iff_left hout).symm
  · have hnone := Option.isSome_eq_false_iff.mp hholds
    exact ht.removeAll_of_missing (Option.isNone_iff_eq_none.mp hnone)

/-- Removing a directory, spelled with more slashes than needed, leaves its neighbours alone. -/
theorem removeAll_exact_neighbours :
    let t := ofChanges [.makeDir "/dir/a".toList, .write "/dir/a/f".toList [104],
      .makeDir "/dir2".toList, .write "/dir-x".toList []]
    (t.removeAll "//dir/".toList).1 = .ok () ∧
      (t.removeAll "//dir/".toList).2.nodes.keys = ["/", "/dir-x", "/dir2"].map String.toList ∧
      (t.removeAll "//dir/".toList).2.nodes.find? "/dir/a/f".toList = none := by
  intro t
  have hroot : Path.normalize "//dir/".toList ≠ Path.root := by decide +kernel
  obtain ⟨-, hthere, -⟩ := removeAll_exact (t := t) (wellFormed_ofChanges _) hroot
  obtain ⟨hok, hleft⟩ := hthere (by decide +kernel)
  refine ⟨hok, by decide +kernel, Option.eq_none_iff_forall_ne_some.mpr fun n hn => ?_⟩
  exact ((hleft _ n).mp hn).2.2 (by decide +kernel)

end VirtualTerminal.FileTree
