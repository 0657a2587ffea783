import VirtualTerminal.Proofs.FileTree.Creation
import VirtualTerminal.Proofs.FileTree.Seed
import VirtualTerminal.Proofs.Path.Dotless

/-!
# Trees without dots

A tree may hold entries named `.` and `..`, for its operations look at a path as it is. But the first tree
has no such entry if the home directory has no such component (`Seed.dotless_tree`), and operations at paths
without dots make none (`Dotless.write`, `Dotless.makeDir`).
-/

namespace VirtualTerminal

namespace FileTree

/-- Whether no path of a tree has a component `.` or `..`. -/
def Dotless (t : FileTree) : Prop :=
  ∀ p n, t.nodes.find? p = some n → Path.Dotless p

variable {t t' : FileTree} {p path : Text}

theorem dotless_empty : empty.Dotless := by
  intro p n h
  rw [empty, Table.find?_insert] at h
  split at h
  next heq =>
    rw [← heq]
    decide +kernel
  next => cases h

theorem Dotless.insert (ht : t.Dotless) (hp : Path.Dotless p) (n : Node) :
    Dotless ⟨t.nodes.insert p n⟩ := by
  intro q m h
  rw [Table.find?_insert] at h
  split at h
  next heq => exact heq ▸ hp
  next => exact ht q m h

theorem Dotless.erase (ht : t.Dotless) (p : Text) : Dotless ⟨t.nodes.erase p⟩ := by
  intro q m h
  rw [Table.find?_erase] at h
  split at h
  next => cases h
  next => exact ht q m h

theorem Dotless.write (ht : t.Dotless) (hpath : Path.Dotless path) {bytes : List UInt8}
    (h : t.write path bytes = .ok t') : t'.Dotless := by
  unfold FileTree.write at h
  dsimp only at h
  split at h
  · cases h
  · split at h
    · cases h
    · cases h
    · cases h
      exact ht.insert hpath.normalize _

theorem Dotless.makeDirFuel (ht : t.Dotless) {fuel : Nat} (hnormal : Path.Normal p)
    (hp : Path.Dotless p) (h : t.makeDirFuel fuel p = .ok t') : t'.Dotless := by
  induction fuel generalizing p t' with
  | zero =>
    cases h
    exact ht
  | succ fuel ih =>
    cases hfind : t.nodes.find? p with
    | some n =>
      unfold FileTree.makeDirFuel at h
      simp only [hfind] at h
      cases n with
      | file bytes => cases h
      | dir =>
        cases h
        exact ht
    | none =>
      by_cases hroot : p = Path.root
      · subst hroot
        unfold FileTree.makeDirFuel at h
        simp only [hfind] at h
        cases h
        exact ht.insert hp _
      · obtain ⟨name, hname, hjoin, hparent⟩ := hnormal.exists_eq_join_parent hroot
        have hlt := hnormal.length_parent_lt hroot
        have hdir : Path.parent p ≠ p := fun heq => by
          rw [heq] at hlt
          exact Nat.lt_irrefl _ hlt
        rw [makeDirFuel_of_missing hfind hdir] at h
        cases hmake : t.makeDirFuel fuel (Path.parent p) with
        | error e =>
          rw [hmake] at h
          cases h
        | ok u =>
          rw [hmake] at h
          cases h
          have hdirs : Path.Dotless (Path.parent p) := ((Path.dotless_join hname).mp (hjoin ▸ hp)).1
          exact (ih hparent hdirs hmake).insert hp _

theorem Dotless.makeDir (ht : t.Dotless) (hpath : Path.Dotless path) (h : t.makeDir path = .ok t') :
    t'.Dotless :=
  ht.makeDirFuel (Path.normal_normalize path) hpath.normalize h

theorem Dotless.remove (ht : t.Dotless) (h : t.remove path = .ok t') : t'.Dotless := by
  unfold FileTree.remove at h
  dsimp only at h
  split at h
  · cases h
  · split at h
    · cases h
    · cases h
      exact ht.erase _
    · split at h
      · cases h
      · cases h
        exact ht.erase _

/-- The entries of a directory in a tree without dots have names without dots. -/
theorem Dotless.isEntry (ht : t.Dotless) {dir name : Text} (hname : Path.IsName name) {n : Node}
    (hfind : t.nodes.find? (Path.join dir name) = some n) : Path.IsEntry name :=
  ((Path.dotless_join hname).mp (ht _ n hfind)).2

end FileTree

/-! ## The first tree -/

namespace Seed

open FileTree

variable {home : Text}

theorem dotless_of_mem_pathsThrough {above : Text} {parts : List Text} (habove : Path.Dotless above)
    (hparts : ∀ part ∈ parts, Path.IsEntry part) : ∀ p ∈ pathsThrough above parts, Path.Dotless p := by
  induction parts generalizing above with
  | nil => exact fun p hp => absurd hp List.not_mem_nil
  | cons part rest ih =>
    obtain ⟨hpart, hrest⟩ := List.forall_mem_cons.mp hparts
    have hpath := habove.append_cons hpart.dotless
    exact List.forall_mem_cons.mpr ⟨hpath, ih hpath hrest⟩

theorem dotless_of_mem_ancestors (hhome : Path.Dotless home) : ∀ p ∈ ancestors home, Path.Dotless p :=
  dotless_of_mem_pathsThrough (by decide +kernel) fun _ => hhome.isEntry_of_mem

theorem dotless_own (hhome : Path.Dotless home) {rel : Text}
    (hrel : rel ∈ ownDirectories ++ ownFiles.map (·.1)) : Path.Dotless (home ++ rel) := by
  have hall : ∀ rel ∈ ownDirectories ++ ownFiles.map (·.1), rel.head? = some '/' ∧ Path.Dotless rel.tail := by
    decide +kernel
  obtain ⟨habsolute, hdots⟩ := hall rel hrel
  obtain ⟨rest, rfl⟩ := List.head?_eq_some_iff.mp habsolute
  exact hhome.append_cons hdots

theorem dotless_of_mem_entries (hhome : Path.Dotless home) {p : Text} {x : Option Text}
    (hx : (p, x) ∈ entries home) : Path.Dotless p := by
  cases x with
  | none =>
    rcases mem_entries_dir.mp hx with hp | rfl | rfl | ⟨rel, hrel, rfl⟩
    · exact dotless_of_mem_ancestors hhome p hp
    · decide +kernel
    · decide +kernel
    · exact dotless_own hhome (List.mem_append_left _ hrel)
  | some s =>
    rcases mem_entries_file.mp hx with ⟨rfl, -⟩ | ⟨rel, hrel, rfl⟩
    · decide +kernel
    · exact dotless_own hhome (mem_own_of_mem_ownFiles hrel)

/-- The first tree for a home directory without dots has none. -/
theorem dotless_tree (hhome : Path.Dotless home) : (tree home).Dotless := by
  intro p n h
  rw [tree_eq] at h
  obtain ⟨x, hx, -⟩ | ⟨-, hempty⟩ := find?_ofEntries (entries home) p
  · exact dotless_of_mem_entries hhome hx
  · exact dotless_empty p n (hempty ▸ h)

end Seed

end VirtualTerminal
