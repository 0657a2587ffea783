import VirtualTerminal.Proofs.FileTree.Within

/-!
# Trees of files are trees

A tree is kept as a flat table of paths, and nothing in that type says that the paths form a tree.
The operations keep it one (`WellFormed.change`): every path is in normal form, and every entry but
the root lies in a directory. So nothing ever lies beneath a file (`WellFormed.isDir_of_beneath`).
-/

namespace VirtualTerminal.FileTree

/-- Whether the paths of a tree form one: they are in normal form, the root is a directory, and so is
what every other path lies in. -/
structure WellFormed (t : FileTree) : Prop where
  normal : ∀ p n, t.nodes.find? p = some n → Path.Normal p
  root : t.nodes.find? Path.root = some .dir
  parent : ∀ p n, t.nodes.find? p = some n → p ≠ Path.root →
    t.nodes.find? (Path.parent p) = some .dir

variable {t t' : FileTree} {p : Text}

theorem wellFormed_empty : empty.WellFormed := by
  have hroot : ∀ p n, empty.nodes.find? p = some n → p = Path.root := by
    intro p n h
    unfold empty at h
    rw [Table.find?_insert] at h
    split at h
    next heq => exact heq.symm
    next => cases h
  refine ⟨fun p n h => ?_, rfl, fun p n h hp => absurd (hroot p n h) hp⟩
  rw [hroot p n h]
  exact Path.normal_root

/-! ## Beneath a path -/

/-- What has something within it besides itself is a directory. -/
theorem WellFormed.isDir_of_within (ht : t.WellFormed) (hp : p ≠ []) {q : Text} {n : Node}
    (hq : t.nodes.find? q = some n) (hin : Within p q) (hne : q ≠ p) :
    t.nodes.find? p = some .dir := by
  -- the path may lie several levels deeper, so the induction goes up from it
  suffices hup : ∀ n, t.nodes.find? q = some n → Within p q → q ≠ p →
      t.nodes.find? p = some .dir from hup n hq hin hne
  refine Path.normal_induction (fun n _ hin hne => ?_)
    (fun dir name hdir hname ih n hq hin hne => ?_) (ht.normal q n hq)
  · exact absurd (eq_root_of_within hp hin).symm hne
  · have hfind := ht.parent _ n hq (Path.join_ne_root hname)
    rw [Path.parent_join hdir.ne_nil hname] at hfind
    by_cases hat : dir = p
    · exact hat ▸ hfind
    · exact ih .dir hfind (((within_join hp hdir hname).mp hin).resolve_left hne) hat

/-- What has something beneath it is a directory. -/
theorem WellFormed.isDir_of_beneath (ht : t.WellFormed) (hp : p ≠ []) {q : Text} {n : Node}
    (hq : t.nodes.find? q = some n) (hbeneath : p ++ ['/'] <+: q) :
    t.nodes.find? p = some .dir := by
  by_cases hroot : p = Path.root
  · rw [hroot]
    exact ht.root
  · refine ht.isDir_of_within hp hq ((within_iff hroot).mpr (.inr hbeneath)) ?_
    rintro rfl
    have hlength := hbeneath.length_le
    rw [List.length_append, List.length_singleton] at hlength
    omega

/-! ## Directories that stay -/

/-- Whether all directories of a tree are directories of another one too. -/
def DirsStay (t t' : FileTree) : Prop :=
  ∀ p, t.nodes.find? p = some .dir → t'.nodes.find? p = some .dir

theorem DirsStay.refl (t : FileTree) : t.DirsStay t :=
  fun _ h => h

theorem DirsStay.trans {t'' : FileTree} (h₁ : t.DirsStay t') (h₂ : t'.DirsStay t'') :
    t.DirsStay t'' :=
  fun p h => h₂ p (h₁ p h)

theorem dirsStay_insert {n : Node} (hkeep : n = .dir ∨ t.nodes.find? p ≠ some .dir) :
    t.DirsStay ⟨t.nodes.insert p n⟩ := by
  intro q hq
  dsimp only
  rw [Table.find?_insert]
  split
  next h =>
    subst h
    rcases hkeep with rfl | hkeep
    · rfl
    · exact absurd hq hkeep
  next => exact hq

theorem isDir_iff : t.isDir p = true ↔ t.nodes.find? (Path.normalize p) = some .dir := by
  unfold isDir node?
  cases t.nodes.find? (Path.normalize p) with
  | none => simp
  | some n => cases n <;> simp [Node.isDir]

theorem node?_of_normal (hp : Path.Normal p) : t.node? p = t.nodes.find? p := by
  unfold node?
  rw [hp.normalize_eq]

theorem holds_of_normal (hp : Path.Normal p) : t.holds p = (t.nodes.find? p).isSome := by
  unfold holds
  rw [node?_of_normal hp]

theorem isDir_of_find? {n : Node} (hp : Path.Normal p) (hfind : t.nodes.find? p = some n) :
    t.isDir p = n.isDir := by
  unfold isDir
  rw [node?_of_normal hp, hfind]
  rfl

theorem isDir_of_stat (h : t.stat p = .ok .dir) : t.isDir p = true := by
  unfold stat at h
  rw [isDir_iff]
  cases hfind : t.nodes.find? (Path.normalize p) with
  | none => simp [hfind] at h
  | some n => simpa [hfind] using h

theorem DirsStay.isDir (h : t.DirsStay t') (hp : t.isDir p = true) : t'.isDir p = true :=
  isDir_iff.mpr (h _ (isDir_iff.mp hp))

theorem dirsStay_write {path : Text} {bytes : List UInt8} (h : t.write path bytes = .ok t') :
    t.DirsStay t' := by
  unfold FileTree.write at h
  dsimp only at h
  split at h
  · cases h
  next hnot =>
    split at h
    · cases h
    · cases h
    · cases h
      exact dirsStay_insert (.inr hnot)

/-! ## What operations keep -/

section Kept

variable {P : FileTree → Prop}

/-- What an operation keeps if it succeeds, it keeps in any case. -/
theorem attempt_rec {result : Except FileError FileTree} (ht : P t) (h : ∀ u, result = .ok u → P u) :
    P (t.attempt result).2 := by
  cases result with
  | ok u => exact h u rfl
  | error e => exact ht

theorem forEach_rec {f : α → FileTree → Except FileError Unit × FileTree}
    (hf : ∀ a t, P t → P (f a t).2) (items : List α) (ht : P t) : P (forEach f items t).2 := by
  induction items generalizing t with
  | nil => exact ht
  | cons a rest ih =>
    have hstep := hf a t ht
    unfold forEach
    split
    next u heq =>
      rw [heq] at hstep
      exact ih hstep
    next e u heq =>
      rw [heq] at hstep
      exact hstep

/-- What removing one node keeps, removing all beneath a path keeps, however far it gets. -/
theorem removeAllFuel_rec (hremove : ∀ t path t', P t → t.remove path = .ok t' → P t') (fuel : Nat)
    (path : Text) (ht : P t) : P (removeAllFuel fuel path t).2 := by
  have hattempt : ∀ {u path}, P u → P (u.attempt (u.remove path)).2 := fun hu =>
    attempt_rec hu fun _ => hremove _ _ _ hu
  induction fuel generalizing path t with
  | zero => exact hattempt ht
  | succ fuel ih =>
    unfold removeAllFuel
    split
    · exact ht
    · exact hattempt ht
    · split
      · exact ht
      next entries _ =>
        have heach := forEach_rec (P := P) (fun e _ ht => ih (Path.join path e.name) ht) entries ht
        split
        next u heq =>
          rw [heq] at heach
          exact hattempt heach
        next e u heq =>
          rw [heq] at heach
          exact heach

end Kept

/-! ## Changes of one node -/

/-- A node may be put into a directory where no directory is replaced by a file. -/
theorem WellFormed.insert (ht : t.WellFormed) (hnormal : Path.Normal p)
    (hdir : t.nodes.find? (Path.parent p) = some .dir) {n : Node}
    (hkeep : n = .dir ∨ t.nodes.find? p ≠ some .dir) :
    (FileTree.mk (t.nodes.insert p n)).WellFormed := by
  have hup := dirsStay_insert hkeep
  refine ⟨fun q m hq => ?_, hup _ ht.root, fun q m hq hroot => hup _ ?_⟩
  · rw [Table.find?_insert] at hq
    split at hq
    next h => exact h ▸ hnormal
    next => exact ht.normal q m hq
  · rw [Table.find?_insert] at hq
    split at hq
    next h => exact h ▸ hdir
    next => exact ht.parent q m hq hroot

/-- A node may be taken away that nothing lies beneath. -/
theorem WellFormed.erase (ht : t.WellFormed) (hp : p ≠ Path.root)
    (hempty : ∀ q n, t.nodes.find? q = some n → ¬ p ++ ['/'] <+: q) :
    (FileTree.mk (t.nodes.erase p)).WellFormed := by
  have hfind : ∀ q n, (t.nodes.erase p).find? q = some n → q ≠ p ∧ t.nodes.find? q = some n := by
    intro q n h
    rw [Table.find?_erase] at h
    split at h
    · cases h
    next hne => exact ⟨hne, h⟩
  refine ⟨fun q n hq => ht.normal q n (hfind q n hq).2, ?_, fun q n hq hroot => ?_⟩
  · show (t.nodes.erase p).find? Path.root = some .dir
    rw [Table.find?_erase, if_neg (Ne.symm hp)]
    exact ht.root
  · obtain ⟨-, hfound⟩ := hfind q n hq
    obtain ⟨name, -, hjoin, -⟩ := (ht.normal q n hfound).exists_eq_join_parent hroot
    have hne : Path.parent q ≠ p := by
      intro heq
      refine hempty q n hfound ⟨name, ?_⟩
      conv_rhs => rw [hjoin, heq]
      unfold Path.join
      rw [if_neg hp, List.append_assoc]
      rfl
    show (t.nodes.erase p).find? (Path.parent q) = some .dir
    rw [Table.find?_erase, if_neg hne]
    exact ht.parent q n hfound hroot

/-! ## Operations -/

theorem WellFormed.write (ht : t.WellFormed) {path : Text} {bytes : List UInt8}
    (h : t.write path bytes = .ok t') : t'.WellFormed := by
  unfold FileTree.write at h
  dsimp only at h
  split at h
  · cases h
  next hnot =>
    split at h
    · cases h
    · cases h
    next hdir =>
      cases h
      exact ht.insert (Path.normal_normalize path) hdir (.inr hnot)

/-- Making a directory makes the ones above it that are missing: as many as its path has characters
are enough. -/
theorem WellFormed.makeDirFuel (ht : t.WellFormed) {fuel : Nat} (hnormal : Path.Normal p)
    (hfuel : p.length < fuel) (h : t.makeDirFuel fuel p = .ok t') :
    t'.WellFormed ∧ t'.nodes.find? p = some .dir ∧ t.DirsStay t' := by
  induction fuel generalizing p t' with
  | zero => exact absurd hfuel (Nat.not_lt_zero _)
  | succ fuel ih =>
    unfold FileTree.makeDirFuel at h
    split at h
    next hdir =>
      cases h
      exact ⟨ht, hdir, .refl t⟩
    · cases h
    next hnone =>
      have hroot : p ≠ Path.root := by
        rintro rfl
        rw [ht.root] at hnone
        cases hnone
      obtain ⟨-, -, -, hparent⟩ := hnormal.exists_eq_join_parent hroot
      have hlt := hnormal.length_parent_lt hroot
      have hne : Path.parent p ≠ p := fun heq => by
        rw [heq] at hlt
        exact absurd hlt (Nat.lt_irrefl _)
      rw [if_neg hne] at h
      cases hrec : t.makeDirFuel fuel (Path.parent p) with
      | error e =>
        rw [hrec] at h
        cases h
      | ok u =>
        rw [hrec] at h
        cases h
        obtain ⟨hu, hdir, hstay⟩ := ih hparent (by omega) hrec
        refine ⟨hu.insert hnormal hdir (.inl rfl), ?_, hstay.trans (dirsStay_insert (.inl rfl))⟩
        rw [Table.find?_insert, if_pos rfl]

theorem WellFormed.makeDir (ht : t.WellFormed) {path : Text} (h : t.makeDir path = .ok t') :
    t'.WellFormed :=
  (ht.makeDirFuel (Path.normal_normalize path) (Nat.lt_succ_self _) h).1

theorem WellFormed.dirsStay_makeDir (ht : t.WellFormed) {path : Text}
    (h : t.makeDir path = .ok t') : t.DirsStay t' :=
  (ht.makeDirFuel (Path.normal_normalize path) (Nat.lt_succ_self _) h).2.2

theorem WellFormed.remove (ht : t.WellFormed) {path : Text} (h : t.remove path = .ok t') :
    t'.WellFormed := by
  have hnormal := Path.normal_normalize path
  unfold FileTree.remove at h
  dsimp only at h
  split at h
  · cases h
  next hroot =>
    split at h
    · cases h
    next bytes hfile =>
      cases h
      refine ht.erase hroot fun q n hq hbeneath => ?_
      rw [ht.isDir_of_beneath hnormal.ne_nil hq hbeneath] at hfile
      cases hfile
    next hdir =>
      split at h
      · cases h
      next hany =>
        cases h
        refine ht.erase hroot fun q n hq hbeneath => hany ?_
        refine List.any_eq_true.mpr ⟨q, (Table.mem_keys_iff _ q).mpr ?_, ?_⟩
        · rw [hq]
          rfl
        · exact List.isPrefixOf_iff_prefix.mpr hbeneath

theorem WellFormed.removeAllFuel (ht : t.WellFormed) (fuel : Nat) (path : Text) :
    (FileTree.removeAllFuel fuel path t).2.WellFormed :=
  removeAllFuel_rec (fun _ _ _ ht hremove => ht.remove hremove) fuel path ht

/-! ## Sequences of operations -/

/-- An operation that changes a tree. -/
inductive Change where
  | write (path : Text) (bytes : List UInt8)
  | makeDir (path : Text)
  | remove (path : Text)
  | removeAll (path : Text)
  deriving DecidableEq, Repr

/-- Whether an operation succeeds, and the tree after it. -/
def change (t : FileTree) : Change → Except FileError Unit × FileTree
  | .write path bytes => t.attempt (t.write path bytes)
  | .makeDir path => t.attempt (t.makeDir path)
  | .remove path => t.attempt (t.remove path)
  | .removeAll path => t.removeAll path

/-- The tree that operations, successful or not, make of the one that holds only its root. -/
def ofChanges (changes : List Change) : FileTree :=
  changes.foldl (fun t step => (t.change step).2) empty

theorem WellFormed.change (ht : t.WellFormed) (step : Change) : (t.change step).2.WellFormed := by
  cases step with
  | write path bytes => exact attempt_rec ht fun _ => ht.write
  | makeDir path => exact attempt_rec ht fun _ => ht.makeDir
  | remove path => exact attempt_rec ht fun _ => ht.remove
  | removeAll path => exact ht.removeAllFuel _ path

theorem wellFormed_ofChanges (changes : List Change) : (ofChanges changes).WellFormed :=
  List.foldlRecOn changes _ wellFormed_empty fun _ ht step _ => ht.change step

/-- Whatever is written, made and removed, and whether that succeeds or not, the paths of a tree are
absolute, without two slashes in a row and without a slash at their end unless they are the root; the
root is a directory; every other path is that of an entry of a directory of the tree; and nothing
lies beneath a file. -/
theorem tree_of_changes (changes : List Change) :
    let t := ofChanges changes
    (∀ p ∈ t.nodes.keys, p.head? = some '/' ∧ ¬ ['/', '/'] <:+: p ∧
      (p.getLast? = some '/' → p = Path.root)) ∧
    t.nodes.find? Path.root = some .dir ∧
    (∀ p ∈ t.nodes.keys, p ≠ Path.root → t.nodes.find? (Path.parent p) = some .dir ∧
      ∃ name, p = Path.join (Path.parent p) name ∧ name ≠ [] ∧ '/' ∉ name) ∧
    ∀ p bytes, t.nodes.find? p = some (.file bytes) → ∀ q ∈ t.nodes.keys, ¬ p ++ ['/'] <+: q := by
  intro t
  have ht : t.WellFormed := wellFormed_ofChanges changes
  have hkeys : ∀ p ∈ t.nodes.keys, ∃ n, t.nodes.find? p = some n := fun p hp =>
    Option.isSome_iff_exists.mp ((Table.mem_keys_iff _ p).mp hp)
  refine ⟨fun p hp => ?_, ht.root, fun p hp hroot => ?_, fun p bytes hfile q hq hbeneath => ?_⟩
  · obtain ⟨n, hn⟩ := hkeys p hp
    have hnormal := ht.normal p n hn
    exact ⟨hnormal.absolute, hnormal.no_double_slash, hnormal.no_trailing_slash⟩
  · obtain ⟨n, hn⟩ := hkeys p hp
    obtain ⟨name, hname, hjoin, -⟩ := (ht.normal p n hn).exists_eq_join_parent hroot
    exact ⟨ht.parent p n hn hroot, name, hjoin, hname.ne_nil, hname.no_slash⟩
  · obtain ⟨n, hn⟩ := hkeys q hq
    rw [ht.isDir_of_beneath (ht.normal p _ hfile).ne_nil hn hbeneath] at hfile
    cases hfile

end VirtualTerminal.FileTree
