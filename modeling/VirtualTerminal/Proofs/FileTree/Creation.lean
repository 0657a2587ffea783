import VirtualTerminal.Proofs.FileTree

/-!
# Making directories

Making a directory goes up to the first directory that is there and puts the missing ones into the table
on the way back. If a file stands on the way, it is met before anything has been put there, so nothing is
(`WellFormed.makeDirFuel_cases`); otherwise a directory stands at the path and at all above it, and
nothing else has changed (`makeDir_exact`).
-/

namespace VirtualTerminal.FileTree

variable {t t' : FileTree} {p q path : Text}

/-! ## In place -/

theorem parent_normal (hp : Path.Normal p) (hdir : Path.parent p ≠ p) :
    Path.Normal (Path.parent p) ∧ (Path.parent p).length < p.length := by
  have hroot : p ≠ Path.root := by
    rintro rfl
    exact hdir rfl
  obtain ⟨-, -, -, hparent⟩ := hp.exists_eq_join_parent hroot
  exact ⟨hparent, hp.length_parent_lt hroot⟩

/-- Makes a directory in the tree itself: each missing one is put there as soon as the ones above it
are, and stays if a later one cannot be made. -/
def makeDirInPlace (t : FileTree) (path : Text) : Except FileError Unit × FileTree :=
  let p := Path.normalize path
  match t.nodes.find? p with
  | some .dir => (.ok (), t)
  | some (.file _) => (.error (.fileExists p), t)
  | none =>
    let dir := Path.parent p
    if dir = p then (.ok (), ⟨t.nodes.insert p .dir⟩)
    else
      match t.makeDirInPlace dir with
      | (.ok (), t) => (.ok (), ⟨t.nodes.insert p .dir⟩)
      | (.error e, t) => (.error e, t)
termination_by (Path.normalize path).length
decreasing_by
  next hdir =>
    obtain ⟨hparent, hshorter⟩ := parent_normal (Path.normal_normalize path) hdir
    rw [hparent.normalize_eq]
    exact hshorter

theorem makeDirFuel_of_missing {fuel : Nat} (hfind : t.nodes.find? p = none)
    (hdir : Path.parent p ≠ p) : t.makeDirFuel (fuel + 1) p =
      (t.makeDirFuel fuel (Path.parent p)).map fun t => ⟨t.nodes.insert p .dir⟩ := by
  rw [FileTree.makeDirFuel]
  simp only [hfind, if_neg hdir]
  cases t.makeDirFuel fuel (Path.parent p) <;> rfl

/-- A directory that cannot be made leaves the tree as it was, also in place. -/
theorem makeDirInPlace_eq (t : FileTree) (path : Text) :
    t.makeDirInPlace path = t.attempt (t.makeDir path) := by
  suffices hfuel : ∀ fuel path, (Path.normalize path).length < fuel →
      t.makeDirInPlace path = t.attempt (t.makeDirFuel fuel (Path.normalize path)) from
    hfuel _ path (Nat.lt_succ_self _)
  intro fuel
  induction fuel with
  | zero => exact fun path h => absurd h (Nat.not_lt_zero _)
  | succ fuel ih =>
    intro path hlt
    have hp := Path.normal_normalize path
    rw [makeDirInPlace]
    generalize Path.normalize path = p at *
    dsimp only
    cases hfind : t.nodes.find? p with
    | some n =>
      rw [FileTree.makeDirFuel]
      simp only [hfind]
      cases n <;> rfl
    | none =>
      by_cases hdir : Path.parent p = p
      · rw [FileTree.makeDirFuel]
        simp only [hfind, if_pos hdir]
        rfl
      · obtain ⟨hparent, hshorter⟩ := parent_normal hp hdir
        have hrec := ih (Path.parent p) (by rw [hparent.normalize_eq]; omega)
        rw [hparent.normalize_eq] at hrec
        simp only [if_neg hdir, hrec, makeDirFuel_of_missing hfind hdir]
        -- the directory above was made, or nothing was
        cases t.makeDirFuel fuel (Path.parent p) <;> rfl

/-! ## What is made -/

/-- Whether a tree is another one with directories put at a path and at all above it, where nothing was. -/
def AddsDirs (t t' : FileTree) (p : Text) : Prop :=
  ∀ q n, t'.nodes.find? q = some n ↔
    t.nodes.find? q = some n ∨ t.nodes.find? q = none ∧ n = .dir ∧ Path.Normal q ∧ Within q p

/-- Where a directory stands, directories stand at all paths above it. -/
theorem WellFormed.addsDirs_refl (ht : t.WellFormed) (hfind : t.nodes.find? p = some .dir) :
    t.AddsDirs t p := by
  refine fun q n => ⟨.inl, fun h => h.resolve_right ?_⟩
  rintro ⟨hnone, -, hq, hin⟩
  have hdir : t.nodes.find? q = some .dir := by
    by_cases hat : p = q
    · exact hat ▸ hfind
    · exact ht.isDir_of_within hq.ne_nil hfind hin hat
  rw [hnone] at hdir
  cases hdir

/-- What is put at a path once directories stand at all above it completes the way to it. -/
theorem AddsDirs.insert {u : FileTree} (hu : t.AddsDirs u (Path.parent p)) (hp : Path.Normal p)
    (hroot : p ≠ Path.root) (hfind : t.nodes.find? p = none) :
    t.AddsDirs ⟨u.nodes.insert p .dir⟩ p := by
  intro q n
  rw [Table.find?_insert]
  by_cases hat : p = q
  · subst hat
    simp [hfind, hp, within_refl, eq_comm]
  · obtain ⟨name, hname, hjoin, hparent⟩ := hp.exists_eq_join_parent hroot
    have hup : Path.Normal q → (Within q p ↔ Within q (Path.parent p)) := by
      intro hq
      conv_lhs => rw [hjoin, within_join hq.ne_nil hparent hname, ← hjoin]
      exact or_iff_right hat
    rw [if_neg hat, hu q n]
    exact or_congr_right (and_congr_right' (and_congr_right' (and_congr_right fun hq => (hup hq).symm)))

/-- Making a directory fails at a file on the way, or puts directories at the path and at all above it
that were missing. -/
theorem WellFormed.makeDirFuel_cases (ht : t.WellFormed) {fuel : Nat} (hp : Path.Normal p)
    (hfuel : p.length < fuel) :
    (∃ q bytes, Within q p ∧ t.nodes.find? q = some (.file bytes) ∧
        t.makeDirFuel fuel p = .error (.fileExists q)) ∨
      ∃ t', t.makeDirFuel fuel p = .ok t' ∧ t.AddsDirs t' p := by
  induction fuel generalizing p with
  | zero => exact absurd hfuel (Nat.not_lt_zero _)
  | succ fuel ih =>
    cases hfind : t.nodes.find? p with
    | some n =>
      rw [FileTree.makeDirFuel]
      simp only [hfind]
      cases n with
      | file bytes => exact .inl ⟨p, bytes, within_refl p, hfind, rfl⟩
      | dir => exact .inr ⟨t, rfl, ht.addsDirs_refl hfind⟩
    | none =>
      have hroot : p ≠ Path.root := by
        rintro rfl
        rw [ht.root] at hfind
        cases hfind
      have hlt := hp.length_parent_lt hroot
      have hdir : Path.parent p ≠ p := fun heq => by
        rw [heq] at hlt
        exact Nat.lt_irrefl _ hlt
      have hparent := (parent_normal hp hdir).1
      rw [makeDirFuel_of_missing hfind hdir]
      obtain ⟨q, bytes, hin, hfile, heq⟩ | ⟨u, heq, hu⟩ := ih hparent (by omega)
      · exact .inl ⟨q, bytes, hin.trans (within_parent hp hroot), hfile, by rw [heq]; rfl⟩
      · exact .inr ⟨_, by rw [heq]; rfl, hu.insert hp hroot hfind⟩

theorem WellFormed.makeDir_cases (ht : t.WellFormed) (path : Text) :
    (∃ q bytes, Within q (Path.normalize path) ∧ t.nodes.find? q = some (.file bytes) ∧
        t.makeDir path = .error (.fileExists q)) ∨
      ∃ t', t.makeDir path = .ok t' ∧ t.AddsDirs t' (Path.normalize path) :=
  ht.makeDirFuel_cases (Path.normal_normalize path) (Nat.lt_succ_self _)

/-- A directory that is there need not be made. -/
theorem makeDir_of_dir (hfind : t.nodes.find? (Path.normalize path) = some .dir) :
    t.makeDir path = .ok t := by
  unfold FileTree.makeDir
  rw [FileTree.makeDirFuel]
  simp only [hfind]

theorem WellFormed.find?_makeDir (ht : t.WellFormed) (hmake : t.makeDir path = .ok t') :
    t'.nodes.find? (Path.normalize path) = some .dir :=
  (ht.makeDirFuel (Path.normal_normalize path) (Nat.lt_succ_self _) hmake).2.1

/-- A directory that has been made has no file at its path or above it. -/
theorem WellFormed.not_file_of_makeDir (ht : t.WellFormed) (hmake : t.makeDir path = .ok t')
    (hadds : t.AddsDirs t' (Path.normalize path)) {bytes : List UInt8}
    (hin : Within q (Path.normalize path)) : t.nodes.find? q ≠ some (.file bytes) := by
  intro hfile
  have hkept := (hadds q _).mpr (.inl hfile)
  have hdir := ht.find?_makeDir hmake
  by_cases hat : Path.normalize path = q
  · rw [hat, hkept] at hdir
    cases hdir
  · have hq := (ht.normal q _ hfile).ne_nil
    rw [(ht.makeDir hmake).isDir_of_within hq hdir hin hat] at hkept
    cases hkept

/-- Making a directory, also in place, comes to an end. It succeeds exactly if no file stands at the path
or above it. Then the nodes are the old ones, and directories at the path and at all above it where
nothing was; and making the directory once more changes nothing. -/
theorem makeDir_exact (ht : t.WellFormed) (path : Text) :
    let p := Path.normalize path
    t.makeDirInPlace path = t.attempt (t.makeDir path) ∧
      ((∃ t', t.makeDir path = .ok t') ↔
        ∀ q bytes, Within q p → t.nodes.find? q ≠ some (.file bytes)) ∧
      ∀ t', t.makeDir path = .ok t' → t.AddsDirs t' p ∧ t'.makeDir path = .ok t' := by
  intro p
  have hadds : ∀ t', t.makeDir path = .ok t' → t.AddsDirs t' p := by
    intro t' hmake
    obtain ⟨q, bytes, -, -, herror⟩ | ⟨u, hok, hu⟩ := ht.makeDir_cases path
    · rw [hmake] at herror
      cases herror
    · rw [hmake] at hok
      cases hok
      exact hu
  refine ⟨makeDirInPlace_eq t path, ⟨?_, fun hclear => ?_⟩, fun t' hmake => ⟨hadds t' hmake, ?_⟩⟩
  · rintro ⟨t', hmake⟩ q bytes hin
    exact ht.not_file_of_makeDir hmake (hadds t' hmake) hin
  · obtain ⟨q, bytes, hin, hfile, -⟩ | ⟨t', hok, -⟩ := ht.makeDir_cases path
    · exact absurd hfile (hclear q bytes hin)
    · exact ⟨t', hok⟩
  · exact makeDir_of_dir (ht.find?_makeDir hmake)

/-- Of a path with only the first directory there, the others are made; with a file above it, none is. -/
theorem makeDir_exact_of_changes :
    let t := ofChanges [.makeDir "/a".toList, .write "/a/f".toList []]
    (∃ t', t.makeDir "a//b/c/".toList = .ok t' ∧ t'.nodes.find? "/a/b".toList = some .dir) ∧
      ¬ ∃ t', t.makeDir "/a/f/x".toList = .ok t' := by
  intro t
  have ht : t.WellFormed := wellFormed_ofChanges _
  refine ⟨?_, fun hmade => ?_⟩
  · have hok : (t.makeDir "a//b/c/".toList).isOk = true := by decide +kernel
    cases hmake : t.makeDir "a//b/c/".toList with
    | error e =>
      rw [hmake] at hok
      cases hok
    | ok t' =>
      refine ⟨t', rfl, (((makeDir_exact ht _).2.2 t' hmake).1 _ _).mpr (.inr ⟨?_, rfl, ?_, ?_⟩)⟩
      · decide +kernel
      · exact Path.isNormal_iff.mp (by decide +kernel)
      · decide +kernel
  · exact (makeDir_exact ht _).2.1.mp hmade "/a/f".toList [] (by decide +kernel) (by decide +kernel)

end VirtualTerminal.FileTree
