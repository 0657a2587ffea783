import VirtualTerminal.Proofs.FileTree.Creation
import VirtualTerminal.Proofs.FileTree.Removal

/-!
# Operations that fail

An operation that fails leaves all nodes as they were, with one exception: removing the root with all
beneath it is refused only when everything beneath it has been removed (`WellFormed.removeAll_root`).
-/

namespace VirtualTerminal.FileTree

variable {t : FileTree} {path : Text}

theorem attempt_of_error {result : Except FileError FileTree} {e : FileError}
    (h : (t.attempt result).1 = .error e) : (t.attempt result).2 = t := by
  cases result with
  | ok u => cases h
  | error e => rfl

/-! ## The root -/

/-- With nothing beneath it, the root stands alone. -/
theorem WellFormed.emptied_root (ht : t.WellFormed) : t.emptied Path.root = empty := by
  refine ext_find? fun q => ?_
  have hempty : empty.nodes.find? q = if Path.root = q then some .dir else none :=
    Table.find?_insert _ _ _ _
  rw [find?_emptied, hempty]
  by_cases hq : q = Path.root
  · rw [hq, if_neg fun h => h.1 rfl, if_pos rfl, ht.root]
  · rw [if_neg (Ne.symm hq)]
    cases hfind : t.nodes.find? q with
    | none => exact ite_self _
    | some n => exact if_pos ⟨hq, within_root (ht.normal q n hfind)⟩

/-- Removing the root removes everything beneath it before it is refused. -/
theorem WellFormed.removeAll_root (ht : t.WellFormed) (hroot : Path.normalize path = Path.root) :
    t.removeAll path = (.error .rootIsKept, empty) := by
  obtain ⟨k, hk⟩ := Nat.exists_eq_succ_of_ne_zero (Nat.ne_of_gt ht.size_pos)
  have hfind : t.nodes.find? (Path.normalize path) = some .dir := by
    rw [hroot]
    exact ht.root
  have hdepth : t.countWithin (Path.normalize path) ≤ k + 1 := by
    rw [← Nat.succ_eq_add_one, ← hk]
    exact countWithin_le_size t _
  have hloop := (removesWithin k).forEach?_children ht hfind hdepth
  rw [hroot, ht.emptied_root] at hloop
  have hrefused : empty.remove path = .error .rootIsKept := if_pos hroot
  have hcut : removeAll? (k + 1) path t = some (.error .rootIsKept, empty) := by
    unfold removeAll?
    simp only [stat_of_find? hfind, list_of_dir hfind, hroot, hloop, hrefused]
    rfl
  exact removeAllFuel_eq_of_removeAll? (Nat.le_of_eq hk.symm) hcut

/-! ## All operations -/

/-- An operation that fails changes nothing unless it removes the root. -/
theorem WellFormed.change_of_error (ht : t.WellFormed) {step : Change} {e : FileError}
    (hfail : (t.change step).1 = .error e)
    (hstep : ∀ path, step = .removeAll path → Path.normalize path ≠ Path.root) :
    (t.change step).2 = t := by
  cases step with
  | write path bytes => exact attempt_of_error hfail
  | makeDir path => exact attempt_of_error hfail
  | remove path => exact attempt_of_error hfail
  | removeAll path =>
    have hroot := hstep path rfl
    change (t.removeAll path).1 = _ at hfail
    change (t.removeAll path).2 = t
    cases hfind : t.nodes.find? (Path.normalize path) with
    | none => rw [ht.removeAll_of_missing hfind]
    | some n =>
      rw [ht.removeAll_of_exists hroot hfind] at hfail
      cases hfail

/-- Of the operations on a well-formed tree that fail, also those that make directories in place, all
leave every node as it was, except for one: removing the root, however it is spelled, with all beneath
it. That always fails, and leaves nothing but the root. -/
theorem unchanged_of_failed_iff (ht : t.WellFormed) :
    (∀ path, t.makeDirInPlace path = t.change (.makeDir path)) ∧
      (∀ path, Path.normalize path = Path.root →
        t.change (.removeAll path) = (.error .rootIsKept, empty)) ∧
      ∀ step e, (t.change step).1 = .error e →
        ((t.change step).2 = t ↔
          ∀ path, step = .removeAll path → Path.normalize path = Path.root → t = empty) := by
  refine ⟨makeDirInPlace_eq t, fun path => ht.removeAll_root, fun step e hfail => ⟨?_, fun hempty => ?_⟩⟩
  · rintro hsame path rfl hroot
    rw [← hsame]
    exact congrArg Prod.snd (ht.removeAll_root hroot)
  · by_cases hstep : ∃ path, step = .removeAll path ∧ Path.normalize path = Path.root
    · obtain ⟨path, rfl, hroot⟩ := hstep
      rw [hempty path rfl hroot]
      exact congrArg Prod.snd (wellFormed_empty.removeAll_root hroot)
    · exact ht.change_of_error hfail fun path heq hroot => hstep ⟨path, heq, hroot⟩

/-- A directory that is not empty and is to be removed without what it holds stays with all it holds. -/
theorem unchanged_of_failed_iff_not_empty :
    let t := ofChanges [.makeDir "/a/b".toList]
    (t.change (.remove "/a".toList)).1 = .error (.notEmpty "/a".toList) ∧
      (t.change (.remove "/a".toList)).2 = t := by
  intro t
  have hfail : (t.change (.remove "/a".toList)).1 = .error (.notEmpty "/a".toList) := by decide +kernel
  refine ⟨hfail, ((unchanged_of_failed_iff (wellFormed_ofChanges _)).2.2 _ _ hfail).mpr ?_⟩
  intro path heq
  cases heq

/-- Removing the root with all beneath it is refused, and yet the directory in it is gone. -/
theorem changed_of_removed_root :
    let t := ofChanges [.makeDir "/a".toList]
    t.WellFormed ∧ (t.change (.removeAll "/".toList)).1 = .error .rootIsKept ∧
      t.nodes.find? "/a".toList = some .dir ∧
      (t.change (.removeAll "/".toList)).2.nodes.find? "/a".toList = none :=
  ⟨wellFormed_ofChanges _, by decide +kernel, by decide +kernel, by decide +kernel⟩

end VirtualTerminal.FileTree
