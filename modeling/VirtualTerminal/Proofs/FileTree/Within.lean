import VirtualTerminal.FileTree
import VirtualTerminal.Proofs.Path

/-!
# Paths within a path

Within a path are the path itself and all that goes on from it with a slash. An entry is within a path if
it is that path or its directory is within it (`within_join`). So what is within a path, but is not that
path, is within one of its entries (`Within.exists_entry`), and two entries are never within one another
(`Within.name_eq`).
-/

namespace VirtualTerminal

namespace FileTree

variable {dir name p q r : Text}

/-! ## Paths of entries -/

theorem join_eq_append (dir name : Text) : Path.join dir name = lead dir ++ name := by
  unfold Path.join lead
  split
  next hroot =>
    rw [hroot]
    rfl
  next => rw [List.append_cons]

theorem join_inj {a b : Text} (h : Path.join dir a = Path.join dir b) : a = b := by
  rw [join_eq_append, join_eq_append] at h
  exact List.append_cancel_left h

theorem lead_of_ne_root (h : p ≠ Path.root) : lead p = p ++ ['/'] :=
  if_neg h

theorem isPrefix_lead (p : Text) : p <+: lead p := by
  unfold lead
  split
  · exact List.prefix_rfl
  · exact List.prefix_append _ _

theorem length_lt_join (dir : Text) (hname : Path.IsName name) :
    dir.length < (Path.join dir name).length := by
  have hlead := (isPrefix_lead dir).length_le
  have hpos := List.length_pos_iff.mpr hname.ne_nil
  rw [join_eq_append, List.length_append]
  omega

/-! ## Within -/

/-- Whether a path is another one or beneath it. -/
def Within (p q : Text) : Prop :=
  q = p ∨ lead p <+: q

instance (p q : Text) : Decidable (Within p q) :=
  inferInstanceAs (Decidable (_ ∨ _))

theorem within_refl (p : Text) : Within p p :=
  .inl rfl

theorem within_iff (hp : p ≠ Path.root) : Within p q ↔ q = p ∨ p ++ ['/'] <+: q := by
  rw [Within, lead_of_ne_root hp]

theorem within_root (hq : Path.Normal q) : Within Path.root q := by
  obtain ⟨rest, rfl⟩ := List.head?_eq_some_iff.mp hq.absolute
  exact .inr (List.prefix_append ['/'] rest)

theorem within_join_self (dir name : Text) : Within dir (Path.join dir name) := by
  refine .inr ?_
  rw [join_eq_append]
  exact List.prefix_append _ _

theorem within_parent (hp : Path.Normal p) (hroot : p ≠ Path.root) : Within (Path.parent p) p := by
  obtain ⟨name, -, hjoin, -⟩ := hp.exists_eq_join_parent hroot
  conv_rhs => rw [hjoin]
  exact within_join_self _ _

theorem Within.isPrefix (h : Within p q) : p <+: q := by
  rcases h with rfl | hlead
  · exact List.prefix_rfl
  · exact (isPrefix_lead p).trans hlead

/-- A directory is not within its entry. -/
theorem not_within_join_self (dir : Text) (hname : Path.IsName name) :
    ¬ Within (Path.join dir name) dir :=
  fun h => Nat.not_le_of_lt (length_lt_join dir hname) h.isPrefix.length_le

theorem Within.trans (hpq : Within p q) (hqr : Within q r) : Within p r := by
  rcases hpq with rfl | hlead
  · exact hqr
  · exact .inr (hlead.trans hqr.isPrefix)

/-- The root is within no other path. -/
theorem eq_root_of_within (hp : p ≠ []) (h : Within p Path.root) : p = Path.root := by
  obtain ⟨c, rest, rfl⟩ := List.exists_cons_of_ne_nil hp
  obtain ⟨rfl, hrest⟩ := List.cons_prefix_cons.mp h.isPrefix
  rw [List.prefix_nil.mp hrest]
  rfl

/-- The last slash of a path stands before the name that follows it. -/
theorem concat_isPrefix_append_iff {d : Text} (hname : '/' ∉ name) :
    p ++ ['/'] <+: d ++ name ↔ p ++ ['/'] <+: d := by
  refine ⟨fun h => ?_, fun h => h.trans (List.prefix_append _ _)⟩
  rcases List.prefix_or_prefix_of_prefix h (List.prefix_append d name) with hd | hd
  · exact hd
  · rcases List.prefix_concat_iff.mp hd with rfl | ⟨r, rfl⟩
    · exact List.prefix_rfl
    · rw [List.append_assoc, List.prefix_append_right_inj] at h
      exact absurd (h.subset (by simp)) hname

/-- An entry is within a path if it is that path or its directory is within it. -/
theorem within_join (hp : p ≠ []) (hdir : Path.Normal dir) (hname : Path.IsName name) :
    Within p (Path.join dir name) ↔ Path.join dir name = p ∨ Within p dir := by
  by_cases hroot : p = Path.root
  · rw [hroot]
    exact iff_of_true (within_root (hdir.join hname)) (.inr (within_root hdir))
  rw [within_iff hroot, within_iff hroot, join_eq_append,
    concat_isPrefix_append_iff hname.no_slash]
  refine or_congr_right ?_
  by_cases hdirroot : dir = Path.root
  · have hnot : ¬ Within p Path.root := fun h => hroot (eq_root_of_within hp h)
    rw [within_iff hroot, not_or] at hnot
    rw [hdirroot]
    exact iff_of_false hnot.2 (not_or.mpr hnot)
  · rw [lead_of_ne_root hdirroot, List.prefix_concat_iff, List.append_left_inj, eq_comm]

/-- What is within a path, but is not that path, is within one of its entries. -/
theorem Within.exists_entry (h : Within p q) (hp : p ≠ []) (hq : Path.Normal q) (hne : q ≠ p) :
    ∃ name, Path.IsName name ∧ Within (Path.join p name) q := by
  revert h hne
  refine Path.normal_induction (fun h hne => ?_) (fun dir name hdir hname ih h hne => ?_) hq
  · exact absurd (eq_root_of_within hp h).symm hne
  · have hin := ((within_join hp hdir hname).mp h).resolve_left hne
    by_cases hat : dir = p
    · exact ⟨name, hname, hat ▸ within_refl _⟩
    · obtain ⟨first, hfirst, hwithin⟩ := ih hin hat
      exact ⟨first, hfirst, hwithin.trans (within_join_self dir name)⟩

/-- An entry is not within another entry of its directory. -/
theorem Within.name_eq {a b : Text} (h : Within (Path.join dir a) (Path.join dir b))
    (hdir : Path.Normal dir) (ha : Path.IsName a) (hb : Path.IsName b) : a = b := by
  have hne : Path.join dir a ≠ [] := (hdir.join ha).ne_nil
  rcases (within_join hne hdir hb).mp h with heq | hup
  · exact (join_inj heq).symm
  · exact absurd hup (not_within_join_self dir ha)

/-- The normal form of the path of an entry is the path of that entry in the normal form of its
directory. -/
theorem normalize_join (path : Text) (hname : Path.IsName name) :
    Path.normalize (Path.join path name) = Path.join (Path.normalize path) name := by
  rw [Path.normalize_eq_ofComponents, Path.normalize_eq_ofComponents, Path.components_join path hname,
    Path.ofComponents_concat fun _ => Path.isName_of_mem_components]

end FileTree

end VirtualTerminal
