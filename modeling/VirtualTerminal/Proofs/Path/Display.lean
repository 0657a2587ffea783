import VirtualTerminal.Proofs.Path.Dotless

/-!
# Displayed paths

A path is displayed with `~` in place of the home directory where its text goes on from the text of the
home directory with a slash, and resolving puts that text back. So what is displayed is walked like the
path itself, whatever form the home directory has (`walk_display`), and a resolved path is led back to
(`resolve_display`).
-/

namespace VirtualTerminal.Path

variable {cwd home p q : Text}

/-- A path is displayed in one of three ways. -/
theorem display_cases (p home : Text) :
    p = home ∧ display p home = ['~'] ∨
      (∃ rest, p = home ++ '/' :: rest ∧ display p home = '~' :: '/' :: rest) ∨
      p ≠ home ∧ display p home = p := by
  unfold display
  by_cases hp : p = home
  · exact .inl ⟨hp, if_pos hp⟩
  · rw [if_neg hp]
    split
    next rest hstrip => exact .inr (.inl ⟨rest, Text.stripPrefix?_eq_some_iff.mp hstrip, rfl⟩)
    next => exact .inr (.inr ⟨hp, rfl⟩)

/-- Typing what is displayed of an absolute path, or of the home directory, walks that path. -/
theorem walk_display (hp : p = home ∨ p.head? = some '/') (cwd : Text) :
    walk [] (expand cwd (display p home) home) = walk [] p := by
  rcases display_cases p home with ⟨rfl, hshown⟩ | ⟨rest, rfl, hshown⟩ | ⟨hne, hshown⟩
  · rw [hshown]
    rfl
  · rw [hshown]
    calc walk [] (join home rest)
        = walk (walk [] home) rest := walk_join [] home rest
      _ = walk [] (home ++ '/' :: rest) := (walk_append [] home rest).symm
  · obtain ⟨rest, rfl⟩ := List.head?_eq_some_iff.mp (hp.resolve_left hne)
    rw [hshown]
    rfl

/-- What is displayed of an absolute path, or of the home directory, leads where `.` leads in it. -/
theorem resolve_display_eq (hp : p = home ∨ p.head? = some '/') (cwd : Text) :
    resolve cwd (display p home) home = resolve p ['.'] home := by
  have hdot : walk [] (expand p ['.'] home) = walk [] p := walk_join [] p ['.']
  rw [resolve_eq_walk, walk_display hp, resolve_eq_walk, hdot]

/-- A resolved path is where walking it leads. -/
theorem Resolved.ofComponents_walk (h : Resolved p) : ofComponents (walk [] p).reverse = p := by
  rw [h.dotless.ofComponents_walk, h.normalize_eq]

/-- What is displayed of a resolved path leads back to it, from anywhere. -/
theorem resolve_display (hp : Resolved p) (cwd home : Text) :
    resolve cwd (display p home) home = p := by
  rw [resolve_eq_walk, walk_display (.inr hp.absolute), hp.ofComponents_walk]

/-- Resolved paths that are displayed alike are the same. -/
theorem eq_of_display_eq (hp : Resolved p) (hq : Resolved q)
    (h : display p home = display q home) : p = q := by
  rw [← resolve_display hp root home, h, resolve_display hq]

end VirtualTerminal.Path
