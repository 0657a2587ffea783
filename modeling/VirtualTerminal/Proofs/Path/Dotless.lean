import VirtualTerminal.Proofs.Path.Resolve

/-!
# Paths without dots

A path without the components `.` and `..` leads down through all of its components, whatever form it has
(`Dotless.walk_eq`). So walking it gives its normal form (`Dotless.ofComponents_walk`). Resolved paths are
such paths (`Resolved.dotless`).
-/

namespace VirtualTerminal.Path

variable {p q dir name part : Text}

/-- Whether no component of a path is `.` or `..`. -/
def Dotless (p : Text) : Prop :=
  ∀ part ∈ components p, part ≠ ['.'] ∧ part ≠ ['.', '.']

instance : DecidablePred Dotless := fun p =>
  inferInstanceAs (Decidable (∀ part ∈ components p, _))

/-! ## Components -/

theorem components_append_cons (p q : Text) : components (p ++ '/' :: q) = components p ++ components q := by
  unfold components
  rw [Text.split_append_cons, List.filter_append]

theorem components_of_isName (h : IsName name) : components name = [name] := by
  unfold components
  rw [Text.split_of_not_mem h.no_slash, List.filter_cons_of_pos (by simpa using h.ne_nil), List.filter_nil]

theorem Dotless.isEntry_of_mem (h : Dotless p) (hpart : part ∈ components p) : IsEntry part :=
  ⟨isName_of_mem_components hpart, (h part hpart).1, (h part hpart).2⟩

theorem IsEntry.dotless (h : IsEntry name) : Dotless name := by
  intro part hpart
  rw [components_of_isName h.toIsName, List.mem_singleton] at hpart
  subst hpart
  exact ⟨h.ne_dot, h.ne_dots⟩

theorem Dotless.append_cons (hp : Dotless p) (hq : Dotless q) : Dotless (p ++ '/' :: q) := by
  intro part hpart
  rw [components_append_cons] at hpart
  exact (List.mem_append.mp hpart).elim (hp part) (hq part)

theorem Dotless.normalize (h : Dotless p) : Dotless (normalize p) := by
  intro part hpart
  rw [components_normalize] at hpart
  exact h part hpart

/-- The way to an entry without dots leads through a directory without dots. -/
theorem dotless_join (hname : IsName name) : Dotless (join dir name) ↔ Dotless dir ∧ IsEntry name := by
  constructor
  · intro h
    have hpart : name ∈ components (join dir name) := by
      rw [components_join dir hname]
      exact List.mem_append_right _ List.mem_cons_self
    refine ⟨fun part hdir => h part ?_, h.isEntry_of_mem hpart⟩
    rw [components_join dir hname]
    exact List.mem_append_left _ hdir
  · rintro ⟨hdir, hentry⟩ part hpart
    rw [components_join dir hname] at hpart
    rcases List.mem_append.mp hpart with hpart | hpart
    · exact hdir part hpart
    · obtain rfl := List.mem_singleton.mp hpart
      exact ⟨hentry.ne_dot, hentry.ne_dots⟩

theorem Resolved.dotless (h : Resolved p) : Dotless p := by
  intro part hpart
  have hsplit := (List.mem_filter.mp hpart).1
  exact ⟨h.ne_dot part hsplit, h.ne_dots part hsplit⟩

/-! ## Walking -/

/-- Without dots, every component that is not empty leads one step down. -/
theorem Dotless.walk_eq (h : Dotless p) (parts : List Text) :
    walk parts p = (components p).reverse ++ parts := by
  unfold walk
  unfold Dotless components at *
  generalize Text.split '/' p = pieces at *
  induction pieces generalizing parts with
  | nil => rfl
  | cons piece pieces ih =>
    rw [List.foldl_cons]
    by_cases hempty : piece = []
    · rw [List.filter_cons_of_neg (by simp [hempty])] at h ⊢
      rw [step, if_pos (.inl hempty), ih _ h]
    · rw [List.filter_cons_of_pos (by simp [hempty])] at h ⊢
      obtain ⟨⟨hdot, hdots⟩, h⟩ := List.forall_mem_cons.mp h
      rw [step, if_neg (not_or.mpr ⟨hempty, hdot⟩), if_neg hdots, ih _ h, List.reverse_cons,
        List.append_assoc]
      rfl

/-- A path without dots leads to its normal form. -/
theorem Dotless.ofComponents_walk (h : Dotless p) : ofComponents (walk [] p).reverse = Path.normalize p := by
  rw [h.walk_eq, List.append_nil, List.reverse_reverse, normalize_eq_ofComponents]

end VirtualTerminal.Path
