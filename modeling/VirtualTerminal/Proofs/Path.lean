import Mathlib.Data.List.Basic
import Mathlib.Data.List.Induction
import VirtualTerminal.Path
import VirtualTerminal.Proofs.Text.Split

/-!
# Paths in normal form

A path in normal form is the root or the path of an entry of a path in normal form
(`Normal.exists_eq_join`), and the directory of that entry is its parent (`parent_join`). So what
`normalize` makes of any text is in normal form (`normal_normalize`), and going up from a path in
normal form leads to the root. A text has one normal form, and only its components decide on it
(`normalize_exact`).
-/

namespace VirtualTerminal

namespace Path

/-- Whether a text can be the name of an entry of a directory. -/
structure IsName (name : Text) : Prop where
  ne_nil : name ≠ []
  no_slash : '/' ∉ name

/-- Whether a path is in normal form: absolute, without two slashes in a row, and without a slash at
its end unless it is the root. -/
structure Normal (p : Text) : Prop where
  absolute : p.head? = some '/'
  no_double_slash : ¬ ['/', '/'] <:+: p
  no_trailing_slash : p.getLast? = some '/' → p = root

theorem normal_root : Normal root :=
  ⟨rfl, by decide, fun _ => rfl⟩

theorem Normal.ne_nil {p : Text} (h : Normal p) : p ≠ [] := by
  rintro rfl
  cases h.absolute

theorem isNormal_iff {p : Text} : isNormal p = true ↔ Normal p := by
  unfold isNormal hasDoubleSlash
  simp only [Bool.and_eq_true, decide_eq_true_eq, Bool.not_eq_true', ← Bool.not_eq_true,
    Text.hasInfix_iff]
  constructor
  · rintro ⟨⟨habs, hlast⟩, hdouble⟩
    refine ⟨habs, hdouble, fun htrail => ?_⟩
    obtain ⟨rest, rfl⟩ := List.head?_eq_some_iff.mp habs
    have hlen : ¬ 1 < ('/' :: rest).length := fun hlen => hlast ⟨hlen, htrail⟩
    have hrest : rest = [] := List.eq_nil_of_length_eq_zero (by simpa using hlen)
    rw [hrest]
    rfl
  · rintro ⟨habs, hdouble, htrail⟩
    refine ⟨⟨habs, ?_⟩, hdouble⟩
    rintro ⟨hlen, hlast⟩
    rw [htrail hlast] at hlen
    exact absurd hlen (by decide)

/-! ## Entries -/

variable {dir name p q : Text}

/-- The path of an entry is a slash and its name after the path of its directory, which is left out
if it is the root. -/
theorem exists_join_eq (dir name : Text) :
    ∃ d, join dir name = d ++ '/' :: name ∧ (d = [] ∧ dir = root ∨ d = dir ∧ dir ≠ root) := by
  unfold join
  split
  next hroot => exact ⟨[], rfl, .inl ⟨rfl, hroot⟩⟩
  next hroot => exact ⟨dir, rfl, .inr ⟨rfl, hroot⟩⟩

theorem parent_join (hdir : dir ≠ []) (hname : IsName name) : parent (join dir name) = dir := by
  obtain ⟨d, hjoin, hd⟩ := exists_join_eq dir name
  unfold parent
  rw [hjoin, Text.splitLast_append d hname.no_slash]
  rcases hd with ⟨rfl, hroot⟩ | ⟨rfl, -⟩
  · exact hroot.symm
  · cases d with
    | nil => exact absurd rfl hdir
    | cons c d => rfl

theorem join_ne_root (hname : IsName name) : join dir name ≠ root := by
  obtain ⟨d, hjoin, -⟩ := exists_join_eq dir name
  intro heq
  have hlength := congrArg List.length (hjoin.symm.trans heq)
  have hpos := List.length_pos_iff.mpr hname.ne_nil
  simp only [List.length_append, List.length_cons, root, List.length_nil] at hlength
  omega

/-- Two slashes in a row before a name end, or lie in, what stands before its slash. -/
theorem double_slash_of_append {d : Text} (hname : '/' ∉ name)
    (h : ['/', '/'] <:+: d ++ '/' :: name) : d.getLast? = some '/' ∨ ['/', '/'] <:+: d := by
  obtain ⟨a, b, heq⟩ := h
  rw [List.append_assoc] at heq
  rcases List.append_eq_append_iff.mp heq with ⟨u, rfl, hu⟩ | ⟨u, rfl, hu⟩
  · match u with
    | [] =>
      obtain ⟨-, rfl⟩ := List.cons.inj hu
      exact absurd List.mem_cons_self hname
    | [x] =>
      obtain ⟨rfl, -⟩ := List.cons.inj hu
      exact .inl List.getLast?_concat
    | x :: y :: u =>
      obtain ⟨rfl, hu'⟩ := List.cons.inj hu
      obtain ⟨rfl, -⟩ := List.cons.inj hu'
      exact .inr ⟨a, u, by simp⟩
  · match u with
    | [] =>
      obtain ⟨-, rfl⟩ := List.cons.inj hu
      exact absurd List.mem_cons_self hname
    | x :: u =>
      obtain ⟨-, rfl⟩ := List.cons.inj hu
      exact absurd (List.mem_append_right _ List.mem_cons_self) hname

theorem Normal.join (hdir : Normal dir) (hname : IsName name) : Normal (join dir name) := by
  obtain ⟨d, hjoin, hd⟩ := exists_join_eq dir name
  rw [hjoin]
  constructor
  · rcases hd with ⟨rfl, -⟩ | ⟨rfl, -⟩
    · rfl
    · rw [List.head?_append, hdir.absolute]
      rfl
  · intro hdouble
    rcases double_slash_of_append hname.no_slash hdouble with hend | hdouble
    · rcases hd with ⟨rfl, -⟩ | ⟨rfl, hroot⟩
      · cases hend
      · exact hroot (hdir.no_trailing_slash hend)
    · rcases hd with ⟨rfl, -⟩ | ⟨rfl, -⟩
      · exact absurd hdouble (by decide)
      · exact hdir.no_double_slash hdouble
  · intro htrail
    rw [List.append_cons, List.getLast?_append_of_ne_nil _ hname.ne_nil] at htrail
    exact absurd (List.mem_of_getLast? htrail) hname.no_slash

/-- A path in normal form is the root or the path of an entry. -/
theorem Normal.exists_eq_join (h : Normal p) (hp : p ≠ root) :
    ∃ dir name, Normal dir ∧ IsName name ∧ p = Path.join dir name := by
  obtain ⟨d, name, rfl, hslash⟩ := Text.exists_eq_append_cons (List.mem_of_mem_head? h.absolute)
  have hname : IsName name := by
    refine ⟨?_, hslash⟩
    rintro rfl
    exact hp (h.no_trailing_slash List.getLast?_concat)
  by_cases hd : d = []
  · exact ⟨root, name, normal_root, hname, by rw [hd]; rfl⟩
  · have hdouble : ¬ ['/', '/'] <:+: d := fun hin =>
      h.no_double_slash (hin.trans (List.prefix_append ..).isInfix)
    have hend : d.getLast? ≠ some '/' := by
      intro hlast
      obtain ⟨e, rfl⟩ := List.getLast?_eq_some_iff.mp hlast
      exact h.no_double_slash ⟨e, name, by simp⟩
    refine ⟨d, name, ⟨?_, hdouble, fun hlast => absurd hlast hend⟩, hname, ?_⟩
    · have habs := h.absolute
      rwa [List.head?_append_of_ne_nil _ hd] at habs
    · have hroot : d ≠ root := by
        rintro rfl
        exact hend rfl
      unfold Path.join
      rw [if_neg hroot]

theorem Normal.exists_eq_join_parent (h : Normal p) (hp : p ≠ root) :
    ∃ name, IsName name ∧ p = Path.join (parent p) name ∧ Normal (parent p) := by
  obtain ⟨dir, name, hdir, hname, rfl⟩ := h.exists_eq_join hp
  rw [parent_join hdir.ne_nil hname]
  exact ⟨name, hname, rfl, hdir⟩

theorem Normal.length_parent_lt (h : Normal p) (hp : p ≠ root) :
    (parent p).length < p.length := by
  obtain ⟨name, hname, hjoin, -⟩ := h.exists_eq_join_parent hp
  have hpos := List.length_pos_iff.mpr hname.ne_nil
  conv_rhs => rw [hjoin]
  unfold Path.join
  split
  next hroot =>
    rw [hroot]
    simpa [root] using hpos
  next => simp

/-! ## Normalizing -/

theorem ofComponents_concat {parts : List Text} (h : ∀ part ∈ parts, IsName part) (name : Text) :
    ofComponents (parts ++ [name]) = join (ofComponents parts) name := by
  cases parts with
  | nil => simp [ofComponents, join]
  | cons first rest =>
    obtain ⟨c, first, rfl⟩ := List.exists_cons_of_ne_nil (h first List.mem_cons_self).ne_nil
    simp [ofComponents, join, root]

theorem normal_ofComponents {parts : List Text} (h : ∀ part ∈ parts, IsName part) :
    Normal (ofComponents parts) := by
  induction parts using List.reverseRecOn with
  | nil => exact normal_root
  | append_singleton parts name ih =>
    have hparts : ∀ part ∈ parts, IsName part := fun part hpart =>
      h part (List.mem_append_left _ hpart)
    rw [ofComponents_concat hparts]
    exact (ih hparts).join (h name (by simp))

theorem isName_of_mem_components {part : Text} (h : part ∈ components p) : IsName part := by
  obtain ⟨hsplit, hne⟩ := List.mem_filter.mp h
  exact ⟨of_decide_eq_true hne, Text.not_mem_of_mem_split hsplit⟩

/-- Whatever the text, its normal form is a path in normal form. -/
theorem normal_normalize (p : Text) : Normal (normalize p) := by
  unfold normalize
  split
  next h => exact isNormal_iff.mp h
  next => exact normal_ofComponents fun _ => isName_of_mem_components

theorem Normal.normalize_eq (h : Normal p) : normalize p = p :=
  if_pos (isNormal_iff.mpr h)

/-! ## Components -/

/-- What holds of the root, and of an entry if it holds of its directory, holds of all paths in normal
form. -/
@[elab_as_elim]
theorem normal_induction {motive : Text → Prop} (top : motive root)
    (entry : ∀ dir name, Normal dir → IsName name → motive dir → motive (join dir name))
    (h : Normal p) : motive p := by
  induction hlen : p.length using Nat.strongRecOn generalizing p with
  | ind k ih =>
    subst hlen
    by_cases hp : p = root
    · rw [hp]
      exact top
    · obtain ⟨name, hname, hjoin, hparent⟩ := h.exists_eq_join_parent hp
      rw [hjoin]
      exact entry _ _ hparent hname (ih _ (h.length_parent_lt hp) hparent rfl)

theorem components_join (dir : Text) (hname : IsName name) :
    components (join dir name) = components dir ++ [name] := by
  obtain ⟨d, hjoin, hd⟩ := exists_join_eq dir name
  have happend : components (d ++ '/' :: name) = components d ++ [name] := by
    unfold components
    rw [Text.split_append d hname.no_slash, List.filter_append]
    simp [hname.ne_nil]
  rw [hjoin, happend]
  rcases hd with ⟨rfl, rfl⟩ | ⟨rfl, -⟩
  · rfl
  · rfl

/-- The components of a path in normal form make it up. -/
theorem Normal.ofComponents_components (h : Normal p) : ofComponents (components p) = p := by
  refine normal_induction rfl (fun dir name _ hname ih => ?_) h
  rw [components_join dir hname, ofComponents_concat fun _ => isName_of_mem_components, ih]

/-- What lies beneath a directory looks the same from there as from the root. -/
theorem Normal.append {rel : Text} (hp : Normal p) (hroot : p ≠ root) (hrel : Normal rel)
    (hrel' : rel ≠ root) :
    Normal (p ++ rel) ∧ parent (p ++ rel) = if parent rel = root then p else p ++ parent rel := by
  revert hrel'
  refine normal_induction (fun h => absurd rfl h) (fun dir name hdir hname ih _ => ?_) hrel
  rw [parent_join hdir.ne_nil hname]
  by_cases hdirroot : dir = root
  · have hjoin : p ++ Path.join dir name = Path.join p name := by
      unfold Path.join
      rw [if_pos hdirroot, if_neg hroot]
    rw [if_pos hdirroot, hjoin, parent_join hp.ne_nil hname]
    exact ⟨hp.join hname, rfl⟩
  · obtain ⟨hnormal, -⟩ := ih hdirroot
    have hne : p ++ dir ≠ root := fun heq => by
      have hlength := congrArg List.length heq
      have hp' := List.length_pos_iff.mpr hp.ne_nil
      have hdir' := List.length_pos_iff.mpr hdir.ne_nil
      rw [List.length_append] at hlength
      simp only [root, List.length_singleton] at hlength
      omega
    have hjoin : p ++ Path.join dir name = Path.join (p ++ dir) name := by
      unfold Path.join
      rw [if_neg hdirroot, if_neg hne, List.append_assoc]
    rw [if_neg hdirroot, hjoin, parent_join hnormal.ne_nil hname]
    exact ⟨hnormal.join hname, rfl⟩

/-! ## The one normal form -/

/-- Names are the components of the path that they make up. -/
theorem components_ofComponents {parts : List Text} (h : ∀ part ∈ parts, IsName part) :
    components (ofComponents parts) = parts := by
  induction parts using List.reverseRecOn with
  | nil => rfl
  | append_singleton parts name ih =>
    have hparts : ∀ part ∈ parts, IsName part := fun part hpart =>
      h part (List.mem_append_left _ hpart)
    rw [ofComponents_concat hparts, components_join _ (h name (by simp)), ih hparts]

theorem isNormal_iff_ofComponents : isNormal p = true ↔ ofComponents (components p) = p := by
  rw [isNormal_iff]
  refine ⟨Normal.ofComponents_components, fun h => ?_⟩
  rw [← h]
  exact normal_ofComponents fun _ => isName_of_mem_components

/-- A path that is kept is what its components make up anyway. -/
theorem normalize_eq_ofComponents (p : Text) : normalize p = ofComponents (components p) := by
  unfold normalize
  split
  next h => exact (isNormal_iff_ofComponents.mp h).symm
  next => rfl

theorem components_normalize (p : Text) : components (normalize p) = components p := by
  rw [normalize_eq_ofComponents]
  exact components_ofComponents fun _ => isName_of_mem_components

theorem Normal.components_inj (hp : Normal p) (hq : Normal q) : components p = components q ↔ p = q := by
  refine ⟨fun h => ?_, fun h => h ▸ rfl⟩
  rw [← hp.ofComponents_components, h, hq.ofComponents_components]

theorem ofComponents_eq_join (parts : List Text) : ofComponents parts = '/' :: Text.join ['/'] parts := by
  induction parts with
  | nil => rfl
  | cons first rest ih =>
    cases rest with
    | nil => simp [ofComponents, Text.join]
    | cons next rest =>
      calc ofComponents (first :: next :: rest)
          = '/' :: first ++ ofComponents (next :: rest) := rfl
        _ = '/' :: Text.join ['/'] (first :: next :: rest) := by rw [ih]; simp [Text.join]

/-- The normal form of a text is a slash and its components with slashes between them. Exactly the texts
that their components make up are kept, the normal form of a normal form is itself, and two texts have the
same normal form exactly if they have the same components. -/
theorem normalize_exact :
    (∀ p, normalize p = '/' :: Text.join ['/'] (components p)) ∧
      (∀ p, isNormal p = true ↔ ofComponents (components p) = p) ∧
      (∀ p, normalize (normalize p) = normalize p) ∧
      ∀ p q, normalize p = normalize q ↔ components p = components q := by
  refine ⟨fun p => ?_, fun p => isNormal_iff_ofComponents, fun p => (normal_normalize p).normalize_eq,
    fun p q => ?_⟩
  · rw [normalize_eq_ofComponents, ofComponents_eq_join]
  · rw [← (normal_normalize p).components_inj (normal_normalize q), components_normalize,
      components_normalize]

end Path

end VirtualTerminal
