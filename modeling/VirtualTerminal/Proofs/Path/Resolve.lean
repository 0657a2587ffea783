import VirtualTerminal.Builtin.Files
import VirtualTerminal.Proofs.Path

/-!
# Resolving typed paths

The components of a path are walked on a stack. What a path `a/b` leads to is what `b` leads to from
where `a` has led (`walk_append`), and so a relative path can be resolved from where another one leads,
or together with it (`resolve_composes`). What a walk has led to is in normal form and has no dots, so
walking it again changes nothing (`resolve_resolve`).
-/

namespace VirtualTerminal

namespace Path

variable {cwd typed home a b p : Text}

/-! ## Typed paths -/

/-- Whether a typed path is taken from the working directory: it does not start with a slash and does
not name the home directory or what lies beneath it. -/
structure IsRelative (typed : Text) : Prop where
  not_absolute : typed.head? ≠ some '/'
  not_home : typed ≠ ['~']
  not_beneath_home : ¬ ['~', '/'] <+: typed

instance : DecidablePred IsRelative := fun typed =>
  decidable_of_iff (typed.head? ≠ some '/' ∧ typed ≠ ['~'] ∧ ¬ ['~', '/'] <+: typed)
    ⟨fun ⟨h, h', h''⟩ => ⟨h, h', h''⟩, fun ⟨h, h', h''⟩ => ⟨h, h', h''⟩⟩

/-- A typed path has one of four forms. -/
theorem typed_cases (typed : Text) :
    typed = ['~'] ∨ (∃ rest, typed = '~' :: '/' :: rest) ∨ (∃ rest, typed = '/' :: rest) ∨
      IsRelative typed := by
  by_cases habs : typed.head? = some '/'
  · exact .inr (.inr (.inl (List.head?_eq_some_iff.mp habs)))
  · by_cases hhome : typed = ['~']
    · exact .inl hhome
    · by_cases hbeneath : ['~', '/'] <+: typed
      · obtain ⟨rest, rfl⟩ := hbeneath
        exact .inr (.inl ⟨rest, rfl⟩)
      · exact .inr (.inr (.inr ⟨habs, hhome, hbeneath⟩))

theorem IsRelative.expand_eq (h : IsRelative typed) (cwd home : Text) :
    expand cwd typed home = join cwd typed := by
  unfold expand
  split
  · exact absurd rfl h.not_home
  next rest => exact absurd (List.prefix_append ['~', '/'] rest) h.not_beneath_home
  · exact absurd rfl h.not_absolute
  · rfl

/-- A relative path stays relative when more components are typed after it. -/
theorem IsRelative.append (h : IsRelative a) (ha : a ≠ []) (b : Text) :
    IsRelative (a ++ '/' :: b) := by
  obtain ⟨c, rest, rfl⟩ := List.exists_cons_of_ne_nil ha
  refine ⟨h.not_absolute, fun heq => ?_, fun hprefix => ?_⟩
  · have hlength := congrArg List.length heq
    simp at hlength
  · obtain ⟨rfl, hrest⟩ := List.cons_prefix_cons.mp hprefix
    cases rest with
    | nil => exact h.not_home rfl
    | cons d rest =>
      obtain ⟨rfl, -⟩ := List.cons_prefix_cons.mp hrest
      exact h.not_beneath_home (List.prefix_append ['~', '/'] rest)

/-- A name is taken from the working directory, unless it is the one that stands for home. -/
theorem IsName.isRelative {name : Text} (h : IsName name) (hname : name ≠ ['~']) : IsRelative name := by
  refine ⟨fun habsolute => h.no_slash (List.mem_of_mem_head? habsolute), hname, fun hbeneath => ?_⟩
  exact h.no_slash (hbeneath.subset (by simp))

/-! ## Walking -/

/-- The components that a path leads to from those of a directory, the last ones first. -/
def walk (parts : List Text) (p : Text) : List Text :=
  (Text.split '/' p).foldl step parts

theorem resolve_eq_walk (cwd typed home : Text) :
    resolve cwd typed home = ofComponents (walk [] (expand cwd typed home)).reverse := rfl

theorem walk_append (parts : List Text) (p q : Text) :
    walk parts (p ++ '/' :: q) = walk (walk parts p) q := by
  unfold walk
  rw [Text.split_append_cons, List.foldl_append]

theorem walk_cons (parts : List Text) (p : Text) : walk parts ('/' :: p) = walk parts p :=
  walk_append parts [] p

theorem walk_join (parts : List Text) (dir p : Text) :
    walk parts (join dir p) = walk (walk parts dir) p := by
  unfold join
  split
  next hroot =>
    rw [walk_cons, hroot]
    rfl
  next => exact walk_append parts dir p

/-- Walking `a/b` is walking `b` from where `a` has led, whatever form `a` has. -/
theorem walk_expand_append (ha : a ≠ []) (cwd b home : Text) :
    walk [] (expand cwd (a ++ '/' :: b) home) = walk (walk [] (expand cwd a home)) b := by
  rcases typed_cases a with rfl | ⟨rest, rfl⟩ | ⟨rest, rfl⟩ | hrel
  · exact walk_join [] home b
  · show walk [] (join home (rest ++ '/' :: b)) = walk (walk [] (join home rest)) b
    rw [walk_join, walk_append, walk_join]
  · exact walk_append [] ('/' :: rest) b
  · rw [(hrel.append ha b).expand_eq, hrel.expand_eq, walk_join, walk_append, walk_join]

/-- What follows a slash is walked from where the directory before it leads. -/
theorem walk_expand_slash (cwd a b home : Text) :
    walk [] (expand cwd (a ++ '/' :: b) home) = walk (walk [] (expand cwd (a ++ ['/']) home)) b := by
  by_cases ha : a = []
  · subst ha
    exact walk_cons [] b
  · rw [walk_expand_append ha, walk_expand_append ha]
    rfl

/-! ## Names without dots -/

/-- Whether a component names an entry: it is a name, and none of the two that stand for directories. -/
structure IsEntry (part : Text) : Prop extends IsName part where
  ne_dot : part ≠ ['.']
  ne_dots : part ≠ ['.', '.']

theorem IsEntry.step_eq {part : Text} (h : IsEntry part) (parts : List Text) :
    step parts part = part :: parts := by
  unfold step
  rw [if_neg (not_or.mpr ⟨h.ne_nil, h.ne_dot⟩), if_neg h.ne_dots]

theorem isEntry_of_mem_step {parts : List Text} {part : Text} (hparts : ∀ q ∈ parts, IsEntry q)
    (hpart : '/' ∉ part) : ∀ q ∈ step parts part, IsEntry q := by
  unfold step
  split
  · exact hparts
  next hdot =>
    obtain ⟨hne, hdot⟩ := not_or.mp hdot
    split
    · exact fun q hq => hparts q (List.mem_of_mem_tail hq)
    next hdots => exact List.forall_mem_cons.mpr ⟨⟨⟨hne, hpart⟩, hdot, hdots⟩, hparts⟩

theorem isEntry_of_mem_walk (p : Text) : ∀ part ∈ walk [] p, IsEntry part :=
  List.foldlRecOn (motive := fun parts : List Text => ∀ q ∈ parts, IsEntry q)
    (Text.split '/' p) step (fun _ h => absurd h List.not_mem_nil)
    fun _ hparts _ hpiece => isEntry_of_mem_step hparts (Text.not_mem_of_mem_split hpiece)

/-- A path without dots leads to its own components. -/
theorem walk_ofComponents {parts : List Text} (h : ∀ part ∈ parts, IsEntry part) :
    walk [] (ofComponents parts) = parts.reverse := by
  induction parts using List.reverseRecOn with
  | nil => rfl
  | append_singleton parts name ih =>
    have hname : IsEntry name := h name (by simp)
    have hparts : ∀ part ∈ parts, IsEntry part := fun part hpart =>
      h part (List.mem_append_left _ hpart)
    rw [ofComponents_concat fun part hpart => (hparts part hpart).toIsName, walk_join, ih hparts]
    unfold walk
    rw [Text.split_of_not_mem hname.no_slash, List.foldl_cons, List.foldl_nil, hname.step_eq]
    simp

theorem walk_resolve (cwd typed home : Text) :
    walk [] (resolve cwd typed home) = walk [] (expand cwd typed home) := by
  rw [resolve_eq_walk, walk_ofComponents fun part hpart =>
    isEntry_of_mem_walk _ part (List.mem_reverse.mp hpart), List.reverse_reverse]

/-! ## Resolved paths -/

/-- Whether a path is in normal form, so that none of its components is empty, and none of them is `.`
or `..`. -/
structure Resolved (p : Text) : Prop extends Normal p where
  ne_dot : ∀ part ∈ Text.split '/' p, part ≠ ['.']
  ne_dots : ∀ part ∈ Text.split '/' p, part ≠ ['.', '.']

theorem resolved_ofComponents {parts : List Text} (h : ∀ part ∈ parts, IsEntry part) :
    Resolved (ofComponents parts) := by
  have hnames : ∀ part ∈ parts, IsName part := fun part hpart => (h part hpart).toIsName
  have hmem : ∀ part ∈ Text.split '/' (ofComponents parts), part = [] ∨ part ∈ parts := by
    intro part hpart
    by_cases hne : part = []
    · exact .inl hne
    · refine .inr ?_
      rw [← components_ofComponents hnames]
      exact List.mem_filter.mpr ⟨hpart, decide_eq_true hne⟩
  refine ⟨normal_ofComponents hnames, fun part hpart => ?_, fun part hpart => ?_⟩
  · rcases hmem part hpart with rfl | hin
    · exact (List.cons_ne_nil _ _).symm
    · exact (h part hin).ne_dot
  · rcases hmem part hpart with rfl | hin
    · exact (List.cons_ne_nil _ _).symm
    · exact (h part hin).ne_dots

theorem resolved_resolve (cwd typed home : Text) : Resolved (resolve cwd typed home) :=
  resolved_ofComponents fun part hpart => isEntry_of_mem_walk _ part (List.mem_reverse.mp hpart)

/-- An absolute path is taken from the root, wherever it is typed. -/
theorem resolve_of_absolute (habs : p.head? = some '/') (cwd home : Text) :
    resolve cwd p home = ofComponents (walk [] p).reverse := by
  obtain ⟨rest, rfl⟩ := List.head?_eq_some_iff.mp habs
  rfl

theorem resolve_resolve (dir cwd typed home home' : Text) :
    resolve dir (resolve cwd typed home) home' = resolve cwd typed home := by
  rw [resolve_of_absolute (resolved_resolve cwd typed home).absolute, walk_resolve, ← resolve_eq_walk]

/-- A relative path leads on from where another path has led to where both lead together. -/
theorem resolve_append (ha : a ≠ []) (hb : IsRelative b) (cwd home : Text) :
    resolve (resolve cwd a home) b home = resolve cwd (a ++ '/' :: b) home := by
  have hwalk : walk [] (expand (resolve cwd a home) b home) =
      walk [] (expand cwd (a ++ '/' :: b) home) := by
    rw [hb.expand_eq, walk_join, walk_resolve, walk_expand_append ha]
  rw [resolve_eq_walk, hwalk, ← resolve_eq_walk]

/-- Whatever is typed, it is resolved to an absolute path in normal form without dots, and that path
is resolved to itself from anywhere. A relative path typed where another path leads is resolved to
what both of them, joined by a slash, are resolved to. -/
theorem resolve_composes (cwd home a b : Text) :
    Resolved (resolve cwd a home) ∧
      (∀ dir home', resolve dir (resolve cwd a home) home' = resolve cwd a home) ∧
      (a ≠ [] → IsRelative b →
        resolve (resolve cwd a home) b home = resolve cwd (a ++ '/' :: b) home) :=
  ⟨resolved_resolve cwd a home, fun dir home' => resolve_resolve dir cwd a home home',
    fun ha hb => resolve_append ha hb cwd home⟩

end Path

/-! ## Changing the directory -/

namespace Builtin

/-- The terminal after `cd` with one argument. -/
def afterCd (c : Context) (typed : Text) (t : Terminal) : Terminal :=
  (cd.body.run { c with invocation := { c.invocation with args := [typed] } } t).2

variable {t : Terminal} {a b typed : Text}

theorem afterCd_of_dir (c : Context) (h : t.files.stat (resolve t.toDesk typed) = .ok .dir) :
    afterCd c typed t = { t with shell := { t.shell with cwd := resolve t.toDesk typed } } := by
  unfold afterCd Body.run cd Handler.doing
  simp only [h]

/-- Changing to one directory and from there to another leads where changing to both at once leads. -/
theorem afterCd_afterCd (c : Context) (ha : a ≠ []) (hb : Path.IsRelative b)
    (hdir : t.files.stat (resolve t.toDesk a) = .ok .dir)
    (hboth : t.files.stat (resolve t.toDesk (a ++ '/' :: b)) = .ok .dir) :
    afterCd c b (afterCd c a t) = afterCd c (a ++ '/' :: b) t := by
  have hstep : resolve (afterCd c a t).toDesk b = resolve t.toDesk (a ++ '/' :: b) := by
    rw [afterCd_of_dir c hdir]
    exact Path.resolve_append ha hb _ _
  have hthere : (afterCd c a t).files.stat (resolve (afterCd c a t).toDesk b) = .ok .dir := by
    rw [hstep, afterCd_of_dir c hdir]
    exact hboth
  rw [afterCd_of_dir c hthere, hstep, afterCd_of_dir c hdir, afterCd_of_dir c hboth]

end Builtin

end VirtualTerminal
