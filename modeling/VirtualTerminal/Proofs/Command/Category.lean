import Mathlib.Algebra.Group.Action.Defs
import Mathlib.Algebra.Order.BigOperators.Group.List
import Mathlib.Algebra.Order.Ring.Nat
import VirtualTerminal.Proofs.Command.Lookup

/-!
# Listings by category

A table lists by category what it keeps by name. Registering a command replaces the one of the same
name in both, but the listed one is looked for by the name that it was given, ignoring only the case
of ASCII letters. So the categories partition the table exactly if every command that is replaced has
such a name (`partitioned_iff`): a command with blanks around its name, or with a capital letter
outside of ASCII, stays listed beside the one that replaces it (`not_partitioned_of_replaced`).
-/

namespace VirtualTerminal

/-- The lists of the elements of each class together hold every element once. -/
theorem perm_flatMap_filter {α : Type u} {κ : Type v} [DecidableEq κ] (key : α → κ) (xs : List α)
    {keys : List κ} (hkeys : keys.Nodup) :
    (keys.flatMap fun k => xs.filter (key · = k)).Perm (xs.filter (key · ∈ keys)) := by
  induction keys with
  | nil => simp
  | cons k ks ih =>
    obtain ⟨hk, hks⟩ := List.nodup_cons.mp hkeys
    have hpos : (xs.filter (key · ∈ k :: ks)).filter (key · = k) = xs.filter (key · = k) := by
      rw [List.filter_filter]
      refine List.filter_congr fun x _ => ?_
      by_cases hx : key x = k
      · simp [hx]
      · simp [hx]
    have hneg : (xs.filter (key · ∈ k :: ks)).filter (fun x => !decide (key x = k)) =
        xs.filter (key · ∈ ks) := by
      rw [List.filter_filter]
      refine List.filter_congr fun x _ => ?_
      by_cases hx : key x = k
      · simp [hx, hk]
      · simp [hx]
    have hsplit := List.filter_append_perm (key · = k) (xs.filter (key · ∈ k :: ks))
    rw [hpos, hneg] at hsplit
    rw [List.flatMap_cons]
    exact ((ih hks).append_left _).trans hsplit

theorem Category.perm_all {α : Type u} (key : α → Category) (xs : List α) :
    (Category.all.flatMap fun k => xs.filter (key · = k)).Perm xs := by
  have hall : ∀ k, k ∈ Category.all := by
    intro k
    cases k <;> decide
  have hnodup : Category.all.Nodup := by decide
  have hperm := perm_flatMap_filter key xs hnodup
  rwa [List.filter_eq_self.mpr fun x _ => decide_eq_true (hall (key x))] at hperm

/-- A command made from a definition is called by the name that look-ups use. -/
theorem Definition.normalName_of_build {β : Type u} {d : Definition β} {c : Command β}
    (h : d.build = .ok c) : Command.normalName c.name = c.name := by
  unfold build at h
  dsimp only at h
  split at h
  · cases h
  · split at h
    · cases h
    · split at h
      · cases h
      · cases h
      · cases h
        exact Command.normalName_normalName d.name

namespace CommandTable

variable {β : Type u} {past : List (Command β)} {t t' : CommandTable β} {c : Command β}

/-! ## Replacing commands -/

/-- The commands of a list that no later one replaces. -/
def survivors (replaces : Command β → Command β → Bool) : List (Command β) → List (Command β)
  | [] => []
  | c :: later =>
    if later.any (replaces · c) then survivors replaces later else c :: survivors replaces later

/-- A command replaces those before it that have the same name for look-ups. -/
def replaces (d c : Command β) : Bool :=
  Command.normalName c.name = Command.normalName d.name

/-- A command that is registered takes those commands off the lists that were given its name, but for
the case of ASCII letters. -/
def unlists (d c : Command β) : Bool :=
  c.name.lowerAscii = Command.normalName d.name

/-- The latest command of each name, in the order in which they were registered. -/
def latest (past : List (Command β)) : List (Command β) :=
  survivors replaces past

theorem survivors_concat (r : Command β → Command β → Bool) (past : List (Command β))
    (d : Command β) :
    survivors r (past ++ [d]) = (survivors r past).filter (!r d ·) ++ [d] := by
  induction past with
  | nil => rfl
  | cons c later ih =>
    rw [List.cons_append, survivors, survivors, List.any_append, ih]
    cases hlater : later.any (r · c) with
    | true => simp
    | false => cases hd : r d c <;> simp [hd]

theorem survivors_sublist (r : Command β → Command β → Bool) (past : List (Command β)) :
    (survivors r past).Sublist past := by
  induction past with
  | nil => exact .slnil
  | cons c later ih =>
    rw [survivors]
    split
    · exact ih.cons _
    · exact ih.cons_cons _

theorem survivors_congr {r q : Command β → Command β → Bool} {past : List (Command β)}
    (h : past.Pairwise fun c d => r d c = q d c) : survivors r past = survivors q past := by
  induction past with
  | nil => rfl
  | cons c later ih =>
    obtain ⟨hc, hlater⟩ := List.pairwise_cons.mp h
    have hany : later.any (r · c) = later.any (q · c) := by
      rw [Bool.eq_iff_iff, List.any_eq_true, List.any_eq_true]
      exact exists_congr fun d => and_congr_right fun hd => by rw [hc d hd]
    rw [survivors, survivors, hany, ih hlater]

theorem replaces_of_unlists {d : Command β} (h : unlists d c = true) : replaces d c = true := by
  have hname : c.name.lowerAscii = (Text.trim d.name).lower := of_decide_eq_true h
  have htrim : Text.trim c.name = c.name := Text.trim_eq_self_of_lowerAscii_eq hname
  refine decide_eq_true ?_
  show (Text.trim c.name).lower = (Text.trim d.name).lower
  rw [htrim]
  exact Text.lower_eq_of_lowerAscii_eq hname

theorem any_replaces_of_any_unlists {later : List (Command β)}
    (h : later.any (unlists · c) = true) : later.any (replaces · c) = true := by
  obtain ⟨d, hd, hunlists⟩ := List.any_eq_true.mp h
  exact List.any_eq_true.mpr ⟨d, hd, replaces_of_unlists hunlists⟩

/-- No more commands are taken off the lists than are replaced. -/
theorem length_latest_le (past : List (Command β)) :
    (latest past).length ≤ (survivors unlists past).length := by
  induction past with
  | nil => exact Nat.le_refl _
  | cons c later ih =>
    unfold latest at ih ⊢
    rw [survivors, survivors]
    split
    · split
      · exact ih
      · exact Nat.le_succ_of_le ih
    next hnot =>
      rw [if_neg fun hany => hnot (any_replaces_of_any_unlists hany)]
      exact Nat.succ_le_succ ih

/-- Whether every command that a later one replaces was given its name for look-ups, but for the case
of ASCII letters. -/
def Replaceable (past : List (Command β)) : Prop :=
  past.Pairwise fun c d => Command.normalName c.name = Command.normalName d.name →
    c.name.lowerAscii = Command.normalName c.name

theorem survivors_of_replaceable (h : Replaceable past) :
    survivors unlists past = latest past := by
  refine survivors_congr (h.imp fun {c d} himp => ?_)
  refine Bool.eq_iff_iff.mpr ⟨replaces_of_unlists, fun hreplaces => ?_⟩
  have hname : Command.normalName c.name = Command.normalName d.name := of_decide_eq_true hreplaces
  exact decide_eq_true ((himp hname).trans hname)

theorem replaceable_of_length
    (h : (survivors unlists past).length = (latest past).length) : Replaceable past := by
  induction past with
  | nil => exact .nil
  | cons c later ih =>
    have hle := length_latest_le later
    unfold latest at h hle
    rw [survivors, survivors] at h
    by_cases hreplaced : later.any (replaces · c) = true
    · rw [if_pos hreplaced] at h
      by_cases hunlisted : later.any (unlists · c) = true
      · rw [if_pos hunlisted] at h
        obtain ⟨e, -, he⟩ := List.any_eq_true.mp hunlisted
        have hplain : c.name.lowerAscii = Command.normalName c.name :=
          (of_decide_eq_true he).trans (of_decide_eq_true (replaces_of_unlists he)).symm
        exact List.pairwise_cons.mpr ⟨fun _ _ _ => hplain, ih h⟩
      · rw [if_neg hunlisted, List.length_cons] at h
        omega
    · rw [if_neg hreplaced, if_neg fun hany => hreplaced (any_replaces_of_any_unlists hany)] at h
      refine List.pairwise_cons.mpr ⟨fun d hd hname => ?_, ih (Nat.succ.inj h)⟩
      exact absurd (List.any_eq_true.mpr ⟨d, hd, decide_eq_true hname⟩) hreplaced

/-! ## What a table lists -/

theorem Registered.commands_eq (h : t.Registered c t') :
    t'.commands = t.commands.insert (Command.normalName c.name) c :=
  Table.ext_find? fun n => by rw [h.commands, Table.find?_insert]

theorem listed_of_register (h : t.register c = .ok t') : t'.listed =
    (if t.commands.contains (Command.normalName c.name) then t.listed.filter (!unlists c ·)
      else t.listed) ++ [c] := by
  unfold register at h
  dsimp only at h
  split at h
  · cases h
  · split at h
    · cases h
    · cases h
      dsimp only
      split
      · have hlower : (Command.normalName c.name).lowerAscii = Command.normalName c.name :=
          Text.lowerAscii_lower _
        unfold unlink
        dsimp only
        rw [hlower]
        congr 1
        exact List.filter_congr fun d _ => decide_not
      · rfl

/-- A table finds the latest commands of each name. -/
theorem Registers.entries (h : Registers past t) :
    t.commands.entries.Perm ((latest past).map fun c => (Command.normalName c.name, c)) := by
  induction h with
  | empty => exact .refl _
  | @register past t t' d h hd ih =>
    rw [(registered_of_register hd).commands_eq]
    refine (Table.perm_insert _ _ _).trans ?_
    have hfilter := ih.filter fun e => decide (e.1 ≠ Command.normalName d.name)
    rw [List.filter_map] at hfilter
    refine (hfilter.cons _).trans ?_
    unfold latest
    rw [survivors_concat, List.map_append]
    refine (List.perm_append_singleton _ _).symm.trans ?_
    refine (List.Perm.of_eq ?_)
    congr 3
    funext c
    unfold replaces
    exact decide_not

theorem Registers.find?_eq_some_iff (h : Registers past t) (n : Text) (c : Command β) :
    t.commands.find? n = some c ↔ c ∈ latest past ∧ Command.normalName c.name = n := by
  rw [Table.find?_eq_some_iff, h.entries.mem_iff, List.mem_map]
  constructor
  · rintro ⟨d, hd, heq⟩
    cases heq
    exact ⟨hd, rfl⟩
  · rintro ⟨hc, rfl⟩
    exact ⟨c, hc, rfl⟩

theorem Registers.contains (h : Registers past t) (hc : c ∈ past) :
    t.commands.contains (Command.normalName c.name) = true := by
  induction h with
  | empty => cases hc
  | @register past t t' d h hd ih =>
    refine (registered_of_register hd).contains ?_
    rcases List.mem_append.mp hc with hc | hc
    · exact .inl (ih hc)
    · rw [List.mem_singleton.mp hc]
      exact .inr rfl

/-- A table lists the commands that have not been taken off its lists. -/
theorem Registers.listed (h : Registers past t) : t.listed = survivors unlists past := by
  induction h with
  | empty => rfl
  | @register past t t' d h hd ih =>
    rw [listed_of_register hd, survivors_concat, ih]
    split
    · rfl
    next hnew =>
      congr 1
      refine (List.filter_eq_self.mpr fun c hc => ?_).symm
      rw [Bool.not_eq_true', Bool.eq_false_iff]
      intro hunlists
      have hname : Command.normalName c.name = Command.normalName d.name :=
        of_decide_eq_true (replaces_of_unlists hunlists)
      exact hnew (hname ▸ h.contains ((survivors_sublist _ _).subset hc))

/-! ## The partition -/

/-- Whether the lists of all categories partition a table made by registering `past`. -/
structure Partitioned (t : CommandTable β) (past : List (Command β)) : Prop where
  /-- The lists together hold every command of the table once, and no other one. -/
  entries : ((Category.all.flatMap t.ofCategory).map fun c => (Command.normalName c.name, c)).Perm
    t.commands.entries
  /-- A list holds the commands of its own category, each at the place of its latest registration. -/
  order : ∀ category, t.ofCategory category = (latest past).filter (·.category = category)
  categories : ∀ category, category ∈ t.categories ↔
    ∃ n c, t.commands.find? n = some c ∧ c.category = category
  size : (Category.all.map fun category => (t.ofCategory category).length).sum = t.size

theorem Registers.size (h : Registers past t) : t.size = (latest past).length := by
  have hlength := h.entries.length_eq
  rwa [List.length_map] at hlength

theorem length_ofCategory_sum (t : CommandTable β) :
    (Category.all.map fun category => (t.ofCategory category).length).sum = t.listed.length := by
  rw [← List.length_flatMap]
  exact (Category.perm_all (·.category) t.listed).length_eq

theorem Registers.partitioned (h : Registers past t) (hlisted : t.listed = latest past) :
    t.Partitioned past := by
  refine ⟨?_, fun category => ?_, fun category => ?_, ?_⟩
  · have hperm : (Category.all.flatMap t.ofCategory).Perm t.listed :=
      Category.perm_all (fun c : Command β => c.category) t.listed
    rw [hlisted] at hperm
    exact (hperm.map _).trans h.entries.symm
  · unfold ofCategory
    rw [hlisted]
  · have hall : category ∈ Category.all := by cases category <;> decide
    unfold categories ofCategory
    rw [hlisted, List.mem_filter, and_iff_right hall, Bool.not_eq_true',
      List.isEmpty_eq_false_iff_exists_mem]
    constructor
    · rintro ⟨c, hc⟩
      obtain ⟨hmem, hcategory⟩ := List.mem_filter.mp hc
      exact ⟨_, c, (h.find?_eq_some_iff _ c).mpr ⟨hmem, rfl⟩, of_decide_eq_true hcategory⟩
    · rintro ⟨n, c, hfind, hcategory⟩
      obtain ⟨hmem, -⟩ := (h.find?_eq_some_iff n c).mp hfind
      exact ⟨c, List.mem_filter.mpr ⟨hmem, decide_eq_true hcategory⟩⟩
  · rw [length_ofCategory_sum, hlisted, h.size]

/-- However commands have been registered, the categories partition the table exactly if every command
that a later one has replaced was given its name as look-ups use it, but for the case of ASCII
letters. -/
theorem partitioned_iff_replaceable (changes : List (Change β)) :
    (ofChanges changes).Partitioned (registrations changes) ↔
      Replaceable (registrations changes) := by
  have h := registers_ofChanges changes
  constructor
  · intro hpartitioned
    refine replaceable_of_length ?_
    rw [← h.listed, ← h.size, ← hpartitioned.size]
    exact (length_ofCategory_sum _).symm
  · intro hreplaceable
    exact h.partitioned (h.listed.trans (survivors_of_replaceable hreplaceable))

/-- The categories partition a table whose commands are called by the names that look-ups use, as those
made from definitions are (`Definition.normalName_of_build`). -/
theorem partitioned_of_normal {changes : List (Change β)}
    (hnormal : ∀ c ∈ registrations changes, Command.normalName c.name = c.name) :
    (ofChanges changes).Partitioned (registrations changes) := by
  have h := registers_ofChanges changes
  have hreplaceable : Replaceable (registrations changes) := by
    refine List.pairwise_of_forall_mem_list fun c hc _ _ _ => ?_
    have hlower : c.name.lowerAscii = c.name := by
      rw [← hnormal c hc]
      exact Text.lowerAscii_lower _
    rw [hnormal c hc, hlower]
  exact h.partitioned (h.listed.trans (survivors_of_replaceable hreplaceable))

/-- Registering a command with nothing but a name, twice. -/
def twice (name : Text) : List (Change Unit) :=
  let c : Command Unit :=
    { name := name, description := [], usage := [], category := .system, body := () }
  [.register c, .register c]

/-- A command with a blank before its name, or with a capital letter outside of ASCII in it, stays
listed when it is registered once more. -/
theorem not_partitioned_of_replaced :
    ¬(ofChanges (twice " echo".toList)).Partitioned (registrations (twice " echo".toList)) ∧
      ¬(ofChanges (twice "Écho".toList)).Partitioned (registrations (twice "Écho".toList)) :=
  ⟨fun h => absurd h.size (by decide +kernel), fun h => absurd h.size (by decide +kernel)⟩

end CommandTable

end VirtualTerminal
