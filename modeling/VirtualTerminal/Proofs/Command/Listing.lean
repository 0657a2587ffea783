import VirtualTerminal.Proofs.Command.Lookup

/-!
# Listings of names

A table keeps names and aliases apart, and nothing keeps a command from being registered under a name
that is an alias already. Resolving an alias and the listings of names agree with the look-ups
exactly as long as that has not happened (`namesAgree_iff_disjoint`). A name that is an alias as well
finds the command of that name, but is still resolved as an alias, and is listed twice
(`not_namesAgree_of_shared`).
-/

namespace VirtualTerminal

namespace CommandTable

variable {β : Type u} {past : List (Command β)} {t : CommandTable β}

/-! ## Texts in increasing order -/

theorem mem_sorted {k : Text} {names : List Text} : k ∈ sorted names ↔ k ∈ names :=
  (List.mergeSort_perm _ _).mem_iff

theorem pairwise_not_lt_sorted (names : List Text) :
    (sorted names).Pairwise fun a b => ¬b < a := by
  have hsorted : (sorted names).Pairwise fun a b => !decide (b < a) := by
    refine List.pairwise_mergeSort (fun a b c hab hbc => ?_) (fun a b => ?_) names
    · rw [Bool.not_eq_true', decide_eq_false_iff_not] at hab hbc ⊢
      exact List.not_lt.mpr (List.le_trans (List.not_lt.mp hab) (List.not_lt.mp hbc))
    · rw [Bool.or_eq_true, Bool.not_eq_true', Bool.not_eq_true', decide_eq_false_iff_not,
        decide_eq_false_iff_not]
      exact (List.le_total a b).imp List.not_lt.mpr List.not_lt.mpr
  exact hsorted.imp fun h => by simpa using h

/-- Texts that differ from one another strictly increase when they are sorted. -/
theorem pairwise_lt_sorted {names : List Text} (h : names.Nodup) :
    (sorted names).Pairwise (· < ·) := by
  have hnodup : (sorted names).Nodup := (List.mergeSort_perm _ _).nodup_iff.mpr h
  refine (pairwise_not_lt_sorted names).imp₂ (fun a b hnot hne => ?_) hnodup
  exact (List.le_iff_lt_or_eq.mp (List.not_lt.mp hnot)).resolve_right hne

/-! ## Keys -/

theorem Registers.lower_of_name (h : Registers past t) {k : Text}
    (hk : t.commands.contains k = true) : k.lower = k := by
  obtain ⟨c, hc⟩ := Option.isSome_iff_exists.mp hk
  rw [← h.normalName_eq hc]
  exact Command.lower_normalName _

theorem Registers.lower_of_alias (h : Registers past t) {k : Text}
    (hk : t.aliases.contains k = true) : k.lower = k := by
  obtain ⟨n, hn⟩ := Option.isSome_iff_exists.mp hk
  obtain ⟨c, hc⟩ := Option.isSome_iff_exists.mp (h.coherent.owner k n hn)
  obtain ⟨-, s, rfl⟩ :=
    Command.exists_of_mem_normalizeAliases ((h.coherent.owned_iff n c hc k).mp hn)
  exact Command.lower_normalName s

/-- Whether no name of a command is an alias. -/
def Disjoint (t : CommandTable β) : Prop :=
  ∀ k, t.commands.contains k = true → t.aliases.contains k = false

theorem Disjoint.find?_eq_none (hdisjoint : t.Disjoint) {k n : Text}
    (hn : t.aliases.find? k = some n) : t.commands.find? k = none := by
  rw [← Option.not_isSome_iff_eq_none]
  intro hname
  exact absurd (Option.isSome_of_eq_some hn) (Bool.eq_false_iff.mp (hdisjoint k hname))

/-! ## Agreement -/

/-- Whether resolving aliases and listing names agree with looking up commands. A key is a text in
lower case. -/
structure NamesAgree (t : CommandTable β) : Prop where
  /-- A text is resolved if it is an alias and no name; the command of the name that it stands for is
  the one that it finds. -/
  resolve : ∀ q n, t.resolveAlias? q = some n ↔ t.commands.contains q.lower = false ∧
    ∃ c, t.get? q = some c ∧ t.commands.find? n = some c
  all_increasing : t.allNames.Pairwise (· < ·)
  mem_all : ∀ k, k ∈ t.allNames ↔ k.lower = k ∧ t.has k = true
  visible_increasing : t.visibleNames.Pairwise (· < ·)
  mem_visible : ∀ k, k ∈ t.visibleNames ↔
    k.lower = k ∧ ∃ c, t.get? k = some c ∧ c.hidden = false

theorem Disjoint.resolveAlias?_eq_some_iff (h : Registers past t) (hdisjoint : t.Disjoint)
    (q n : Text) : t.resolveAlias? q = some n ↔ t.commands.contains q.lower = false ∧
      ∃ c, t.get? q = some c ∧ t.commands.find? n = some c := by
  unfold resolveAlias? get?
  constructor
  · intro hn
    have hname := hdisjoint.find?_eq_none hn
    obtain ⟨c, hc⟩ := Option.isSome_iff_exists.mp (h.coherent.owner _ _ hn)
    refine ⟨Option.isSome_eq_false_iff.mpr (Option.isNone_iff_eq_none.mpr hname), c, ?_, hc⟩
    rw [hname, hn]
    exact hc
  · rintro ⟨hname, c, hget, hc⟩
    rw [Option.isNone_iff_eq_none.mp (Option.isSome_eq_false_iff.mp hname)] at hget
    obtain ⟨m, hm, hfind⟩ := Option.bind_eq_some_iff.mp hget
    rw [hm, ← h.normalName_eq hfind, ← h.normalName_eq hc]

theorem Registers.mem_allNames (h : Registers past t) (k : Text) :
    k ∈ t.allNames ↔ k.lower = k ∧ t.has k = true := by
  unfold allNames has
  rw [mem_sorted, List.mem_append, Table.mem_keys_iff, Table.mem_keys_iff, Bool.or_eq_true]
  constructor
  · intro hk
    have hlower : k.lower = k := hk.elim h.lower_of_name h.lower_of_alias
    rw [hlower]
    exact ⟨rfl, hk⟩
  · rintro ⟨hlower, hk⟩
    rwa [hlower] at hk

theorem mem_visibleNames (t : CommandTable β) (k : Text) : k ∈ t.visibleNames ↔
    t.isVisible k = true ∨ ∃ n, t.aliases.find? k = some n ∧ t.isVisible n = true := by
  unfold visibleNames
  rw [mem_sorted, List.mem_append, List.mem_filter, Table.mem_keys_iff, Table.mem_keys_iff,
    Table.find?_filter, Option.isSome_iff_exists (x := Option.filter _ _)]
  refine or_congr (and_iff_right_of_imp fun hvisible => ?_) ?_
  · obtain ⟨c, hc, -⟩ := (Option.any_eq_true _ _).mp hvisible
    rw [hc]
    rfl
  · exact exists_congr fun n => Option.filter_eq_some_iff

theorem isVisible_eq_true_iff (t : CommandTable β) (k : Text) : t.isVisible k = true ↔
    ∃ c, t.commands.find? k = some c ∧ c.hidden = false := by
  unfold isVisible
  rw [Option.any_eq_true]
  exact exists_congr fun c => and_congr_right fun _ => Bool.not_eq_true' c.hidden ▸ Iff.rfl

theorem Disjoint.mem_visibleNames (h : Registers past t) (hdisjoint : t.Disjoint) (k : Text) :
    k ∈ t.visibleNames ↔ k.lower = k ∧ ∃ c, t.get? k = some c ∧ c.hidden = false := by
  rw [CommandTable.mem_visibleNames]
  simp only [isVisible_eq_true_iff]
  unfold get?
  constructor
  · rintro (⟨c, hc, hshown⟩ | ⟨n, hn, c, hc, hshown⟩)
    · have hlower := h.lower_of_name (Option.isSome_of_eq_some hc)
      refine ⟨hlower, c, ?_, hshown⟩
      rw [hlower, hc]
      rfl
    · have hlower := h.lower_of_alias (Option.isSome_of_eq_some hn)
      refine ⟨hlower, c, ?_, hshown⟩
      rw [hlower, hdisjoint.find?_eq_none hn, hn]
      exact hc
  · rintro ⟨hlower, c, hget, hshown⟩
    rw [hlower] at hget
    cases hname : t.commands.find? k with
    | some d =>
      rw [hname] at hget
      cases hget
      exact .inl ⟨c, rfl, hshown⟩
    | none =>
      rw [hname] at hget
      obtain ⟨n, hn, hc⟩ := Option.bind_eq_some_iff.mp hget
      exact .inr ⟨n, hn, c, hc, hshown⟩

/-- However commands have been registered, resolving aliases and listing names agree with looking up
commands exactly if no name of a command is an alias. -/
theorem namesAgree_iff_disjoint (changes : List (Change β)) :
    (ofChanges changes).NamesAgree ↔ (ofChanges changes).Disjoint := by
  have h := registers_ofChanges changes
  constructor
  · intro hagree k hk
    refine Bool.eq_false_iff.mpr fun halias => ?_
    obtain ⟨n, hn⟩ := Option.isSome_iff_exists.mp halias
    have hlower := h.lower_of_name hk
    have hresolve : (ofChanges changes).resolveAlias? k = some n := by
      unfold resolveAlias?
      rw [hlower, hn]
    obtain ⟨hname, -⟩ := (hagree.resolve k n).mp hresolve
    rw [hlower, hk] at hname
    cases hname
  · intro hdisjoint
    have hapart : ∀ a ∈ (ofChanges changes).commands.keys,
        ∀ b ∈ (ofChanges changes).aliases.keys, a ≠ b := by
      rintro a ha b hb rfl
      rw [Table.mem_keys_iff] at ha hb
      exact absurd hb (Bool.eq_false_iff.mp (hdisjoint a ha))
    refine ⟨hdisjoint.resolveAlias?_eq_some_iff h, ?_, h.mem_allNames, ?_,
      hdisjoint.mem_visibleNames h⟩
    · refine pairwise_lt_sorted (List.nodup_append.mpr ⟨Table.nodup_keys _, Table.nodup_keys _, ?_⟩)
      exact hapart
    · refine pairwise_lt_sorted (List.nodup_append.mpr
        ⟨(Table.nodup_keys _).filter _, Table.nodup_keys _, fun a ha b hb => ?_⟩)
      exact hapart a (List.mem_of_mem_filter ha) b ((List.filter_sublist.map _).subset hb)

/-- A command `a` with the alias `b`, and then a command `b`. -/
def sharing : List (Change Unit) :=
  [.register ⟨⟨"a".toList, [], [], .info, ["b".toList], false⟩, ()⟩,
    .register ⟨⟨"b".toList, [], [], .info, [], false⟩, ()⟩]

/-- Once a command has been registered under a name that is an alias, the name is resolved as that
alias. -/
theorem not_namesAgree_of_shared : ¬(ofChanges sharing).NamesAgree := fun h => by
  obtain ⟨hname, -⟩ := (h.resolve "b".toList "a".toList).mp (by decide +kernel)
  exact absurd hname (by decide +kernel)

end CommandTable

end VirtualTerminal
