import VirtualTerminal.Proofs.Completion
import VirtualTerminal.Proofs.Text.Lowercase

/-!
# Completions of names

What a text may be completed to depends on the set of names only: they are listed without repetition, and
the order of the listing leaves no choice (`complete_exact`).
-/

namespace VirtualTerminal.Completion

/-! ## Distinct names -/

theorem mem_distinct {names : List Text} {n : Text} : n ∈ distinct names ↔ n ∈ names := by
  unfold distinct Table.ofList
  rw [Table.mem_keys_iff, List.foldl_map, Table.find?_foldl_insert]
  by_cases h : n ∈ names <;> simp [h]

theorem pairwise_distinct (names : List Text) : (distinct names).Pairwise (· < ·) :=
  List.pairwise_map.mpr (Table.ofList (names.map (·, ()))).increasing

/-- Names that are the same but for order and repetition are the same without repetition. -/
theorem distinct_congr {names names' : List Text} (h : ∀ n, n ∈ names ↔ n ∈ names') :
    distinct names = distinct names' := by
  have hnodup : ∀ names : List Text, (distinct names).Nodup := fun _ => Table.nodup_keys _
  have hperm : (distinct names).Perm (distinct names') :=
    (List.perm_ext_iff_of_nodup (hnodup _) (hnodup _)).mpr fun n => by
      rw [mem_distinct, mem_distinct, h]
  exact hperm.eq_of_pairwise (fun a b _ _ hab hba => absurd (List.lt_trans hab hba) (List.lt_irrefl a))
    (pairwise_distinct names) (pairwise_distinct names')

/-! ## The order of the listing -/

theorem lt_or_eq_of_not_lt {a b : Text} (h : ¬ b < a) : a < b ∨ a = b :=
  List.le_iff_lt_or_eq.mp (List.not_lt.mp h)

theorem precedes_iff {a b : Nat × Text} :
    precedes a b = true ↔ b.1 < a.1 ∨ a.1 = b.1 ∧ ¬ b.2 < a.2 := by
  unfold precedes
  simp

theorem precedes_trans (a b c : Nat × Text) (hab : precedes a b = true) (hbc : precedes b c = true) :
    precedes a c = true := by
  rw [precedes_iff] at hab hbc ⊢
  rcases hab with hab | ⟨hab, hnot⟩
  · exact .inl (by omega)
  · rcases hbc with hbc | ⟨hbc, hnot'⟩
    · exact .inl (by omega)
    · refine .inr ⟨hab.trans hbc, fun hca => ?_⟩
      rcases lt_or_eq_of_not_lt hnot with hlt | heq
      · exact hnot' (List.lt_trans hca hlt)
      · exact hnot' (heq ▸ hca)

theorem precedes_total (a b : Nat × Text) : (precedes a b || precedes b a) = true := by
  rw [Bool.or_eq_true, precedes_iff, precedes_iff]
  rcases Nat.lt_trichotomy a.1 b.1 with h | h | h
  · exact .inr (.inl h)
  · by_cases hlt : b.2 < a.2
    · exact .inr (.inr ⟨h.symm, fun hgt => List.lt_irrefl b.2 (List.lt_trans hlt hgt)⟩)
    · exact .inl (.inr ⟨h, hlt⟩)
  · exact .inl (.inl h)

/-- Whether a name is listed before another one, given what was typed: it has the higher score, or the same
score and is the smaller one. -/
def Before (typed a b : Text) : Prop :=
  score b typed < score a typed ∨ score a typed = score b typed ∧ a < b

theorem Before.ne {typed a b : Text} (h : Before typed a b) : a ≠ b := by
  rintro rfl
  rcases h with h | ⟨-, h⟩
  · exact Nat.lt_irrefl _ h
  · exact List.lt_irrefl a h

theorem score_nothing (candidate : Text) : score candidate [] = 0 := by
  unfold score
  exact if_pos rfl

/-- The names with their scores. -/
def scored (typed : Text) (names : List Text) : List (Nat × Text) :=
  ((distinct names).map fun n => (score n typed, n)).filter (0 < ·.1)

theorem complete_of_typed {typed : Text} (h : typed ≠ []) (names : List Text) :
    complete typed names = ((scored typed names).mergeSort precedes).map (·.2) :=
  if_neg h

theorem mem_scored {typed : Text} {names : List Text} {entry : Nat × Text} :
    entry ∈ scored typed names ↔
      entry.2 ∈ names ∧ entry.1 = score entry.2 typed ∧ 0 < entry.1 := by
  obtain ⟨n, name⟩ := entry
  unfold scored
  rw [List.mem_filter, List.mem_map, decide_eq_true_iff]
  constructor
  · rintro ⟨⟨_, hmem, heq⟩, hpos⟩
    cases heq
    exact ⟨mem_distinct.mp hmem, rfl, hpos⟩
  · rintro ⟨hmem, heq, hpos⟩
    exact ⟨⟨name, mem_distinct.mpr hmem, Prod.ext heq.symm rfl⟩, hpos⟩

/-- No two entries have the same name. -/
theorem pairwise_scored (typed : Text) (names : List Text) :
    (scored typed names).Pairwise (fun a b => a.2 ≠ b.2) := by
  have hne : (distinct names).Pairwise (· ≠ ·) := Table.nodup_keys _
  have hpairs : ((distinct names).map fun n => (score n typed, n)).Pairwise (fun a b => a.2 ≠ b.2) :=
    List.pairwise_map.mpr hne
  exact hpairs.filter _

/-- Everything is listed in the order of `Before`. -/
theorem pairwise_complete (typed : Text) (names : List Text) :
    (complete typed names).Pairwise (Before typed) := by
  by_cases htyped : typed = []
  · subst htyped
    exact (pairwise_distinct names).imp fun h =>
      .inr ⟨(score_nothing _).trans (score_nothing _).symm, h⟩
  rw [complete_of_typed htyped, List.pairwise_map]
  have hperm := List.mergeSort_perm (scored typed names) precedes
  have hnames : ((scored typed names).mergeSort precedes).Pairwise (fun a b => a.2 ≠ b.2) :=
    (hperm.pairwise_iff fun h => h.symm).mpr (pairwise_scored typed names)
  have hsorted := List.pairwise_mergeSort precedes_trans precedes_total (scored typed names)
  refine (hsorted.and hnames).imp_of_mem fun {a b} ha hb h => ?_
  obtain ⟨-, hscore, -⟩ := mem_scored.mp (List.mem_mergeSort.mp ha)
  obtain ⟨-, hscore', -⟩ := mem_scored.mp (List.mem_mergeSort.mp hb)
  unfold Before
  rw [← hscore, ← hscore']
  -- the order of the sorting is not strict, but no two names are the same
  refine (precedes_iff.mp h.1).imp_right fun heq => ⟨heq.1, ?_⟩
  exact (lt_or_eq_of_not_lt heq.2).resolve_right h.2

theorem mem_complete {typed : Text} {names : List Text} {n : Text} :
    n ∈ complete typed names ↔ n ∈ names ∧ typed.lower.Sublist n.lower := by
  by_cases htyped : typed = []
  · subst htyped
    exact mem_distinct.trans (and_iff_left (List.nil_sublist _)).symm
  rw [complete_of_typed htyped, List.mem_map]
  have hlower : typed.lower ≠ [] := mt Text.lower_eq_nil_iff.mp htyped
  constructor
  · rintro ⟨entry, hentry, rfl⟩
    obtain ⟨hmem, hscore, hpos⟩ := mem_scored.mp (List.mem_mergeSort.mp hentry)
    exact ⟨hmem, (score_pos_iff.mp (hscore ▸ hpos)).2⟩
  · rintro ⟨hmem, hsub⟩
    exact ⟨(score n typed, n),
      List.mem_mergeSort.mpr (mem_scored.mpr ⟨hmem, rfl, score_pos_iff.mpr ⟨hlower, hsub⟩⟩), rfl⟩

/-- The completions of what was typed are the names in which its characters occur in order, both in lower
case, which are all names if nothing was typed. They are listed without repetition, the ones with a higher
score first and those with the same score in increasing order, and they are the same list for all names
that differ only in order and repetition. -/
theorem complete_exact (typed : Text) (names : List Text) :
    (complete typed names).Nodup ∧
      (∀ n, n ∈ complete typed names ↔ n ∈ names ∧ typed.lower.Sublist n.lower) ∧
      (∀ n, n ∈ complete [] names ↔ n ∈ names) ∧
      (complete typed names).Pairwise (Before typed) ∧
      ∀ names', (∀ n, n ∈ names' ↔ n ∈ names) → complete typed names' = complete typed names := by
  refine ⟨(pairwise_complete typed names).imp Before.ne, fun n => mem_complete, fun n => mem_distinct,
    pairwise_complete typed names, fun names' h => ?_⟩
  unfold complete
  rw [distinct_congr h]

/-- Names in another order, one of them twice, complete an upper case letter alike. -/
theorem complete_exact_of_repeated :
    let names : List Text := [['l', 's'], ['c', 'l', 'e', 'a', 'r'], ['h', 'e', 'l', 'p']]
    let repeated : List Text := [['h', 'e', 'l', 'p'], ['l', 's'], ['c', 'l', 'e', 'a', 'r'], ['l', 's']]
    (∀ n, n ∈ repeated ↔ n ∈ names) ∧ complete ['L'] repeated = complete ['L'] names := by
  intro names repeated
  have hmem : ∀ n, n ∈ repeated ↔ n ∈ names := by
    intro n
    simp only [names, repeated, List.mem_cons, List.not_mem_nil, or_false]
    tauto
  exact ⟨hmem, (complete_exact ['L'] names).2.2.2.2 repeated hmem⟩

end VirtualTerminal.Completion
