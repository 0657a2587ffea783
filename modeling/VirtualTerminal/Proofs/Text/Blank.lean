import Mathlib.Data.List.DropRight
import Mathlib.Data.List.TakeWhile
import Mathlib.Tactic.Common
import VirtualTerminal.Text.Blank

/-!
# Trimming

A trimmed text is what stands between the blanks around a text (`exists_eq_trim`), and blanks at
either end do not change it (`trim_append_blanks`, `trim_blanks_append`).
-/

namespace VirtualTerminal.Text

/-- Whether a text holds blanks only. -/
def AllBlank (s : Text) : Prop :=
  ∀ c ∈ s, isBlank c = true

instance (s : Text) : Decidable (AllBlank s) :=
  decidable_of_iff (s.all isBlank = true) List.all_eq_true

theorem allBlank_nil : AllBlank [] := by
  intro c hc
  simp at hc

theorem allBlank_cons {c : Char} {s : Text} : AllBlank (c :: s) ↔ isBlank c = true ∧ AllBlank s := by
  simp [AllBlank]

theorem allBlank_takeWhile (s : Text) : AllBlank (s.takeWhile isBlank) :=
  fun _ hc => (List.all_eq_true.mp List.all_takeWhile) _ hc

/-! ## Leading blanks -/

theorem trimStart_append_of_allBlank {w : Text} (hw : AllBlank w) (s : Text) :
    trimStart (w ++ s) = trimStart s := by
  unfold trimStart
  exact List.dropWhile_append_of_pos hw

theorem trimStart_eq_nil_iff (s : Text) : trimStart s = [] ↔ AllBlank s := by
  unfold trimStart AllBlank
  exact List.dropWhile_eq_nil_iff

/-! ## Trailing blanks -/

theorem trimEnd_append_of_allBlank {w : Text} (hw : AllBlank w) (s : Text) :
    trimEnd (s ++ w) = trimEnd s := by
  unfold trimEnd
  rw [List.reverse_append, List.dropWhile_append_of_pos fun c hc => hw c (List.mem_reverse.mp hc)]

/-- A text ends in the blanks that trimming its end takes away. -/
theorem exists_eq_trimEnd (s : Text) : ∃ w, AllBlank w ∧ s = trimEnd s ++ w := by
  refine ⟨(s.reverse.takeWhile isBlank).reverse, ?_, ?_⟩
  · intro c hc
    exact allBlank_takeWhile _ c (List.mem_reverse.mp hc)
  · unfold trimEnd
    rw [← List.reverse_append, List.takeWhile_append_dropWhile, List.reverse_reverse]

theorem exists_eq_trimStart (s : Text) : ∃ w, AllBlank w ∧ s = w ++ trimStart s :=
  ⟨s.takeWhile isBlank, allBlank_takeWhile s, List.takeWhile_append_dropWhile.symm⟩

/-! ## Both ends -/

/-- A text is its trimmed form between blanks. -/
theorem exists_eq_trim (s : Text) : ∃ w v, AllBlank w ∧ AllBlank v ∧ s = w ++ trim s ++ v := by
  obtain ⟨w, hw, hs⟩ := exists_eq_trimStart s
  obtain ⟨v, hv, ht⟩ := exists_eq_trimEnd (trimStart s)
  refine ⟨w, v, hw, hv, ?_⟩
  rw [List.append_assoc, show trim s = trimEnd (trimStart s) from rfl, ← ht]
  exact hs

theorem trim_blanks_append {w : Text} (hw : AllBlank w) (s : Text) : trim (w ++ s) = trim s := by
  unfold trim
  rw [trimStart_append_of_allBlank hw]

theorem trim_append_blanks {w : Text} (hw : AllBlank w) (s : Text) : trim (s ++ w) = trim s := by
  unfold trim
  by_cases hs : AllBlank s
  · rw [trimStart_append_of_allBlank hs, (trimStart_eq_nil_iff w).mpr hw,
      (trimStart_eq_nil_iff s).mpr hs]
  · have hne : (s.dropWhile isBlank).isEmpty = false := by
      rw [List.isEmpty_eq_false_iff]
      exact fun h => hs ((trimStart_eq_nil_iff s).mp h)
    rw [show trimStart (s ++ w) = trimStart s ++ w by
      unfold trimStart; rw [List.dropWhile_append, hne]; rfl]
    exact trimEnd_append_of_allBlank hw _

theorem trim_eq_nil_iff {s : Text} : trim s = [] ↔ AllBlank s := by
  constructor
  · intro h
    obtain ⟨w, v, hw, hv, hs⟩ := exists_eq_trim s
    rw [h, List.append_nil] at hs
    rw [hs]
    exact fun c hc => (List.mem_append.mp hc).elim (hw c) (hv c)
  · intro h
    unfold trim
    rw [(trimStart_eq_nil_iff s).mpr h]
    rfl

/-! ## Trimmed texts -/

/-- A trimmed text does not start with a blank. -/
theorem isBlank_of_trim_eq_cons {s rest : Text} {c : Char} (h : trim s = c :: rest) :
    isBlank c = false := by
  obtain ⟨w, -, hw⟩ := exists_eq_trimEnd (trimStart s)
  rw [show trimEnd (trimStart s) = c :: rest from h] at hw
  have hhead := List.head?_dropWhile_not isBlank s
  rwa [show s.dropWhile isBlank = c :: rest ++ w from hw] at hhead

theorem trimStart_cons_of_not_blank {c : Char} (h : isBlank c = false) (s : Text) :
    trimStart (c :: s) = c :: s :=
  List.dropWhile_cons_of_neg (by simp [h])

theorem trimStart_trim (s : Text) : trimStart (trim s) = trim s := by
  cases h : trim s with
  | nil => rfl
  | cons c rest => exact trimStart_cons_of_not_blank (isBlank_of_trim_eq_cons h) rest

theorem trimEnd_concat_of_not_blank {c : Char} (h : isBlank c = false) (s : Text) :
    trimEnd (s ++ [c]) = s ++ [c] := by
  unfold trimEnd
  rw [List.reverse_append, List.reverse_singleton, List.singleton_append,
    List.dropWhile_cons_of_neg (by simp [h]), List.reverse_cons, List.reverse_reverse]

theorem trim_trim (s : Text) : trim (trim s) = trim s := by
  cases h : trim s with
  | nil => rfl
  | cons c rest =>
    have hend : trimEnd (c :: rest) = c :: rest := by
      rw [← h]
      unfold trim trimEnd
      rw [List.reverse_reverse, List.dropWhile_idempotent]
    unfold trim
    rw [trimStart_cons_of_not_blank (isBlank_of_trim_eq_cons h), hend]

/-- A text is trimmed if it has no blank at either end. -/
theorem trim_eq_self_iff {s : Text} : trim s = s ↔
    (∀ c, s.head? = some c → isBlank c = false) ∧ ∀ c, s.getLast? = some c → isBlank c = false := by
  constructor
  · intro h
    refine ⟨fun c hc => ?_, fun c hc => ?_⟩
    · obtain ⟨rest, rfl⟩ := List.head?_eq_some_iff.mp hc
      exact isBlank_of_trim_eq_cons h
    · have hlast := List.head?_dropWhile_not isBlank (trimStart s).reverse
      have heq : ((trimStart s).reverse.dropWhile isBlank).head? = some c := by
        rw [← List.getLast?_reverse, ← hc]
        exact congrArg List.getLast? h
      rwa [heq] at hlast
  · rintro ⟨hhead, hlast⟩
    rcases List.eq_nil_or_concat' s with rfl | ⟨rest, c, rfl⟩
    · rfl
    · have hc : isBlank c = false := hlast c (by simp)
      have hstart : trimStart (rest ++ [c]) = rest ++ [c] := by
        cases rest with
        | nil => exact trimStart_cons_of_not_blank hc []
        | cons d rest => exact trimStart_cons_of_not_blank (hhead d rfl) _
      unfold trim
      rw [hstart, trimEnd_concat_of_not_blank hc]

/-! ## First words -/

/-- Blanks after a text belong to what follows its first word. -/
theorem firstWord_append_blanks {w : Text} (hw : AllBlank w) (s : Text) :
    firstWord (s ++ w) = ((firstWord s).1, (firstWord s).2 ++ w) := by
  induction s with
  | nil =>
    cases w with
    | nil => rfl
    | cons c w => simp [firstWord, (allBlank_cons.mp hw).1]
  | cons c s ih =>
    obtain ⟨hword, htail⟩ := Prod.mk.inj ih
    cases hc : isBlank c with
    | true => simp [firstWord, hc]
    | false => simpa [firstWord, hc] using ⟨hword, htail⟩

/-- The first word of a text is that of its trimmed form. -/
theorem exists_firstWord_trimStart (s : Text) : ∃ w, AllBlank w ∧
    firstWord (trimStart s) = ((firstWord (trim s)).1, (firstWord (trim s)).2 ++ w) := by
  obtain ⟨w, hw, hs⟩ := exists_eq_trimEnd (trimStart s)
  refine ⟨w, hw, ?_⟩
  conv_lhs => rw [hs]
  exact firstWord_append_blanks hw (trim s)

/-! ## Last words -/

theorem splitLastBlank_eq_none {s : Text} (h : ∀ c ∈ s, isBlank c = false) : splitLastBlank s = none := by
  induction s with
  | nil => rfl
  | cons c rest ih =>
    obtain ⟨hc, hrest⟩ := List.forall_mem_cons.mp h
    simp [splitLastBlank, ih hrest, hc]

/-- The last blank of a text is the one that no other follows. -/
theorem splitLastBlank_append {b : Char} (hb : isBlank b = true) {word : Text}
    (hword : ∀ c ∈ word, isBlank c = false) (before : Text) :
    splitLastBlank (before ++ b :: word) = some (before, word) := by
  induction before with
  | nil => simp [splitLastBlank, splitLastBlank_eq_none hword, hb]
  | cons c before ih => simp [splitLastBlank, ih]

/-! ## Words -/

theorem words_cons_of_blank {c : Char} (hc : isBlank c = true) (rest : Text) :
    words (c :: rest) = words rest :=
  (words.eq_def (c :: rest)).trans (if_pos hc)

theorem words_ne_nil {c : Char} (hc : isBlank c = false) (rest : Text) : words (c :: rest) ≠ [] := by
  unfold words
  rw [if_neg (by simp [hc])]
  split
  · exact List.cons_ne_nil _ _
  · split
    · exact List.cons_ne_nil _ _
    · split <;> exact List.cons_ne_nil _ _

/-- A character that is no blank starts a word, or goes to the word that follows it. -/
theorem words_cons {c : Char} (hc : isBlank c = false) (rest : Text) :
    words (c :: rest) =
      if rest.head?.any (!isBlank ·) then (words rest).modifyHead (c :: ·) else [c] :: words rest := by
  have hdef := (words.eq_def (c :: rest)).trans (if_neg (by simp [hc]))
  cases rest with
  | nil => exact hdef
  | cons d rest =>
    rw [hdef]
    cases hd : isBlank d with
    | true => simp [hd]
    | false =>
      obtain ⟨w, ws, hw⟩ := List.exists_cons_of_ne_nil (words_ne_nil hd rest)
      simp [hd, hw]

theorem not_blank_of_mem_words {s w : Text} (h : w ∈ words s) : ∀ c ∈ w, isBlank c = false := by
  induction s generalizing w with
  | nil => cases h
  | cons d rest ih =>
    cases hd : isBlank d with
    | true =>
      rw [words_cons_of_blank hd] at h
      exact ih h
    | false =>
      rw [words_cons hd] at h
      split at h
      · cases hrest : words rest with
        | nil =>
          rw [hrest] at h
          cases h
        | cons v vs =>
          rw [hrest] at h ih
          rcases List.mem_cons.mp h with rfl | h
          · exact List.forall_mem_cons.mpr ⟨hd, ih List.mem_cons_self⟩
          · exact ih (List.mem_cons_of_mem _ h)
      · rcases List.mem_cons.mp h with rfl | h
        · exact List.forall_mem_singleton.mpr hd
        · exact ih h

end VirtualTerminal.Text
