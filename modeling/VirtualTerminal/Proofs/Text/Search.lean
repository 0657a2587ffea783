import VirtualTerminal.Text.Search

/-!
# Laws of searches

The matches of a search stand one after the other inside the text, and there are some exactly when the
text matches. Every search with a matcher obeys these laws, whatever the matcher answers: a match that
would reach beyond the text is cut off at its end, and the next one is looked for where it stops.
-/

namespace VirtualTerminal

/-- Matches that stand one after the other, without overlap, between two positions. -/
def Span.Between (lo hi : Nat) : List Span → Prop
  | [] => lo ≤ hi
  | m :: rest => lo ≤ m.start ∧ m.start ≤ m.stop ∧ Span.Between m.stop hi rest

/-- A searcher whose matches follow each other inside the text, and which tells of any text whether
it has matches. -/
structure Searcher.Lawful (x : Searcher) : Prop where
  between : ∀ s, Span.Between 0 s.length (x.spans s)
  isMatch_iff : ∀ s, x.isMatch s = true ↔ x.spans s ≠ []

namespace Span.Between

variable {lo hi : Nat} {spans : List Span}

theorem le (h : Span.Between lo hi spans) : lo ≤ hi := by
  induction spans generalizing lo with
  | nil => exact h
  | cons m rest ih =>
    obtain ⟨hstart, hm, hrest⟩ := h
    have := ih hrest
    omega

theorem mono {lo' : Nat} (hlo : lo' ≤ lo) (h : Span.Between lo hi spans) :
    Span.Between lo' hi spans := by
  cases spans with
  | nil => exact Nat.le_trans hlo h
  | cons m rest => exact ⟨Nat.le_trans hlo h.1, h.2⟩

/-- Some of the matches stand between the same positions. -/
theorem filter (p : Span → Bool) (h : Span.Between lo hi spans) :
    Span.Between lo hi (spans.filter p) := by
  induction spans generalizing lo with
  | nil => exact h
  | cons m rest ih =>
    obtain ⟨hstart, hm, hrest⟩ := h
    by_cases hp : p m = true
    · rw [List.filter_cons_of_pos hp]
      exact ⟨hstart, hm, ih hrest⟩
    · rw [List.filter_cons_of_neg hp]
      exact (ih hrest).mono (Nat.le_trans hstart hm)

end Span.Between

namespace Matcher

variable (m : Matcher)

/-- What is found in the rest of a text stands behind what is pending of the match before. -/
theorem spansFrom_between (previous : Option Char) (position : Nat) (pending : Option Nat) (s : Text)
    (h : pending.getD 0 ≤ s.length) :
    Span.Between (position + pending.getD 0) (position + s.length)
      (m.spansFrom previous position pending s) := by
  induction s generalizing previous position pending with
  | nil =>
    have hzero : pending.getD 0 = 0 := by simpa using h
    rw [spansFrom, hzero]
    split
    · exact ⟨Nat.le_refl _, Nat.le_refl _, Nat.le_refl _⟩
    · exact Nat.le_refl _
  | cons c rest ih =>
    have hlength : position + (c :: rest).length = position + 1 + rest.length := by
      rw [List.length_cons]
      omega
    have hon : Span.Between position (position + 1 + rest.length)
        (m.spansFrom (some c) (position + 1) none rest) :=
      (ih (some c) (position + 1) none (Nat.zero_le _)).mono (Nat.le_succ _)
    rw [hlength]
    unfold spansFrom
    split
    · next k =>
      -- the character belongs to the match before
      have hk : k ≤ rest.length := Nat.le_of_succ_le_succ h
      rw [Option.getD_some, show position + (k + 1) = position + 1 + k by omega]
      exact ih (some c) (position + 1) (some k) hk
    · next hfree =>
      have hzero : pending.getD 0 = 0 := by
        cases pending with
        | none => rfl
        | some k =>
          cases k with
          | zero => rfl
          | succ k => exact absurd rfl (hfree k)
      rw [hzero]
      split
      · exact hon
      · split
        · exact ⟨Nat.le_refl _, Nat.le_refl _, hon⟩
        · exact hon
      · next n _ =>
        refine ⟨Nat.le_refl _, ?_, ih (some c) (position + 1) (some (min n rest.length))
          (Nat.min_le_right ..)⟩
        show position ≤ position + 1 + min n rest.length
        omega

theorem occursAfter_iff (previous : Option Char) (position : Nat) (s : Text) :
    m.occursAfter previous s = true ↔ m.spansFrom previous position none s ≠ [] := by
  induction s generalizing previous position with
  | nil => cases h : m previous [] <;> simp [occursAfter, spansFrom, h]
  | cons c rest ih =>
    rw [occursAfter, Bool.or_eq_true, ih (some c) (position + 1)]
    cases h : m previous (c :: rest) with
    | none => simp [spansFrom, h]
    | some n => cases n <;> simp [spansFrom, h]

/-- Every search with a matcher obeys the laws of searches. -/
theorem searcher_lawful : m.searcher.Lawful where
  between s := by
    have h := m.spansFrom_between none 0 none s (Nat.zero_le _)
    simp only [Option.getD_none, Nat.zero_add] at h
    exact h
  isMatch_iff s := m.occursAfter_iff none 0 s

end Matcher

end VirtualTerminal
