import VirtualTerminal.Proofs.Quote

/-!
# Texts between quotes

A text is put between quotes with a backslash before each of its own quotes of that kind. Taking it out
drops every backslash before such a quote (`unescape_cons`), and of the backslashes before a quote only the
one that was put there is next to it. So the text comes out as it was, whatever backslashes it has
(`unescape_escapeQuotes`), and no other text than one between quotes is changed (`removeQuotes_eq_self_iff`).
-/

namespace VirtualTerminal

theorem Quote.char_ne_backslash (q : Quote) : q.char ≠ '\\' := by
  cases q <;> decide

namespace Text

/-! ## Dropping backslashes -/

section Unescape

variable {a b c : Char}

theorem unescape_cons_of_ne (hc : c ≠ a) (s : Text) : unescape a b (c :: s) = c :: unescape a b s := by
  cases s with
  | nil => rfl
  | cons d s => rw [unescape, if_neg fun h => hc h.1]

/-- Two different characters make pairs that do not overlap, so `a` is left out exactly where `b` is next. -/
theorem unescape_cons (hab : a ≠ b) (c : Char) (s : Text) :
    unescape a b (c :: s) =
      if c = a ∧ s.head? = some b then unescape a b s else c :: unescape a b s := by
  cases s with
  | nil =>
    rw [if_neg fun h => nomatch h.2]
    rfl
  | cons d s =>
    rw [unescape]
    by_cases hpair : c = a ∧ d = b
    · obtain ⟨rfl, rfl⟩ := hpair
      rw [if_pos ⟨rfl, rfl⟩, if_pos ⟨rfl, rfl⟩, unescape_cons_of_ne hab.symm]
    · rw [if_neg hpair, if_neg fun h => hpair ⟨h.1, Option.some.inj h.2⟩]

theorem length_unescape_le (hab : a ≠ b) (s : Text) : (unescape a b s).length ≤ s.length := by
  induction s with
  | nil => exact Nat.le_refl _
  | cons c s ih =>
    rw [unescape_cons hab]
    split
    · exact Nat.le_succ_of_le ih
    · exact Nat.succ_le_succ ih

end Unescape

/-- An escaped text starts with no quote of that kind. -/
theorem head?_escapeQuotes_ne (q : Quote) (s : Text) : (escapeQuotes q s).head? ≠ some q.char := by
  cases s with
  | nil => exact nofun
  | cons c s =>
    by_cases hc : c = q.char
    · rw [escapeQuotes_cons_of_eq hc]
      exact fun h => q.char_ne_backslash (Option.some.inj h).symm
    · rw [escapeQuotes_cons_of_ne hc]
      exact fun h => hc (Option.some.inj h)

/-- A backslash of the text itself is kept: what it stands before is no quote once the text is escaped. -/
theorem unescape_escapeQuotes (q : Quote) (s : Text) : unescape '\\' q.char (escapeQuotes q s) = s := by
  have hne : '\\' ≠ q.char := q.char_ne_backslash.symm
  induction s with
  | nil => rfl
  | cons c s ih =>
    by_cases hc : c = q.char
    · rw [escapeQuotes_cons_of_eq hc, unescape_cons hne, if_pos ⟨rfl, congrArg some hc⟩,
        unescape_cons_of_ne (hc.trans_ne hne.symm), ih]
    · rw [escapeQuotes_cons_of_ne hc, unescape_cons hne, if_neg fun h => head?_escapeQuotes_ne q s h.2, ih]

/-! ## Removing the quotes -/

variable {q : Quote} {s : Text}

/-- Whether a text starts and ends with quotes of a kind, at two different positions. -/
structure Enclosed (q : Quote) (s : Text) : Prop where
  opened : s.head? = some q.char
  closed : s.getLast? = some q.char
  apart : 1 < s.length

theorem Enclosed.exists_eq (h : Enclosed q s) : ∃ body, s = q.char :: (body ++ [q.char]) := by
  obtain ⟨rest, rfl⟩ := List.head?_eq_some_iff.mp h.opened
  have hrest : rest ≠ [] := List.length_pos_iff.mp (Nat.lt_of_succ_lt_succ h.apart)
  have hlast : rest.getLast? = some q.char := by
    rw [← h.closed, ← List.singleton_append, List.getLast?_append_of_ne_nil _ hrest]
  obtain ⟨body, rfl⟩ := List.getLast?_eq_some_iff.mp hlast
  exact ⟨body, rfl⟩

theorem removeQuotes_enclosed (q : Quote) (body : Text) :
    removeQuotes (q.char :: (body ++ [q.char])) = unescape '\\' q.char body := by
  obtain ⟨d, rest, hrest⟩ := List.exists_cons_of_ne_nil (List.concat_ne_nil q.char body)
  rw [hrest, removeQuotes, Quote.ofChar?_char]
  simp only [← hrest, List.getLast?_concat, List.dropLast_concat, if_true]

theorem removeQuotes_of_not_enclosed (h : ∀ q, ¬ Enclosed q s) : removeQuotes s = s := by
  unfold removeQuotes
  split
  next c d rest =>
    dsimp only
    split
    next q hq =>
      obtain rfl := Quote.eq_char_of_ofChar? hq
      refine if_neg fun hlast => h q ⟨rfl, ?_, by simp⟩
      rwa [List.getLast?_cons_cons]
    next => rfl
  next => rfl

/-- Removing quotes leaves out at least the two around the text. -/
theorem Enclosed.removeQuotes_ne (h : Enclosed q s) : removeQuotes s ≠ s := by
  obtain ⟨body, rfl⟩ := h.exists_eq
  rw [removeQuotes_enclosed]
  intro heq
  have hle := length_unescape_le q.char_ne_backslash.symm body
  rw [heq, List.length_cons, List.length_append] at hle
  omega

theorem removeQuotes_eq_self_iff : removeQuotes s = s ↔ ∀ q, ¬ Enclosed q s :=
  ⟨fun heq _ h => h.removeQuotes_ne heq, removeQuotes_of_not_enclosed⟩

/-- A text that is escaped and put between quotes comes out as it was, and removing quotes changes exactly
the texts that stand between two quotes of one kind. -/
theorem escapeQuotes_undone :
    (∀ q s, removeQuotes (q.char :: escapeQuotes q s ++ [q.char]) = s) ∧
      ∀ s, removeQuotes s = s ↔ ∀ q, ¬ Enclosed q s :=
  ⟨fun q s => (removeQuotes_enclosed q (escapeQuotes q s)).trans (unescape_escapeQuotes q s),
    fun _ => removeQuotes_eq_self_iff⟩

/-- An escaped quote, a quote of the other kind and a backslash at the end. -/
example : escapeQuotes .single "\\'\"\\".toList = "\\\\'\"\\".toList ∧
    removeQuotes "'\\\\'\"\\'".toList = "\\'\"\\".toList := by
  decide

end Text

end VirtualTerminal
