import Mathlib.Tactic.Common
import VirtualTerminal.Text.Basic

/-!
# Pieces and lines of a text

The pieces of a text are cut at every occurrence of a character (`split_append_cons`), and what holds of a
text can be shown piece by piece (`cut_induction`). A text in which the character does not occur is a part
of the whole exactly if it is a part of a piece (`infix_iff_split`). A text without line feeds that is not
empty is its only line.
-/

namespace VirtualTerminal.Text

theorem split_of_not_mem {c : Char} {s : Text} (h : c ∉ s) : split c s = [s] := by
  induction s with
  | nil => rfl
  | cons d rest ih =>
    obtain ⟨hd, hrest⟩ := not_or.mp (mt List.mem_cons.mpr h)
    rw [split, if_neg (Ne.symm hd), ih hrest]

/-- Every occurrence ends a piece. -/
theorem split_append_cons (c : Char) (s t : Text) :
    split c (s ++ c :: t) = split c s ++ split c t := by
  induction s with
  | nil => simp [split]
  | cons d s ih =>
    rw [List.cons_append, split, split, ih]
    obtain ⟨piece, pieces, hp⟩ := List.exists_cons_of_ne_nil (split_ne_nil c s)
    rw [hp]
    split <;> rfl

/-- The last piece is what follows the last occurrence. -/
theorem split_append {c : Char} {t : Text} (s : Text) (h : c ∉ t) :
    split c (s ++ c :: t) = split c s ++ [t] := by
  rw [split_append_cons, split_of_not_mem h]

/-- What stands in front and holds no occurrence becomes a part of the first piece. -/
theorem split_append_of_not_mem {c : Char} {s : Text} (h : c ∉ s) (t : Text) :
    split c (s ++ t) = (split c t).modifyHead (s ++ ·) := by
  obtain ⟨piece, pieces, hp⟩ := List.exists_cons_of_ne_nil (split_ne_nil c t)
  induction s with
  | nil => simp [hp]
  | cons d s ih =>
    obtain ⟨hd, hs⟩ := not_or.mp (mt List.mem_cons.mpr h)
    rw [List.cons_append, split, if_neg (Ne.symm hd), ih hs, hp]
    rfl

/-- What stands before the first occurrence is the first piece. -/
theorem split_cut {c : Char} {s : Text} (h : c ∉ s) (t : Text) : split c (s ++ c :: t) = s :: split c t := by
  rw [split_append_cons, split_of_not_mem h, List.singleton_append]

/-- A text is without a character, or what follows the first occurrence of the character is a text of
this kind. -/
@[elab_as_elim]
theorem cut_induction {c : Char} {motive : Text → Prop} (whole : ∀ s, c ∉ s → motive s)
    (cut : ∀ s t, c ∉ s → motive t → motive (s ++ c :: t)) (s : Text) : motive s := by
  by_cases h : c ∈ s
  · obtain ⟨first, rest, hs, hfirst⟩ := List.eq_append_cons_of_mem h
    have hshorter : rest.length < s.length := by
      rw [hs, List.length_append, List.length_cons]
      omega
    rw [hs]
    exact cut first rest hfirst (cut_induction whole cut rest)
  · exact whole s h
termination_by s.length

/-! ## Parts of a text -/

variable {c : Char} {u : Text}

/-- A text without the character that starts what is cut there is all in the first part. -/
theorem prefix_append_cons_iff (h : c ∉ u) (s t : Text) : u <+: s ++ c :: t ↔ u <+: s := by
  refine ⟨fun hu => ?_, fun hu => hu.trans (List.prefix_append s _)⟩
  by_cases hlength : u.length ≤ s.length
  · exact List.prefix_of_prefix_length_le hu (List.prefix_append s _) hlength
  · have hcut : s ++ [c] <+: s ++ c :: t := ⟨t, by simp⟩
    have hsc : s ++ [c] <+: u := List.prefix_of_prefix_length_le hcut hu (by simp; omega)
    exact absurd (hsc.subset (by simp)) h

/-- A text without the character is on one side of every occurrence of it. -/
theorem infix_append_cons_iff (h : c ∉ u) (s t : Text) : u <:+: s ++ c :: t ↔ u <:+: s ∨ u <:+: t := by
  induction s with
  | nil =>
    rw [List.nil_append, List.infix_cons_iff, ← List.nil_append (c :: t), prefix_append_cons_iff h,
      List.prefix_nil, List.infix_nil]
  | cons d s ih =>
    rw [List.cons_append, List.infix_cons_iff, ← List.cons_append, prefix_append_cons_iff h, ih,
      List.infix_cons_iff, or_assoc]

theorem infix_iff_split (h : c ∉ u) (s : Text) : u <:+: s ↔ ∃ piece ∈ split c s, u <:+: piece := by
  induction s using cut_induction (c := c) with
  | whole s hs => simp [split_of_not_mem hs]
  | cut s t hs ih => simp [split_cut hs, infix_append_cons_iff h, ih]

/-! ## Lines -/

/-- A text that no line feed cuts is a line. -/
theorem lines_eq_singleton {s : Text} (hne : s ≠ []) (h : '\n' ∉ s) : lines s = [s] := by
  simp [lines, split_of_not_mem h, hne]

end VirtualTerminal.Text
