import Mathlib.Tactic.Common
import VirtualTerminal.Proofs.Token

/-!
# Tokens as runs of a line

A character separates tokens if it is a blank and the line is outside of all spans after it. Each
maximal run of other characters is one token, from which two kinds of characters are left out: quotes
that open or close a span, and backslashes right before a quote (`tokens_eq_kept_runs`).
-/

namespace VirtualTerminal.Text

/-! ## Runs of positions -/

section Runs

variable {separates : Nat → Bool} {length i j : Nat}

/-- Whether the positions from `i` to before `j` are a maximal run of positions below `length` that do
not separate. -/
structure IsRun (separates : Nat → Bool) (length i j : Nat) : Prop where
  lt : i < j
  le_length : j ≤ length
  unbroken : ∀ k, i ≤ k → k < j → separates k = false
  start : ∀ k, k + 1 = i → separates k = true
  stop : j < length → separates j = true

/-- Runs that overlap are one. -/
theorem IsRun.eq_of_overlap {i' j' : Nat} (h : IsRun separates length i j)
    (h' : IsRun separates length i' j') (hij : i < j') (hij' : i' < j) : i = i' ∧ j = j' := by
  have hstart : ∀ {a b c d : Nat}, IsRun separates length a b → IsRun separates length c d →
      c < b → ¬ a < c := by
    intro a b c d hab hcd hcb hac
    have hbroken := hcd.start (c - 1) (by omega)
    rw [hab.unbroken (c - 1) (by omega) (by omega)] at hbroken
    cases hbroken
  have hstop : ∀ {a b c d : Nat}, IsRun separates length a b → IsRun separates length c d →
      a ≤ d → ¬ d < b := by
    intro a b c d hab hcd had hdb
    have hbroken := hcd.stop (Nat.lt_of_lt_of_le hdb hab.le_length)
    rw [hab.unbroken d had hdb] at hbroken
    cases hbroken
  have hi := hstart h h' hij'
  have hi' := hstart h' h hij
  have hj := hstop h h' (by omega)
  have hj' := hstop h' h (by omega)
  omega

/-- The runs among the `n` positions from `p` on. A run that is open at `p` has begun at `start`. -/
def runsFrom (separates : Nat → Bool) (start : Option Nat) (p : Nat) : (n : Nat) → List (Nat × Nat)
  | 0 => (start.map (·, p)).toList
  | n + 1 =>
    if separates p then (start.map (·, p)).toList ++ runsFrom separates none (p + 1) n
    else runsFrom separates (some (start.getD p)) (p + 1) n

/-- Whether the run that is open at a position has begun at `start`. -/
structure IsOpen (separates : Nat → Bool) (start : Option Nat) (p : Nat) : Prop where
  lt : ∀ i ∈ start, i < p
  unbroken : ∀ k, start.getD p ≤ k → k < p → separates k = false
  start : ∀ k, k + 1 = start.getD p → separates k = true

variable {start : Option Nat} {p n : Nat}

theorem isOpen_zero : IsOpen separates none 0 :=
  ⟨nofun, fun _ _ h => absurd h (Nat.not_lt_zero _), nofun⟩

theorem isOpen_none_succ (hp : separates p = true) : IsOpen separates none (p + 1) := by
  refine ⟨nofun, fun k hle hlt => absurd hlt (Nat.not_lt.mpr hle), fun k hk => ?_⟩
  obtain rfl : k = p := Nat.succ.inj hk
  exact hp

theorem IsOpen.getD_le (h : IsOpen separates start p) : start.getD p ≤ p := by
  cases start with
  | none => exact Nat.le_refl p
  | some i => exact Nat.le_of_lt (h.lt i rfl)

/-- A position that does not separate leaves a run open. -/
theorem IsOpen.next (h : IsOpen separates start p) (hp : separates p = false) :
    IsOpen separates (some (start.getD p)) (p + 1) := by
  refine ⟨fun i hi => ?_, fun k hle hlt => ?_, h.start⟩
  · obtain rfl := Option.some.inj hi
    exact Nat.lt_succ_of_le h.getD_le
  · rcases Nat.lt_succ_iff_lt_or_eq.mp hlt with hlt | rfl
    · exact h.unbroken k hle hlt
    · exact hp

/-- A run ends at a position that separates, and at the end. -/
theorem IsOpen.isRun (h : IsOpen separates (some i) p) (hle : p ≤ length)
    (hp : p < length → separates p = true) : IsRun separates length i p :=
  ⟨h.lt i rfl, hle, h.unbroken, h.start, hp⟩

/-- `runsFrom` finds the runs, and only these. -/
theorem mem_runsFrom (hopen : IsOpen separates start p) (hlength : p + n = length) :
    (i, j) ∈ runsFrom separates start p n ↔ IsRun separates length i j ∧ start.getD p ≤ i := by
  induction n generalizing start p with
  | zero =>
    subst hlength
    cases start with
    | none =>
      refine iff_of_false List.not_mem_nil ?_
      rintro ⟨hrun, hle⟩
      have hlt := hrun.lt
      have hlength := hrun.le_length
      simp only [Option.getD_none] at hle
      omega
    | some i₀ =>
      have hrun₀ : IsRun separates p i₀ p :=
        hopen.isRun (Nat.le_refl p) fun h => absurd h (Nat.lt_irrefl p)
      show (i, j) ∈ [(i₀, p)] ↔ IsRun separates p i j ∧ i₀ ≤ i
      rw [List.mem_singleton, Prod.mk.injEq]
      constructor
      · rintro ⟨rfl, rfl⟩
        exact ⟨hrun₀, Nat.le_refl _⟩
      · rintro ⟨hrun, hle⟩
        have hlt := hrun.lt
        have hlength := hrun.le_length
        exact hrun.eq_of_overlap hrun₀ (by omega) (by omega)
  | succ n ih =>
    rw [runsFrom]
    by_cases hp : separates p = true
    · rw [if_pos hp, List.mem_append, ih (isOpen_none_succ hp) (by omega)]
      have hnot : ∀ {i j}, IsRun separates length i j → i ≠ p := by
        rintro i j hrun rfl
        rw [hrun.unbroken i (Nat.le_refl i) hrun.lt] at hp
        cases hp
      cases start with
      | none =>
        simp only [Option.map_none, Option.toList_none, List.not_mem_nil, false_or,
          Option.getD_none]
        refine and_congr_right fun hrun => ?_
        have hne := hnot hrun
        omega
      | some i₀ =>
        have hrun₀ : IsRun separates length i₀ p := hopen.isRun (by omega) fun _ => hp
        have hlt₀ := hrun₀.lt
        show (i, j) ∈ [(i₀, p)] ∨ IsRun separates length i j ∧ p + 1 ≤ i ↔
          IsRun separates length i j ∧ i₀ ≤ i
        rw [List.mem_singleton, Prod.mk.injEq]
        constructor
        · rintro (⟨rfl, rfl⟩ | ⟨hrun, hle⟩)
          · exact ⟨hrun₀, Nat.le_refl _⟩
          · exact ⟨hrun, by omega⟩
        · rintro ⟨hrun, hle⟩
          have hlt := hrun.lt
          have hne := hnot hrun
          by_cases hip : i < p
          · exact .inl (hrun.eq_of_overlap hrun₀ hip (by omega))
          · exact .inr ⟨hrun, by omega⟩
    · rw [if_neg hp, ih (hopen.next (Bool.eq_false_iff.mpr hp)) (by omega)]
      rfl

theorem pairwise_runsFrom (hopen : IsOpen separates start p) :
    (runsFrom separates start p n).Pairwise fun a b => a.2 < b.1 := by
  induction n generalizing start p with
  | zero => cases start <;> simp [runsFrom]
  | succ n ih =>
    rw [runsFrom]
    by_cases hp : separates p = true
    · rw [if_pos hp]
      have hnone := isOpen_none_succ hp
      refine List.pairwise_append.mpr ⟨by cases start <;> simp, ih hnone, ?_⟩
      rintro a ha ⟨i, j⟩ hb
      obtain ⟨i₀, -, rfl⟩ := Option.map_eq_some_iff.mp (Option.mem_toList.mp ha)
      exact ((mem_runsFrom hnone rfl).mp hb).2
    · rw [if_neg hp]
      exact ih (hopen.next (Bool.eq_false_iff.mpr hp))

end Runs

/-! ## Characters of a line -/

/-- The reading of a text before the character at a position. -/
def readingAt (s : Text) (p : Nat) : Reading :=
  Reading.start.through (s.take p)

/-- Whether the character at a position separates tokens: it is a blank, and the text is outside of all
spans after it. -/
def separates (s : Text) (p : Nat) : Bool :=
  s[p]?.any fun c => isBlank c && (s.readingAt (p + 1)).inside.isNone

/-- Whether the character at a position is left out of its token: it is a quote after which the text
is inside of another span than before it, or a backslash right before a quote. -/
def leftOut (s : Text) (p : Nat) : Bool :=
  s[p]?.any fun c =>
    (Quote.isQuote c && (s.readingAt (p + 1)).inside ≠ (s.readingAt p).inside) ||
      (c = '\\' && s[p + 1]?.any Quote.isQuote)

/-- The characters from one position to before another one that are not left out. -/
def keptBetween (s : Text) (i j : Nat) : Text :=
  ((List.range' i (j - i)).filter (!s.leftOut ·)).filterMap (s[·]?)

/-- The maximal runs of characters that do not separate, as positions from the first character of a run
to before the one after it. -/
def runs (s : Text) : List (Nat × Nat) :=
  runsFrom s.separates none 0 s.length

section Characters

variable {s : Text} {p : Nat} {c : Char}

theorem readingAt_succ (hc : s[p]? = some c) : s.readingAt (p + 1) = (s.readingAt p).after c := by
  unfold readingAt
  rw [List.take_add_one, hc, Reading.through_append]
  rfl

theorem separates_eq (hc : s[p]? = some c) :
    s.separates p = (isBlank c && ((s.readingAt p).insideAfter c).isNone) := by
  unfold separates
  rw [hc, readingAt_succ hc]
  rfl

theorem isQuote_of_toggles {r : Reading} (h : r.toggles c = true) : Quote.isQuote c = true := by
  unfold Quote.isQuote
  cases hquote : Quote.ofChar? c with
  | some q => rfl
  | none =>
    have hsame : r.insideAfter c = r.inside := by
      unfold Reading.insideAfter
      rw [hquote]
    rw [Reading.toggles_of_insideAfter hsame] at h
    cases h

theorem leftOut_eq (hc : s[p]? = some c) : s.leftOut p =
    ((s.readingAt p).toggles c || (c = '\\' && (s.drop (p + 1)).head?.any Quote.isQuote)) := by
  have htoggles : (Quote.isQuote c && (s.readingAt p).toggles c) = (s.readingAt p).toggles c := by
    cases h : (s.readingAt p).toggles c with
    | false => exact Bool.and_false _
    | true => rw [isQuote_of_toggles h, Bool.true_and]
  unfold leftOut
  rw [hc, readingAt_succ hc, List.head?_drop, ← htoggles]
  rfl

theorem keptBetween_self (s : Text) (p : Nat) : s.keptBetween p p = [] := by
  unfold keptBetween
  rw [Nat.sub_self]
  rfl

theorem keptBetween_succ {i : Nat} (hi : i ≤ p) (hc : s[p]? = some c) :
    s.keptBetween i (p + 1) = s.keptBetween i p ++ if s.leftOut p then [] else [c] := by
  have hrange : List.range' i (p + 1 - i) = List.range' i (p - i) ++ [p] := by
    rw [Nat.succ_sub hi, List.range'_1_concat, Nat.add_sub_cancel' hi]
  unfold keptBetween
  rw [hrange, List.filter_append, List.filterMap_append]
  cases h : s.leftOut p with
  | false => simp [h, hc]
  | true => simp [h]

/-- What has been kept of an open run. -/
theorem getD_map_keptBetween (s : Text) (start : Option Nat) (p : Nat) :
    (start.map (s.keptBetween · p)).getD [] = s.keptBetween (start.getD p) p := by
  cases start with
  | none => exact (keptBetween_self s p).symm
  | some i => rfl

end Characters

/-! ## Tokens -/

/-- A character ends a token, or it belongs to one, in which it may be left out. -/
theorem tokensFrom_cons (r : Reading) (current : Option Text) (c : Char) (rest : Text) :
    tokensFrom r current (c :: rest) =
      if isBlank c && (r.insideAfter c).isNone then
        current.toList ++ tokensFrom (r.after c) none rest
      else tokensFrom (r.after c) (some (current.getD [] ++
        if r.toggles c || (c = '\\' && rest.head?.any Quote.isQuote) then [] else [c])) rest := by
  rw [tokensFrom]
  by_cases htoggles : r.toggles c = true
  · have hblank : isBlank c = false := by
      refine Bool.eq_false_iff.mpr fun h => ?_
      have hquote := isQuote_of_neutral (Reading.neutral_of_blank h)
      rw [isQuote_of_toggles htoggles] at hquote
      cases hquote
    simp [htoggles, hblank]
  · rw [if_neg htoggles, Bool.eq_false_iff.mpr htoggles, Bool.false_or]
    by_cases hblank : (isBlank c && (r.insideAfter c).isNone) = true
    · rw [if_pos hblank, if_pos hblank]
    · rw [if_neg hblank, if_neg hblank]
      split
      · rw [List.append_nil]
      · rfl

/-- The tokens of what follows a position are what is kept of the runs that end there, of which one may
be open at the position. -/
theorem tokensFrom_drop {s : Text} {p n : Nat} (hlength : p + n = s.length) (start : Option Nat)
    (hstart : ∀ i ∈ start, i ≤ p) :
    tokensFrom (s.readingAt p) (start.map (s.keptBetween · p)) (s.drop p) =
      (runsFrom s.separates start p n).map fun r => s.keptBetween r.1 r.2 := by
  induction n generalizing p start with
  | zero =>
    have hend : s.length ≤ p := Nat.le_of_eq hlength.symm
    rw [List.drop_eq_nil_of_le hend]
    cases start <;> rfl
  | succ n ih =>
    have hp : p < s.length := by omega
    have hc : s[p]? = some s[p] := List.getElem?_eq_getElem hp
    have hrest : p + 1 + n = s.length := by omega
    have hfirst : start.getD p ≤ p := by
      cases start with
      | none => exact Nat.le_refl p
      | some i => exact hstart i rfl
    rw [List.drop_eq_getElem_cons hp, tokensFrom_cons, ← readingAt_succ hc, ← separates_eq hc,
      ← leftOut_eq hc, getD_map_keptBetween, ← keptBetween_succ hfirst hc, runsFrom]
    split
    · rw [List.map_append, ← ih hrest none nofun]
      cases start <;> rfl
    · refine ih hrest (some (start.getD p)) fun i hi => ?_
      obtain rfl := Option.some.inj hi
      exact Nat.le_succ_of_le hfirst

/-- The tokens of a line are its maximal runs of characters that do not separate, in order, each without
the characters that are left out. -/
theorem tokens_eq_kept_runs (s : Text) :
    tokens s = s.runs.map (fun r => s.keptBetween r.1 r.2) ∧
      s.runs.Pairwise (fun a b => a.2 < b.1) ∧
      ∀ i j, (i, j) ∈ s.runs ↔ IsRun s.separates s.length i j := by
  refine ⟨tokensFrom_drop (Nat.zero_add s.length) none nofun, pairwise_runsFrom isOpen_zero,
    fun i j => ?_⟩
  exact (mem_runsFrom isOpen_zero (Nat.zero_add _)).trans (and_iff_left (Nat.zero_le i))

/-- An empty span, an escaped quote, quotes inside of a word and a span that is never closed. -/
example : runs "a '' b\\\"c 'd e'f \"g h".toList = [(0, 1), (2, 4), (5, 9), (10, 16), (17, 21)] ∧
    tokens "a '' b\\\"c 'd e'f \"g h".toList =
      ["a", "", "b\"c", "d ef", "g h"].map String.toList := by
  decide

end VirtualTerminal.Text
