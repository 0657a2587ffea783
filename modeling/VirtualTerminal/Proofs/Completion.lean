import Mathlib.Data.List.Infix
import Mathlib.Tactic.Common
import VirtualTerminal.Completion

/-!
# Scores of names

The search of a scattered match takes every character at the first place after the one before, and finds a
match whenever there is one (`isSome_positionsFrom_iff`). The places that it finds are in order and within
the candidate (`positionsFrom_bounds`), so a scattered match covers less than the whole candidate and spans
at least what was typed, and scores less than a part does. So the score tells exactly how a candidate
matches (`score_classifies`).
-/

namespace VirtualTerminal.Completion

/-! ## Positions -/

theorem positionsFrom_cons (start : Nat) (q : Char) (query text : Text) :
    positionsFrom start (q :: query) text =
      match text.idxOf? q with
      | none => none
      | some k =>
        (positionsFrom (start + k + 1) query (text.drop (k + 1))).map ((start + k) :: ·) := by
  induction text generalizing start with
  | nil => rfl
  | cons c text ih =>
    rw [List.idxOf?_cons]
    by_cases h : q = c
    · simp [positionsFrom, h]
    · have hne : ¬ (c == q) = true := fun heq => h (eq_of_beq heq).symm
      rw [if_neg hne, positionsFrom, if_neg h, ih]
      cases text.idxOf? q with
      | none => rfl
      | some k =>
        show Option.map _ _ = Option.map _ _
        rw [List.drop_succ_cons, Nat.add_right_comm start 1 k, Nat.add_assoc start k 1]

/-- The characters of a query are found exactly if they occur in a text in order. -/
theorem isSome_positionsFrom_iff {start : Nat} {query text : Text} :
    (positionsFrom start query text).isSome = true ↔ query.Sublist text := by
  induction text generalizing start query with
  | nil => cases query <;> simp [positionsFrom]
  | cons c text ih =>
    cases query with
    | nil => simp [positionsFrom]
    | cons q query =>
      unfold positionsFrom
      by_cases h : q = c
      · subst h
        rw [if_pos rfl, Option.isSome_map, ih, List.cons_sublist_cons]
      · rw [if_neg h, ih, List.cons_sublist_cons', or_iff_left fun heq => h heq.1]

/-- Positions are found for every character, in increasing order and within the text. -/
theorem positionsFrom_bounds {start : Nat} {query text : Text} {positions : List Nat}
    (h : positionsFrom start query text = some positions) :
    positions.length = query.length ∧ positions.Pairwise (· < ·) ∧
      ∀ n ∈ positions, start ≤ n ∧ n < start + text.length := by
  induction text generalizing start query positions with
  | nil =>
    cases query with
    | nil =>
      cases h
      exact ⟨rfl, .nil, List.forall_mem_nil _⟩
    | cons q query => cases h
  | cons c text ih =>
    cases query with
    | nil =>
      cases h
      exact ⟨rfl, .nil, List.forall_mem_nil _⟩
    | cons q query =>
      have hcons : (c :: text).length = text.length + 1 := rfl
      unfold positionsFrom at h
      split at h
      · obtain ⟨rest, hrest, rfl⟩ := Option.map_eq_some_iff.mp h
        obtain ⟨hlength, hsorted, hbounds⟩ := ih hrest
        refine ⟨congrArg (· + 1) hlength, ?_, List.forall_mem_cons.mpr ⟨by omega, fun n hn => ?_⟩⟩
        · exact List.pairwise_cons.mpr ⟨fun n hn => (hbounds n hn).1, hsorted⟩
        · have := hbounds n hn
          omega
      · obtain ⟨hlength, hsorted, hbounds⟩ := ih h
        refine ⟨hlength, hsorted, fun n hn => ?_⟩
        have := hbounds n hn
        omega

/-- From the first to the last of some increasing positions there are at least as many places as
positions. -/
theorem length_le_span {positions : List Nat} (h : positions.Pairwise (· < ·)) {first last : Nat}
    (hfirst : positions.head? = some first) (hlast : positions.getLast? = some last) :
    first + positions.length ≤ last + 1 := by
  induction positions generalizing first with
  | nil => cases hfirst
  | cons n rest ih =>
    cases hfirst
    obtain ⟨hn, hrest⟩ := List.pairwise_cons.mp h
    cases rest with
    | nil =>
      cases hlast
      exact Nat.le_refl _
    | cons m rest =>
      rw [List.getLast?_cons_cons] at hlast
      have hle := ih hrest rfl hlast
      have hlt : n < m := hn m List.mem_cons_self
      rw [List.length_cons]
      omega

/-! ## Scattered matches -/

/-- A scattered match scores from 1 to 199: it covers less than the candidate, and spans at least as many
places as characters were typed. -/
theorem scatteredScore_bounds {length : Nat} {positions : List Nat} (hne : positions ≠ [])
    (hsorted : positions.Pairwise (· < ·)) (hlength : positions.length < length) :
    1 ≤ scatteredScore length positions ∧ scatteredScore length positions ≤ 199 := by
  have hfirst := List.head?_eq_some_head hne
  have hlast := List.getLast?_eq_some_getLast hne
  have hspan := length_le_span hsorted hfirst hlast
  have hcoverage : 99 * positions.length / length < 99 :=
    Nat.div_lt_of_lt_mul (by rw [Nat.mul_comm]; exact Nat.mul_lt_mul_of_pos_right hlength (by decide))
  have hdensity :
      99 * positions.length / (positions.getLast hne - positions.head hne + 1 + 1) < 99 :=
    Nat.div_lt_of_lt_mul (by omega)
  unfold scatteredScore
  rw [hfirst, hlast]
  dsimp only
  generalize 99 * positions.length / length = coverage at *
  generalize 99 * positions.length / (_ + 1 + 1) = density at *
  omega

/-! ## Scores without accidents -/

/-- What follows the first `n` characters of a text, if it has so many. -/
def dropped? (n : Nat) (text : Text) : Option Text :=
  if n ≤ text.length then some (text.drop n) else none

/-- A difference, if it is none of a smaller number and a larger one. -/
def difference? (a b : Nat) : Option Nat :=
  if b ≤ a then some (a - b) else none

/-- A quotient, if the divisor is not zero. -/
def quotient? (a b : Nat) : Option Nat :=
  if b = 0 then none else some (a / b)

/-- The positions at which the characters of a query are found from `start` on, if that is never beyond
the end of the text. -/
def positions? (text : Text) (start : Nat) : Text → Option (Option (List Nat))
  | [] => some (some [])
  | q :: query =>
    match dropped? start text with
    | none => none
    | some rest =>
      match rest.idxOf? q with
      | none => some none
      | some k => (positions? text (start + k + 1) query).map (·.map ((start + k) :: ·))

/-- The score of a scattered match, if no difference is negative and no divisor is zero. -/
def scatteredScore? (length : Nat) (positions : List Nat) : Option Nat :=
  match positions.head?, positions.getLast? with
  | some first, some last =>
    match difference? last first with
    | none => none
    | some n =>
      match quotient? (99 * positions.length) length,
        quotient? (99 * positions.length) (n + 1 + 1) with
      | some coverage, some density => some (1 + coverage + density)
      | _, _ => none
  | _, _ => some 0

/-- The score of a candidate, if it is found without an accident: no position looked at is beyond the end
of the candidate, no difference is negative, and no divisor is zero. -/
def score? (candidate query : Text) : Option Nat :=
  let candidate := candidate.lower
  let query := query.lower
  if query = [] then some 0
  else if candidate = query then some 1000
  else if query.isPrefixOf candidate then some 500
  else if Text.hasInfix query candidate then some 200
  else
    match positions? candidate 0 query with
    | none => none
    | some none => some 0
    | some (some positions) => scatteredScore? candidate.length positions

/-- The search never looks beyond the end of the text. -/
theorem positions?_eq {text : Text} {start : Nat} (hstart : start ≤ text.length) (query : Text) :
    positions? text start query = some (positionsFrom start query (text.drop start)) := by
  induction query generalizing start with
  | nil =>
    unfold positions? positionsFrom
    rfl
  | cons q query ih =>
    unfold positions? dropped?
    rw [if_pos hstart, positionsFrom_cons]
    dsimp only
    cases hfind : (text.drop start).idxOf? q with
    | none => rfl
    | some k =>
      -- a character stands at the position, so the next search starts at the end at the latest
      obtain ⟨hlt, -⟩ := List.idxOf?_eq_some_iff.mp hfind
      rw [List.length_drop] at hlt
      dsimp only
      rw [ih (by omega), List.drop_drop]
      rfl

theorem scatteredScore?_eq {length : Nat} {positions : List Nat}
    (hsorted : positions.Pairwise (· < ·)) (hlength : length ≠ 0) :
    scatteredScore? length positions = some (scatteredScore length positions) := by
  unfold scatteredScore? scatteredScore
  cases hfirst : positions.head? with
  | none => rfl
  | some first =>
    cases hlast : positions.getLast? with
    | none => rfl
    | some last =>
      have hspan := length_le_span hsorted hfirst hlast
      have hpos : 0 < positions.length :=
        List.length_pos_of_mem (List.mem_of_getLast? hlast)
      dsimp only
      unfold difference? quotient?
      rw [if_pos (by omega)]
      dsimp only
      rw [if_neg hlength, if_neg (Nat.succ_ne_zero _)]

/-- How a candidate matches what was typed, and the scores that it may have for that. -/
inductive Classified (candidate query : Text) : Nat → Prop where
  | nothing (hquery : query = []) : Classified candidate query 0
  | whole (hquery : query ≠ []) (heq : candidate = query) : Classified candidate query 1000
  | start (hquery : query ≠ []) (hne : candidate ≠ query) (hstart : query <+: candidate) :
    Classified candidate query 500
  | part (hquery : query ≠ []) (hstart : ¬ query <+: candidate) (hpart : query <:+: candidate) :
    Classified candidate query 200
  | scattered {n : Nat} (hquery : query ≠ []) (hpart : ¬ query <:+: candidate)
    (horder : query.Sublist candidate) (hpos : 1 ≤ n) (hle : n ≤ 199) : Classified candidate query n
  | absent (hquery : query ≠ []) (horder : ¬ query.Sublist candidate) : Classified candidate query 0

theorem classified_score (candidate query : Text) :
    Classified candidate.lower query.lower (score candidate query) ∧
      score? candidate query = some (score candidate query) := by
  unfold score score?
  generalize candidate.lower = c
  generalize query.lower = q
  dsimp only
  by_cases hquery : q = []
  · rw [if_pos hquery, if_pos hquery]
    exact ⟨.nothing hquery, rfl⟩
  rw [if_neg hquery, if_neg hquery]
  by_cases heq : c = q
  · rw [if_pos heq, if_pos heq]
    exact ⟨.whole hquery heq, rfl⟩
  rw [if_neg heq, if_neg heq]
  by_cases hstart : q.isPrefixOf c = true
  · rw [if_pos hstart, if_pos hstart]
    exact ⟨.start hquery heq (List.isPrefixOf_iff_prefix.mp hstart), rfl⟩
  rw [if_neg hstart, if_neg hstart]
  by_cases hpart : Text.hasInfix q c = true
  · rw [if_pos hpart, if_pos hpart]
    exact ⟨.part hquery (mt List.isPrefixOf_iff_prefix.mpr hstart) (Text.hasInfix_iff.mp hpart), rfl⟩
  rw [if_neg hpart, if_neg hpart, positions?_eq (Nat.zero_le _), List.drop_zero]
  have hnot : ¬ q <:+: c := mt Text.hasInfix_iff.mpr hpart
  have hfound : (positionsFrom 0 q c).isSome = true ↔ q.Sublist c := isSome_positionsFrom_iff
  cases hpositions : positionsFrom 0 q c with
  | none =>
    rw [hpositions] at hfound
    exact ⟨.absent hquery fun hsub => Bool.false_ne_true (hfound.mpr hsub), rfl⟩
  | some positions =>
    rw [hpositions] at hfound
    have horder : q.Sublist c := hfound.mp rfl
    obtain ⟨hlength, hsorted, -⟩ := positionsFrom_bounds hpositions
    have hlt : positions.length < c.length := by
      rw [hlength]
      exact Nat.lt_of_le_of_ne horder.length_le fun h => heq (horder.eq_of_length h).symm
    have hne : positions ≠ [] := by
      rw [← List.length_pos_iff, hlength]
      exact List.length_pos_iff.mpr hquery
    obtain ⟨hpos, hle⟩ := scatteredScore_bounds hne hsorted hlt
    exact ⟨.scattered hquery hnot horder hpos hle, scatteredScore?_eq hsorted (by omega)⟩

/-- A candidate has a score exactly if something was typed and its characters occur in order. -/
theorem score_pos_iff {candidate query : Text} :
    0 < score candidate query ↔ query.lower ≠ [] ∧ query.lower.Sublist candidate.lower := by
  obtain ⟨hclass, -⟩ := classified_score candidate query
  generalize score candidate query = n at hclass ⊢
  cases hclass with
  | nothing hquery => simp [hquery]
  | whole hquery heq => simp [hquery, heq]
  | start hquery _ h => simp [hquery, h.sublist]
  | part hquery _ h => simp [hquery, h.sublist]
  | scattered hquery _ h hpos _ => exact iff_of_true hpos ⟨hquery, h⟩
  | absent hquery hnot => simp [hnot]

/-- The score tells exactly how a candidate matches what was typed, both in lower case. It is 0 if nothing
was typed or the characters do not occur in order, 1000 if the two are equal, 500 if the candidate is
longer and starts with what was typed, 200 if it only contains that, and from 1 to 199 in all other
cases. It is found without an accident: no position is beyond the end of the candidate, no difference is
negative, and no divisor is zero. -/
theorem score_classifies (candidate query : Text) :
    let c := candidate.lower
    let q := query.lower
    let n := score candidate query
    score? candidate query = some n ∧
      (n = 0 ↔ q = [] ∨ ¬ q.Sublist c) ∧
      (n = 1000 ↔ q ≠ [] ∧ c = q) ∧
      (n = 500 ↔ q ≠ [] ∧ q <+: c ∧ c ≠ q) ∧
      (n = 200 ↔ q ≠ [] ∧ q <:+: c ∧ ¬ q <+: c) ∧
      (1 ≤ n ∧ n ≤ 199 ↔ q ≠ [] ∧ q.Sublist c ∧ ¬ q <:+: c) := by
  intro c q n
  obtain ⟨hclass, hscore⟩ := classified_score candidate query
  refine ⟨hscore, ?_⟩
  have hpart : q <:+: c → q.Sublist c := List.IsInfix.sublist
  have hstart : q <+: c → q <:+: c := List.IsPrefix.isInfix
  have hwhole : c = q → q <+: c := fun h => h ▸ List.prefix_rfl
  change Classified c q n at hclass
  clear_value c q n
  cases hclass with
  | nothing hquery => simp [hquery]
  | whole hquery heq => simp [hquery, heq]
  | start hquery hne h => simp [hquery, hne, h, hstart h, hpart (hstart h)]
  | part hquery hnot h =>
    simp [hquery, hnot, h, hpart h, mt hwhole hnot]
  | @scattered n hquery hnot h hpos hle =>
    have hnotstart := mt hstart hnot
    have hscores : n ≠ 0 ∧ n ≠ 1000 ∧ n ≠ 500 ∧ n ≠ 200 := by omega
    simp [hquery, hnot, h, hnotstart, mt hwhole hnotstart, hscores, hpos, hle]
  | absent hquery hnot =>
    have hnotpart := mt hpart hnot
    have hnotstart := mt hstart hnotpart
    simp [hquery, hnot, hnotpart, hnotstart, mt hwhole hnotstart]

end VirtualTerminal.Completion
