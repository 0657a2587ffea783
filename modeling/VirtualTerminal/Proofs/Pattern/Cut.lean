import VirtualTerminal.Pattern
import VirtualTerminal.Proofs.Quote

/-!
# Pieces between matches

`Hit.cut` cuts a text at the matches of a search and gives the pieces between them, which are the
slices between the bounds of the matches (`between_hits`), those that `Pattern.piecesFrom` takes
(`piecesFrom_hits`). A piece that a plain search cuts out, read from a fresh start, has no match of its
own (`Plain.cut_of_mem_cut`), and each piece but the last one closes its quotes
(`Plain.inside_of_mem_dropLast_cut`).
-/

namespace VirtualTerminal.Hit

variable {π : Type u}

/-- A search gives the pattern that matches at the start of a text and the length of its match, from
the character before the text. -/
abbrev Search (π : Type u) := Option Char → Text → Option (π × Nat)

/-- Whether matches are neither empty nor longer than the text they are found in. -/
def Search.Bounded (find : Search π) : Prop :=
  ∀ p s h n, find p s = some (h, n) → 0 < n ∧ n ≤ s.length

/-- The length of the match at a character of a text, if the character is outside of quotes. -/
def matchAt (find : Search π) (r : Reading) (c : Char) (rest : Text) : Option Nat :=
  if (r.insideAfter c).isNone then (find r.previous (c :: rest)).map Prod.snd else none

/-- The pieces of a text between the matches of a search outside of quotes. -/
def cut (find : Search π) (r : Reading) : Text → List Text
  | [] => [[]]
  | c :: rest =>
    match matchAt find r c rest with
    | some n => [] :: cut find ((r.after c).through (rest.take (n - 1))) (rest.drop (n - 1))
    | none => (cut find (r.after c) rest).modifyHead (c :: ·)
  termination_by s => s.length
  decreasing_by all_goals simp; try omega

variable {find : Search π}

@[simp] theorem cut_nil (r : Reading) : cut find r [] = [[]] := by
  rw [cut]

theorem cut_cons_of_match {r : Reading} {c : Char} {rest : Text} {n : Nat}
    (h : matchAt find r c rest = some n) :
    cut find r (c :: rest) =
      [] :: cut find ((r.after c).through (rest.take (n - 1))) (rest.drop (n - 1)) := by
  rw [cut, h]

theorem cut_cons_of_no_match {r : Reading} {c : Char} {rest : Text}
    (h : matchAt find r c rest = none) :
    cut find r (c :: rest) = (cut find (r.after c) rest).modifyHead (c :: ·) := by
  rw [cut, h]

theorem cut_ne_nil (r : Reading) (s : Text) : cut find r s ≠ [] := by
  induction s generalizing r with
  | nil => simp
  | cons c rest ih =>
    cases h : matchAt find r c rest with
    | some n => rw [cut_cons_of_match h]; exact List.cons_ne_nil _ _
    | none =>
      rw [cut_cons_of_no_match h]
      simpa using ih (r.after c)

theorem exists_cut_eq_cons (find : Search π) (r : Reading) (s : Text) :
    ∃ piece pieces, cut find r s = piece :: pieces :=
  List.exists_cons_of_ne_nil (cut_ne_nil r s)

/-! ## Slices -/

/-- The slices of a text between matches: from a position, or from where a match stops, to where the
next match starts, and for the last one to the end. -/
def between (s : Text) (position : Nat) (hits : List (Hit π)) : List Text :=
  List.zipWith (Text.slice s) (position :: hits.map stop) (hits.map start ++ [s.length])

theorem slice_eq_nil {s : Text} {a b : Nat} (h : b ≤ a) : Text.slice s a b = [] := by
  unfold Text.slice
  rw [List.drop_eq_nil_iff, List.length_take]
  omega

theorem slice_succ {s : Text} {a b : Nat} {c : Char} {rest : Text} (hs : s.drop b = c :: rest)
    (hab : a ≤ b) : Text.slice s a (b + 1) = Text.slice s a b ++ [c] := by
  have hb : b < s.length := by
    by_contra hle
    rw [List.drop_eq_nil_of_le (by omega)] at hs
    simp at hs
  have hc : s[b] = c := by
    rw [List.drop_eq_getElem_cons hb] at hs
    exact (List.cons.inj hs).1
  unfold Text.slice
  rw [← List.take_append_getElem hb, hc, List.drop_append_of_le_length]
  rw [List.length_take]
  omega

/-! ## Cutting by positions and by recursion -/

theorem drop_succ_of_drop_eq_cons {s : Text} {b : Nat} {c : Char} {rest : Text}
    (hs : s.drop b = c :: rest) : s.drop (b + 1) = rest := by
  rw [← List.drop_drop, hs]
  rfl

/-- The characters that a match covers are passed over. -/
theorem allFrom_skip (find : Search π) (r : Reading) (position : Nat) :
    ∀ (k : Nat) (s : Text), k ≤ s.length →
      allFrom find r position k s =
        allFrom find (r.through (s.take k)) (position + k) 0 (s.drop k) := by
  intro k
  induction k generalizing r position with
  | zero => intro s _; rfl
  | succ k ih =>
    intro s hk
    cases s with
    | nil => simp at hk
    | cons c rest =>
      have hskip : allFrom find r position (k + 1) (c :: rest) =
          allFrom find (r.after c) (position + 1) k rest := by
        rw [allFrom]
        simp
      rw [hskip, ih (r.after c) (position + 1) rest (by simpa using hk),
        show position + 1 + k = position + (k + 1) by omega]
      rfl

theorem allFrom_cons_of_no_match {r : Reading} {position : Nat} {c : Char} {rest : Text}
    (h : matchAt find r c rest = none) :
    allFrom find r position 0 (c :: rest) = allFrom find (r.after c) (position + 1) 0 rest := by
  rw [allFrom]
  unfold matchAt at h
  split at h
  next hin => simp [hin, Option.map_eq_none_iff.mp h]
  next hin => simp [hin]

theorem allFrom_cons_of_match {r : Reading} {c : Char} {rest : Text} {n : Nat}
    (h : matchAt find r c rest = some n) (position : Nat) :
    ∃ p, allFrom find r position 0 (c :: rest) =
      ⟨p, position, n⟩ :: allFrom find (r.after c) (position + 1) (n - 1) rest := by
  unfold matchAt at h
  split at h
  next hin =>
    obtain ⟨⟨p, m⟩, hfind, rfl⟩ := Option.map_eq_some_iff.mp h
    refine ⟨p, ?_⟩
    rw [allFrom]
    simp [hin, hfind]
  next => cases h

theorem matchAt_bounds (hb : Search.Bounded find) {r : Reading} {c : Char} {rest : Text} {n : Nat}
    (h : matchAt find r c rest = some n) : 0 < n ∧ n ≤ rest.length + 1 := by
  unfold matchAt at h
  split at h
  · obtain ⟨⟨p, m⟩, hfind, rfl⟩ := Option.map_eq_some_iff.mp h
    exact hb _ _ _ _ hfind
  · cases h

/-! ## Searches for the patterns of a list -/

section Patterns

variable {matchLength? : π → Option Char → Text → Option Nat} {patterns : List π}

/-- Whether matches are neither empty nor longer than the text they are found in. Nothing else is asked
of them: a match may depend on all that follows it, and so on its position, and on the character before
it. -/
def Bounded (matchLength? : π → Option Char → Text → Option Nat) : Prop :=
  ∀ p previous s n, matchLength? p previous s = some n → 0 < n ∧ n ≤ s.length

theorem first_eq_some_iff {previous : Option Char} {s : Text} {p : π} {n : Nat} :
    Hit.first matchLength? patterns previous s = some (p, n) ↔
      ∃ earlier later, patterns = earlier ++ p :: later ∧ matchLength? p previous s = some n ∧
        ∀ q ∈ earlier, matchLength? q previous s = none := by
  unfold Hit.first
  rw [List.findSome?_eq_some_iff]
  constructor
  · rintro ⟨earlier, q, later, rfl, hq, hearlier⟩
    obtain ⟨m, hm, heq⟩ := Option.map_eq_some_iff.mp hq
    cases heq
    exact ⟨earlier, later, rfl, hm, fun q hq => Option.map_eq_none_iff.mp (hearlier q hq)⟩
  · rintro ⟨earlier, later, rfl, hp, hearlier⟩
    exact ⟨earlier, p, later, rfl, by rw [hp]; rfl,
      fun q hq => Option.map_eq_none_iff.mpr (hearlier q hq)⟩

theorem bounded_first (hb : Bounded matchLength?) (patterns : List π) :
    Search.Bounded (Hit.first matchLength? patterns) := by
  intro previous s p n hfind
  obtain ⟨-, -, -, hp, -⟩ := first_eq_some_iff.mp hfind
  exact hb p previous s n hp

/-- What is found is one of the patterns searched for. -/
theorem pattern_mem_of_mem_allFrom {h : Hit π} {r : Reading} {position skip : Nat} {s : Text}
    (hmem : h ∈ allFrom (first matchLength? patterns) r position skip s) : h.pattern ∈ patterns := by
  induction s generalizing r position skip with
  | nil => cases hmem
  | cons c rest ih =>
    rw [allFrom] at hmem
    split at hmem
    next p n hfound =>
      rcases List.mem_cons.mp hmem with rfl | hmem
      · obtain ⟨-, hfirst⟩ := Option.ite_none_right_eq_some.mp hfound
        obtain ⟨earlier, later, rfl, -, -⟩ := first_eq_some_iff.mp hfirst
        exact List.mem_append_right _ List.mem_cons_self
      · exact ih hmem
    next => exact ih hmem

end Patterns

/-! ## Pieces read from a fresh start -/

/-- A search is plain if it does not look at the character before a match, finds in a longer text
what it finds in a text, and finds neither quotes nor backslashes. -/
structure Search.Plain (find : Search π) : Prop where
  bounded : find.Bounded
  blind : ∀ p q s, find p s = find q s
  extends_right : ∀ p s t, find p (s ++ t) = none → find p s = none
  neutral : ∀ p s h n, find p s = some (h, n) → ∀ c ∈ s.take n, Reading.Neutral c

namespace Search.Plain

open Reading

theorem matchAt_congr (hf : find.Plain) {r t : Reading} (h : Agrees r t) (c : Char) (rest : Text) :
    matchAt find r c rest = matchAt find t c rest := by
  unfold matchAt
  rw [h.insideAfter c, hf.blind r.previous t.previous]

theorem cut_congr (hf : find.Plain) {r t : Reading} (h : Agrees r t) (s : Text) :
    cut find r s = cut find t s := by
  induction r, s using cut.induct find generalizing t with
  | case1 r => rw [cut_nil, cut_nil]
  | case2 r c rest n hm ih =>
    rw [cut_cons_of_match hm, cut_cons_of_match ((hf.matchAt_congr h c rest) ▸ hm),
      ih ((h.after c).through _)]
  | case3 r c rest hm ih =>
    rw [cut_cons_of_no_match hm, cut_cons_of_no_match ((hf.matchAt_congr h c rest) ▸ hm),
      ih (h.after c)]

/-- What follows a match is read like a text of its own. -/
theorem agrees_after_match (hf : find.Plain) {r : Reading} {c : Char} {rest : Text} {n : Nat}
    (h : matchAt find r c rest = some n) :
    Agrees ((r.after c).through (rest.take (n - 1))) Reading.start := by
  unfold matchAt at h
  split at h
  next hin =>
    obtain ⟨⟨p, m⟩, hfind, rfl⟩ := Option.map_eq_some_iff.mp h
    obtain ⟨k, rfl⟩ : ∃ k, m = k + 1 := ⟨m - 1, by have := (hf.bounded _ _ _ _ hfind).1; omega⟩
    have hneutral := hf.neutral _ _ _ _ hfind
    rw [List.take_succ_cons] at hneutral
    have hc := hneutral c List.mem_cons_self
    refine agrees_start_through (fun d hd => hneutral d (List.mem_cons_of_mem _ hd)) ?_
    refine agrees_start (Option.isNone_iff_eq_none.mp hin) fun hesc => hc.2 (Option.some.inj hesc)
  next => cases h

/-- A match starts outside of quotes. -/
theorem inside_of_match (hf : find.Plain) {r : Reading} {c : Char} {rest : Text} {n : Nat}
    (h : matchAt find r c rest = some n) : r.inside = none := by
  unfold matchAt at h
  split at h
  next hin =>
    obtain ⟨⟨p, m⟩, hfind, rfl⟩ := Option.map_eq_some_iff.mp h
    obtain ⟨k, rfl⟩ : ∃ k, m = k + 1 := ⟨m - 1, by have := (hf.bounded _ _ _ _ hfind).1; omega⟩
    have hc := hf.neutral _ _ _ _ hfind c (by rw [List.take_succ_cons]; exact List.mem_cons_self)
    rw [← insideAfter_of_neutral hc r]
    exact Option.isNone_iff_eq_none.mp hin
  next => cases h

theorem matchAt_eq_none_of_append (hf : find.Plain) {r : Reading} {c : Char} {s t : Text}
    (h : matchAt find r c (s ++ t) = none) : matchAt find r c s = none := by
  unfold matchAt at h ⊢
  split
  next hin =>
    rw [if_pos hin, Option.map_eq_none_iff] at h
    rw [Option.map_eq_none_iff]
    exact hf.extends_right _ (c :: s) t h
  next => rfl

/-- The first piece is a start of the text that holds no match. -/
theorem cut_head (hf : find.Plain) {r : Reading} {s piece : Text} {pieces : List Text}
    (h : cut find r s = piece :: pieces) :
    piece <+: s ∧ cut find r piece = [piece] ∧ (pieces ≠ [] → (r.through piece).inside = none) := by
  induction r, s using cut.induct find generalizing piece pieces with
  | case1 r =>
    rw [cut_nil] at h
    cases h
    exact ⟨List.nil_prefix, cut_nil r, fun hne => absurd rfl hne⟩
  | case2 r c rest n hm ih =>
    rw [cut_cons_of_match hm] at h
    cases h
    exact ⟨List.nil_prefix, cut_nil r, fun _ => hf.inside_of_match hm⟩
  | case3 r c rest hm ih =>
    obtain ⟨q, qs, hq⟩ := exists_cut_eq_cons find (r.after c) rest
    rw [cut_cons_of_no_match hm, hq] at h
    cases h
    obtain ⟨⟨t, rfl⟩, hcut, hin⟩ := ih hq
    refine ⟨⟨t, rfl⟩, ?_, hin⟩
    rw [cut_cons_of_no_match (hf.matchAt_eq_none_of_append hm), hcut]
    rfl

/-- The pieces after the first one are those of what follows the first match. -/
theorem exists_cut_eq_tail (hf : find.Plain) {r : Reading} {s piece : Text} {pieces : List Text}
    (h : cut find r s = piece :: pieces) (hne : pieces ≠ []) :
    ∃ t rest, Agrees t Reading.start ∧ cut find t rest = pieces := by
  induction r, s using cut.induct find generalizing piece with
  | case1 r =>
    rw [cut_nil] at h
    cases h
    exact absurd rfl hne
  | case2 r c rest n hm ih =>
    rw [cut_cons_of_match hm] at h
    cases h
    exact ⟨_, _, hf.agrees_after_match hm, rfl⟩
  | case3 r c rest hm ih =>
    obtain ⟨q, qs, hq⟩ := exists_cut_eq_cons find (r.after c) rest
    rw [cut_cons_of_no_match hm, hq] at h
    cases h
    exact ih hq

/-- A piece read from a fresh start holds no match. -/
theorem cut_of_mem_cut (hf : find.Plain) {r : Reading} (hr : Agrees r Reading.start) {s : Text}
    {pieces : List Text} (h : cut find r s = pieces) :
    ∀ piece ∈ pieces, cut find Reading.start piece = [piece] := by
  induction pieces generalizing r s with
  | nil => simp
  | cons p ps ih =>
    intro q hq
    rcases List.mem_cons.mp hq with rfl | hq
    · rw [← hf.cut_congr hr]
      exact (hf.cut_head h).2.1
    · obtain ⟨t, rest, ht, hcut⟩ := hf.exists_cut_eq_tail h (List.ne_nil_of_mem hq)
      exact ih ht hcut q hq

/-- A piece that a match follows closes its quotes. -/
theorem inside_of_mem_dropLast_cut (hf : find.Plain) {r : Reading}
    (hr : Agrees r Reading.start) {s : Text} {pieces : List Text} (h : cut find r s = pieces) :
    ∀ piece ∈ pieces.dropLast, (Reading.start.through piece).inside = none := by
  induction pieces generalizing r s with
  | nil => simp
  | cons p ps ih =>
    intro q hq
    have hne : ps ≠ [] := by
      rintro rfl
      cases hq
    rw [List.dropLast_cons_of_ne_nil hne] at hq
    rcases List.mem_cons.mp hq with rfl | hq
    · rw [← (hr.through q).inside]
      exact (hf.cut_head h).2.2 hne
    · obtain ⟨t, rest, ht, hcut⟩ := hf.exists_cut_eq_tail h hne
      exact ih ht hcut q hq

/-! ## Texts without a match -/

theorem cut_cons_eq_singleton_iff {r : Reading} {c : Char} {rest : Text} :
    cut find r (c :: rest) = [c :: rest] ↔
      matchAt find r c rest = none ∧ cut find (r.after c) rest = [rest] := by
  cases hm : matchAt find r c rest with
  | some n => simp [cut_cons_of_match hm]
  | none =>
    obtain ⟨p, ps, hp⟩ := exists_cut_eq_cons find (r.after c) rest
    simp [cut_cons_of_no_match hm, hp]

theorem cut_left (hf : find.Plain) {r : Reading} {s t : Text}
    (h : cut find r (s ++ t) = [s ++ t]) : cut find r s = [s] := by
  induction s generalizing r with
  | nil => exact cut_nil r
  | cons c s ih =>
    obtain ⟨hm, hrest⟩ := cut_cons_eq_singleton_iff.mp h
    exact cut_cons_eq_singleton_iff.mpr ⟨hf.matchAt_eq_none_of_append hm, ih hrest⟩

theorem cut_right {r : Reading} {s t : Text} (h : cut find r (s ++ t) = [s ++ t]) :
    cut find (r.through s) t = [t] := by
  induction s generalizing r with
  | nil => exact h
  | cons c s ih => exact ih (cut_cons_eq_singleton_iff.mp h).2

theorem cut_trim (hf : find.Plain) {s : Text} (h : cut find Reading.start s = [s]) :
    cut find Reading.start (Text.trim s) = [Text.trim s] := by
  obtain ⟨w, v, hw, -, hs⟩ := Text.exists_eq_trim s
  rw [hs] at h
  rw [← hf.cut_congr (agrees_start_through hw.neutral (Agrees.refl _))]
  exact cut_right (hf.cut_left h)

end Search.Plain

end VirtualTerminal.Hit

namespace VirtualTerminal.Pattern

open Hit

/-- The search for a list of patterns. -/
abbrev search (patterns : List Pattern) : Search Pattern :=
  first matchLength? patterns

theorem bounded_matchLength? : Bounded matchLength? := by
  intro p previous s n hm
  cases p with
  | literal text =>
    simp only [matchLength?, Option.ite_none_right_eq_some, Option.some.injEq] at hm
    obtain ⟨⟨hne, hstart⟩, rfl⟩ := hm
    exact ⟨List.length_pos_iff.mpr hne, (List.isPrefixOf_iff_prefix.mp hstart).length_le⟩
  | regex re =>
    simp only [matchLength?, Option.filter_eq_some_iff] at hm
    simpa using hm.2

theorem search_bounded (patterns : List Pattern) : (search patterns).Bounded :=
  bounded_first bounded_matchLength? patterns

/-! ## Literals -/

/-- Whether a pattern is a literal without quotes and backslashes. -/
def IsPlain (p : Pattern) : Prop :=
  ∃ text, p = .literal text ∧ ∀ c ∈ text, Reading.Neutral c

theorem IsPlain.matchLength?_eq_some {p : Pattern} (hp : p.IsPlain) {q : Option Char}
    {s : Text} {n : Nat} (h : p.matchLength? q s = some n) : ∀ c ∈ s.take n, Reading.Neutral c := by
  obtain ⟨text, rfl, hneutral⟩ := hp
  simp only [matchLength?, Option.ite_none_right_eq_some, Option.some.injEq] at h
  obtain ⟨⟨-, hstart⟩, rfl⟩ := h
  rw [← List.prefix_iff_eq_take.mp (List.isPrefixOf_iff_prefix.mp hstart)]
  exact hneutral

theorem IsPlain.matchLength?_eq_none {p : Pattern} (hp : p.IsPlain) {q : Option Char}
    {s t : Text} (h : p.matchLength? q (s ++ t) = none) : p.matchLength? q s = none := by
  obtain ⟨text, rfl, -⟩ := hp
  simp only [matchLength?, ite_eq_right_iff, reduceCtorEq, imp_false, not_and,
    List.isPrefixOf_iff_prefix] at h ⊢
  exact fun hne hstart => h hne (hstart.trans (List.prefix_append s t))

theorem IsPlain.matchLength?_congr {p : Pattern} (hp : p.IsPlain) (q q' : Option Char)
    (s : Text) : p.matchLength? q s = p.matchLength? q' s := by
  obtain ⟨text, rfl, -⟩ := hp
  rfl

/-- A search for literals without quotes and backslashes is plain. -/
theorem plain_search {patterns : List Pattern} (hp : ∀ p ∈ patterns, p.IsPlain) :
    (search patterns).Plain where
  bounded := search_bounded patterns
  blind q q' s := by
    show first _ _ _ _ = first _ _ _ _
    unfold first
    induction patterns with
    | nil => rfl
    | cons p ps ih =>
      rw [List.findSome?_cons, List.findSome?_cons,
        (hp p List.mem_cons_self).matchLength?_congr q q' s,
        ih fun p h => hp p (List.mem_cons_of_mem _ h)]
  extends_right q s t h := by
    have h' : first matchLength? patterns q (s ++ t) = none := h
    show first matchLength? patterns q s = none
    unfold first at h' ⊢
    rw [List.findSome?_eq_none_iff] at h' ⊢
    intro p hmem
    rw [Option.map_eq_none_iff]
    exact (hp p hmem).matchLength?_eq_none (Option.map_eq_none_iff.mp (h' p hmem))
  neutral q s h n hfind := by
    obtain ⟨p, hmem, hm⟩ := List.exists_of_findSome?_eq_some hfind
    obtain ⟨m, hlen, heq⟩ := Option.map_eq_some_iff.mp hm
    cases heq
    exact (hp h hmem).matchLength?_eq_some hlen

/-! ## Slices -/

/-- The slices between the matches from a position on, of which the first one starts `start`, are
the pieces that cutting the rest of the text gives. -/
theorem piecesFrom_allFrom {find : Search Pattern} (hb : find.Bounded) (s : Text) :
    ∀ (rest : Text) (r : Reading) (start position : Nat), s.drop position = rest →
      start ≤ position → position ≤ s.length →
        piecesFrom s false start (allFrom find r position 0 rest) =
          (cut find r rest).modifyHead (Text.slice s start position ++ ·) := by
  intro rest r
  induction r, rest using cut.induct find with
  | case1 r =>
    intro start position hs hle hlen
    have hend : position = s.length := by
      have := List.drop_eq_nil_iff.mp hs
      omega
    simp [allFrom, piecesFrom, hend]
  | case2 r c rest n h ih =>
    intro start position hs hle hlen
    have hrest := drop_succ_of_drop_eq_cons hs
    have hbound := matchAt_bounds hb h
    have hlength : (s.drop position).length = rest.length + 1 := by rw [hs]; rfl
    rw [List.length_drop] at hlength
    obtain ⟨p, hall⟩ := allFrom_cons_of_match h position
    rw [hall, allFrom_skip find _ _ (n - 1) rest (by omega), cut_cons_of_match h,
      show position + 1 + (n - 1) = position + n by omega]
    simp only [piecesFrom, Bool.false_eq_true, if_false, List.nil_append, List.modifyHead_cons,
      List.append_nil]
    rw [show Hit.stop ⟨p, position, n⟩ = position + n from rfl,
      ih (position + n) (position + n) _ (Nat.le_refl _) (by omega), slice_eq_nil (Nat.le_refl _)]
    · congr 1
      exact List.modifyHead_id ▸ rfl
    · rw [← hrest, List.drop_drop, show position + 1 + (n - 1) = position + n by omega]
  | case3 r c rest h ih =>
    intro start position hs hle hlen
    have hlt : position < s.length := by
      by_contra hge
      rw [List.drop_eq_nil_of_le (by omega)] at hs
      cases hs
    rw [allFrom_cons_of_no_match h, cut_cons_of_no_match h,
      ih start (position + 1) (drop_succ_of_drop_eq_cons hs) (by omega) (by omega),
      slice_succ hs hle, List.modifyHead_modifyHead]
    congr 1
    funext piece
    simp

theorem piecesFrom_eq_between (s : Text) (position : Nat) (hits : List (Hit Pattern)) :
    piecesFrom s false position hits = between s position hits := by
  induction hits generalizing position with
  | nil => rfl
  | cons h hits ih => exact congrArg (Text.slice s position h.start :: ·) (ih h.stop)

/-- The slices between the matches of a list of patterns are the pieces of the text. -/
theorem piecesFrom_hits (patterns : List Pattern) (s : Text) :
    piecesFrom s false 0 (hits patterns s) = cut (search patterns) Reading.start s := by
  have h := piecesFrom_allFrom (search_bounded patterns) s s Reading.start 0 0 rfl
    (Nat.le_refl _) (Nat.zero_le _)
  rw [slice_eq_nil (Nat.le_refl _)] at h
  exact h.trans (congrFun List.modifyHead_id _)

theorem between_hits (patterns : List Pattern) (s : Text) :
    between s 0 (hits patterns s) = cut (search patterns) Reading.start s :=
  (piecesFrom_eq_between s 0 _).symm.trans (piecesFrom_hits patterns s)

theorem hits_eq_nil_of_cut {patterns : List Pattern} {s : Text}
    (h : cut (search patterns) Reading.start s = [s]) : hits patterns s = [] := by
  rw [← piecesFrom_hits] at h
  cases hhits : hits patterns s with
  | nil => rfl
  | cons hit rest =>
    rw [hhits] at h
    cases rest <;> simp [piecesFrom] at h

end VirtualTerminal.Pattern
