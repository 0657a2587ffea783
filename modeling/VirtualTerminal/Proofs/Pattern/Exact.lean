import Mathlib.Data.List.Pairwise
import Mathlib.Data.List.Sort
import VirtualTerminal.Proofs.Pattern.Cut

/-!
# Exact searches

The matches that a search lists stand in order and outside of quotes, each is one of the first pattern
that matches at its place, and no place outside of quotes where a pattern matches is left uncovered. Only
one list is exact in this sense, the one that the search gives (`exact_iff`). The pieces between the
matches and the matches themselves make up the text.
-/

namespace VirtualTerminal

/-! ## Readings at a position -/

theorem Reading.previous_through (r : Reading) (s : Text) :
    (r.through s).previous = s.getLast?.or r.previous := by
  induction s generalizing r with
  | nil => rfl
  | cons c s ih =>
    rw [through_cons, ih, List.getLast?_cons]
    cases s.getLast? <;> rfl

theorem Text.length_spansFrom (r : Reading) (s : Text) : (spansFrom r s).length = s.length := by
  induction s generalizing r with
  | nil => rfl
  | cons c s ih => simp [spansFrom, ih]

theorem Text.getElem?_spansFrom (r : Reading) (s : Text) (c : Char) (t : Text) :
    (spansFrom r (s ++ c :: t))[s.length]? = some (c, (r.through s).insideAfter c) := by
  induction s generalizing r with
  | nil => rfl
  | cons d s ih => exact ih (r.after d)

namespace Hit

variable {π : Type u} {find : Search π} {r : Reading} {position skip : Nat} {s : Text} {h : Hit π}

/-! ## What a search finds -/

/-- A match starts after what was passed over. -/
theorem le_start_of_mem_allFrom (hmem : h ∈ allFrom find r position skip s) :
    position + skip ≤ h.start := by
  induction s generalizing r position skip with
  | nil => cases hmem
  | cons c rest ih =>
    rw [allFrom] at hmem
    split at hmem
    next p n hfound =>
      have hskip : skip = 0 := by
        by_contra hne
        simp [hne] at hfound
      rcases List.mem_cons.mp hmem with rfl | hmem
      · show position + skip ≤ position
        omega
      · have := ih hmem
        omega
    next =>
      have := ih hmem
      omega

theorem pairwise_allFrom (find : Search π) (r : Reading) (position skip : Nat) (s : Text) :
    (allFrom find r position skip s).Pairwise fun h k => h.stop ≤ k.start := by
  induction s generalizing r position skip with
  | nil => exact .nil
  | cons c rest ih =>
    rw [allFrom]
    split
    next p n _ =>
      refine List.pairwise_cons.mpr ⟨fun k hk => ?_, ih _ _ _⟩
      have := le_start_of_mem_allFrom hk
      show position + n ≤ k.start
      omega
    next => exact ih _ _ _

/-- A match stands outside of quotes, where the search finds it. -/
theorem exists_of_mem_allFrom (hmem : h ∈ allFrom find r position skip s) :
    ∃ before c after, s = before ++ c :: after ∧ h.start = position + before.length ∧
      (r.through before).insideAfter c = none ∧
      find (r.through before).previous (c :: after) = some (h.pattern, h.length) := by
  induction s generalizing r position skip with
  | nil => cases hmem
  | cons c rest ih =>
    -- a match that is found later on has one more character before it
    have hlater : ∀ {k}, h ∈ allFrom find (r.after c) (position + 1) k rest →
        ∃ before d after, c :: rest = before ++ d :: after ∧ h.start = position + before.length ∧
          (r.through before).insideAfter d = none ∧
          find (r.through before).previous (d :: after) = some (h.pattern, h.length) := by
      intro k hk
      obtain ⟨before, d, after, rfl, hstart, hin, hfind⟩ := ih hk
      exact ⟨c :: before, d, after, rfl, by rw [hstart, List.length_cons]; omega, hin, hfind⟩
    rw [allFrom] at hmem
    split at hmem
    next p n hfound =>
      rcases List.mem_cons.mp hmem with rfl | hmem
      · obtain ⟨⟨-, hin⟩, hfind⟩ := Option.ite_none_right_eq_some.mp hfound
        exact ⟨[], c, rest, rfl, rfl, Option.isNone_iff_eq_none.mp hin, hfind⟩
      · exact hlater hmem
    next => exact hlater hmem

/-- A place outside of quotes where the search finds something is passed over or covered. -/
theorem exists_mem_allFrom (hb : find.Bounded) (position skip : Nat) {before after : Text} {c : Char}
    (hin : (r.through before).insideAfter c = none)
    (hfind : (find (r.through before).previous (c :: after)).isSome) :
    before.length < skip ∨ ∃ h ∈ allFrom find r position skip (before ++ c :: after),
      h.start ≤ position + before.length ∧ position + before.length < h.stop := by
  induction before generalizing r position skip with
  | nil =>
    cases skip with
    | succ k => exact .inl (Nat.succ_pos k)
    | zero =>
      obtain ⟨⟨p, n⟩, hfound⟩ := Option.isSome_iff_exists.mp hfind
      have hin : r.insideAfter c = none := hin
      have hfound : find r.previous (c :: after) = some (p, n) := hfound
      have hpos := (hb _ _ _ _ hfound).1
      refine .inr ⟨⟨p, position, n⟩, ?_, Nat.le_refl _, ?_⟩
      · rw [List.nil_append, allFrom]
        simp [hin, hfound]
      · show position + 0 < position + n
        omega
  | cons d before ih =>
    rw [List.cons_append, allFrom, List.length_cons]
    split
    next p n _ =>
      rcases ih (position + 1) (n - 1) hin hfind with hlt | ⟨h, hmem, hle, hlt⟩
      · refine .inr ⟨⟨p, position, n⟩, List.mem_cons_self, ?_, ?_⟩
        · show position ≤ position + (before.length + 1)
          omega
        · show position + (before.length + 1) < position + n
          omega
      · exact .inr ⟨h, List.mem_cons_of_mem _ hmem, by omega, by omega⟩
    next =>
      rcases ih (position + 1) (skip - 1) hin hfind with hlt | ⟨h, hmem, hle, hlt⟩
      · exact .inl (by omega)
      · exact .inr ⟨h, hmem, by omega, by omega⟩

/-! ## Exact lists of matches -/

variable {matchLength? : π → Option Char → Text → Option Nat} {patterns : List π}

/-- The length of the match of a pattern at a position of a text. -/
def lengthAt? (matchLength? : π → Option Char → Text → Option Nat) (s : Text) (i : Nat) (p : π) :
    Option Nat :=
  matchLength? p (s.take i).getLast? (s.drop i)

/-- Whether the character at a position leaves the reading of a text outside of quotes. -/
def OutsideAt (s : Text) (i : Nat) : Prop :=
  ∃ c, (Text.spans s)[i]? = some (c, none)

/-- Whether a list of matches is what a search for patterns outside of quotes is meant to give. -/
structure Exact (matchLength? : π → Option Char → Text → Option Nat) (patterns : List π) (s : Text)
    (hits : List (Hit π)) : Prop where
  /-- The matches stand in order and do not overlap. -/
  apart : hits.Pairwise fun h k => h.stop ≤ k.start
  nonempty : ∀ h ∈ hits, 0 < h.length
  within : ∀ h ∈ hits, h.stop ≤ s.length
  outside : ∀ h ∈ hits, OutsideAt s h.start
  /-- The pattern of a match is the first one that matches at its place. -/
  first : ∀ h ∈ hits, ∃ earlier later, patterns = earlier ++ h.pattern :: later ∧
    lengthAt? matchLength? s h.start h.pattern = some h.length ∧
    ∀ p ∈ earlier, lengthAt? matchLength? s h.start p = none
  /-- Every place outside of quotes where a pattern matches belongs to a match. -/
  complete : ∀ i, OutsideAt s i → ∀ p ∈ patterns, (lengthAt? matchLength? s i p).isSome →
    ∃ h ∈ hits, h.start ≤ i ∧ i < h.stop

theorem outsideAt_append_cons {before after : Text} {c : Char} :
    OutsideAt (before ++ c :: after) before.length ↔
      (Reading.start.through before).insideAfter c = none := by
  unfold OutsideAt Text.spans
  rw [Text.getElem?_spansFrom]
  constructor
  · rintro ⟨d, heq⟩
    exact congrArg Prod.snd (Option.some.inj heq)
  · intro hin
    exact ⟨c, by rw [hin]⟩

theorem exists_of_outsideAt {i : Nat} (hi : OutsideAt s i) :
    ∃ before c after, s = before ++ c :: after ∧ before.length = i := by
  obtain ⟨c, hc⟩ := hi
  have hlt : i < s.length := by
    have hsome := (List.getElem?_eq_some_iff.mp hc).1
    rwa [Text.spans, Text.length_spansFrom] at hsome
  refine ⟨s.take i, s[i], s.drop (i + 1), ?_, List.length_take_of_le (Nat.le_of_lt hlt)⟩
  rw [← List.drop_eq_getElem_cons hlt, List.take_append_drop]

theorem lengthAt?_append (before after : Text) (p : π) :
    lengthAt? matchLength? (before ++ after) before.length p =
      matchLength? p (Reading.start.through before).previous after := by
  unfold lengthAt?
  rw [List.take_left, List.drop_left, Reading.previous_through]
  cases before.getLast? <;> rfl

theorem isSome_first {previous : Option Char} {p : π} (hp : p ∈ patterns)
    (hmatch : (matchLength? p previous s).isSome) :
    (Hit.first matchLength? patterns previous s).isSome := by
  unfold Hit.first
  rw [List.findSome?_isSome_iff]
  exact ⟨p, hp, by rwa [Option.isSome_map]⟩

/-- The matches that a search lists are exact. -/
theorem exact_all (hb : Bounded matchLength?) (patterns : List π) (s : Text) :
    Exact matchLength? patterns s (all matchLength? patterns s) where
  apart := pairwise_allFrom _ _ _ _ _
  nonempty h hmem := by
    obtain ⟨before, c, after, -, -, -, hfind⟩ := exists_of_mem_allFrom hmem
    exact (bounded_first hb patterns _ _ _ _ hfind).1
  within h hmem := by
    obtain ⟨before, c, after, rfl, hstart, -, hfind⟩ := exists_of_mem_allFrom hmem
    have hle := (bounded_first hb patterns _ _ _ _ hfind).2
    unfold stop
    rw [hstart, List.length_append]
    omega
  outside h hmem := by
    obtain ⟨before, c, after, rfl, hstart, hin, -⟩ := exists_of_mem_allFrom hmem
    rw [hstart, Nat.zero_add]
    exact outsideAt_append_cons.mpr hin
  first h hmem := by
    obtain ⟨before, c, after, rfl, hstart, -, hfind⟩ := exists_of_mem_allFrom hmem
    obtain ⟨earlier, later, hpatterns, hp, hearlier⟩ := first_eq_some_iff.mp hfind
    rw [hstart, Nat.zero_add]
    exact ⟨earlier, later, hpatterns, by rwa [lengthAt?_append],
      fun q hq => by rw [lengthAt?_append]; exact hearlier q hq⟩
  complete i hout p hp hmatch := by
    obtain ⟨before, c, after, rfl, rfl⟩ := exists_of_outsideAt hout
    rw [lengthAt?_append] at hmatch
    have hcovered := exists_mem_allFrom (bounded_first hb patterns) 0 0
      (outsideAt_append_cons.mp hout) (isSome_first hp hmatch)
    simpa [all] using hcovered

/-! ## There is only one exact list -/

section Unique

variable {hits hits' : List (Hit π)}

/-- Matches of one list that start at one place are the same. -/
theorem Exact.stop_le_of_start_lt (hx : Exact matchLength? patterns s hits) {k : Hit π}
    (hh : h ∈ hits) (hk : k ∈ hits) (hlt : h.start < k.start) : h.stop ≤ k.start := by
  have : Std.Symm fun h k : Hit π => h.stop ≤ k.start ∨ k.stop ≤ h.start := ⟨fun _ _ => Or.symm⟩
  have hapart : hits.Pairwise fun h k => h.stop ≤ k.start ∨ k.stop ≤ h.start := hx.apart.imp .inl
  have hne : h ≠ k := fun heq => absurd hlt (heq ▸ Nat.lt_irrefl _)
  rcases hapart.forall hh hk hne with hle | hle
  · exact hle
  · have hpos := hx.nonempty k hk
    unfold stop at hle
    omega

/-- At one place there is one match: that of the first pattern that matches there. -/
theorem Exact.eq_of_start_eq (hx : Exact matchLength? patterns s hits)
    (hx' : Exact matchLength? patterns s hits') {k : Hit π} (hh : h ∈ hits) (hk : k ∈ hits')
    (heq : h.start = k.start) : h = k := by
  obtain ⟨before, c, after, rfl, hbefore⟩ := exists_of_outsideAt (hx.outside h hh)
  have hfirst : ∀ {l : Hit π}, l.start = before.length →
      (∃ earlier later, patterns = earlier ++ l.pattern :: later ∧
        lengthAt? matchLength? (before ++ c :: after) l.start l.pattern = some l.length ∧
        ∀ p ∈ earlier, lengthAt? matchLength? (before ++ c :: after) l.start p = none) →
      Hit.first matchLength? patterns (Reading.start.through before).previous (c :: after) =
        some (l.pattern, l.length) := by
    rintro l hl ⟨earlier, later, hpatterns, hp, hearlier⟩
    rw [hl] at hp hearlier
    simp only [lengthAt?_append] at hp hearlier
    exact first_eq_some_iff.mpr ⟨earlier, later, hpatterns, hp, hearlier⟩
  have hsame := (hfirst hbefore.symm (hx.first h hh)).symm.trans
    (hfirst (heq ▸ hbefore.symm) (hx'.first k hk))
  cases h
  cases k
  cases hsame
  cases heq
  rfl

/-- A match of one exact list is in every other one. This is shown place by place, as what covers the
place in the other list starts there or before. -/
theorem Exact.mem (hx : Exact matchLength? patterns s hits)
    (hx' : Exact matchLength? patterns s hits') (hmem : h ∈ hits) : h ∈ hits' := by
  induction hi : h.start using Nat.strongRecOn generalizing h hits hits' with
  | ind i ih =>
    obtain ⟨earlier, later, hpatterns, hlength, -⟩ := hx.first h hmem
    obtain ⟨k, hk, hle, hlt⟩ := hx'.complete h.start (hx.outside h hmem) h.pattern
      (hpatterns ▸ List.mem_append_right _ List.mem_cons_self) (Option.isSome_of_eq_some hlength)
    rcases Nat.lt_or_eq_of_le hle with hbefore | heq
    · have hk' : k ∈ hits := ih k.start (hi ▸ hbefore) hx' hx hk rfl
      have := hx.stop_le_of_start_lt hk' hmem hbefore
      omega
    · rwa [hx.eq_of_start_eq hx' hmem hk heq.symm]

theorem Exact.pairwise_start (hx : Exact matchLength? patterns s hits) :
    hits.Pairwise fun h k => h.start < k.start := by
  refine hx.apart.imp_of_mem fun {h k} hh _ hle => ?_
  have hpos := hx.nonempty h hh
  unfold stop at hle
  omega

theorem Exact.unique (hx : Exact matchLength? patterns s hits)
    (hx' : Exact matchLength? patterns s hits') : hits = hits' := by
  have : Std.Irrefl fun h k : Hit π => h.start < k.start := ⟨fun _ => Nat.lt_irrefl _⟩
  have : Std.Antisymm fun h k : Hit π => h.start < k.start :=
    ⟨fun _ _ hlt hgt => absurd hlt (Nat.lt_asymm hgt)⟩
  exact hx.pairwise_start.eq_of_mem_iff hx'.pairwise_start fun _ => ⟨hx.mem hx', hx'.mem hx⟩

end Unique

/-- A search lists the one list of matches that is exact. -/
theorem exact_iff (hb : Bounded matchLength?) {patterns : List π} {hits : List (Hit π)} :
    Exact matchLength? patterns s hits ↔ hits = all matchLength? patterns s := by
  constructor
  · exact fun hx => hx.unique (exact_all hb patterns s)
  · rintro rfl
    exact exact_all hb patterns s

/-! ## Slices -/

/-- The positions at which matches cut a text from a position on: that position, the ends of the matches
and the end of the text. -/
def boundsFrom (s : Text) (start : Nat) (hits : List (Hit π)) : List Nat :=
  start :: (hits.flatMap fun h => [h.start, h.stop]) ++ [s.length]

theorem boundsFrom_cons (s : Text) (start : Nat) (h : Hit π) (hits : List (Hit π)) :
    boundsFrom s start (h :: hits) = start :: h.start :: boundsFrom s h.stop hits := rfl

theorem isChain_boundsFrom {hits : List (Hit π)} {start : Nat}
    (hapart : hits.Pairwise fun h k => h.stop ≤ k.start) (hwithin : ∀ h ∈ hits, h.stop ≤ s.length)
    (hstart : start ≤ s.length) (hle : ∀ h ∈ hits, start ≤ h.start) :
    (boundsFrom s start hits).IsChain (· ≤ ·) := by
  induction hits generalizing start with
  | nil => exact .cons_cons hstart (.singleton _)
  | cons h hits ih =>
    obtain ⟨hnext, hrest⟩ := List.pairwise_cons.mp hapart
    rw [boundsFrom_cons]
    exact .cons_cons (hle h List.mem_cons_self) (.cons_cons (Nat.le_add_right _ _)
      (ih hrest (fun k hk => hwithin k (List.mem_cons_of_mem _ hk)) (hwithin h List.mem_cons_self)
        hnext))

theorem Exact.pairwise_bounds {hits : List (Hit π)} (hx : Exact matchLength? patterns s hits) :
    (boundsFrom s 0 hits).Pairwise (· ≤ ·) :=
  (isChain_boundsFrom hx.apart hx.within (Nat.zero_le _) fun _ _ => Nat.zero_le _).pairwise

theorem slice_append_slice {a b c : Nat} (hab : a ≤ b) (hbc : b ≤ c) :
    Text.slice s a b ++ Text.slice s b c = Text.slice s a c := by
  have hb : (s.take c).take b = s.take b := by rw [List.take_take, Nat.min_eq_left hbc]
  unfold Text.slice
  rw [← hb]
  generalize s.take c = t
  by_cases hlen : b ≤ t.length
  · rw [← List.drop_append_of_le_length (by rwa [List.length_take_of_le hlen]),
      List.take_append_drop]
  · rw [List.drop_eq_nil_of_le (Nat.le_of_not_le hlen), List.append_nil,
      List.take_of_length_le (Nat.le_of_not_le hlen)]

/-- The slices between the positions of an increasing list make up the slice between its ends. -/
theorem flatten_slices (s : Text) {positions : List Nat} {a b : Nat}
    (h : (a :: positions ++ [b]).Pairwise (· ≤ ·)) :
    (List.zipWith (Text.slice s) (a :: positions ++ [b]) (positions ++ [b])).flatten =
      Text.slice s a b := by
  induction positions generalizing a with
  | nil => simp
  | cons c positions ih =>
    obtain ⟨ha, hrest⟩ := List.pairwise_cons.mp h
    have hac : a ≤ c := ha c (by simp)
    have hcb : c ≤ b := (List.pairwise_cons.mp hrest).1 b (by simp)
    show Text.slice s a c ++ (List.zipWith (Text.slice s) (c :: positions ++ [b]) (positions ++ [b])).flatten
      = Text.slice s a b
    rw [ih hrest, slice_append_slice hac hcb]

end Hit

namespace Pattern

open Hit

theorem piecesFrom_eq_slices (s : Text) (start : Nat) (hits : List (Hit Pattern)) :
    piecesFrom s true start hits =
      List.zipWith (Text.slice s) (boundsFrom s start hits) (boundsFrom s start hits).tail := by
  induction hits generalizing start with
  | nil => rfl
  | cons h hits ih =>
    rw [piecesFrom, ih]
    rfl

/-- The pieces alone are some of the slices. -/
theorem piecesFrom_sublist (s : Text) (start : Nat) (hits : List (Hit Pattern)) :
    (piecesFrom s false start hits).Sublist (piecesFrom s true start hits) := by
  induction hits generalizing start with
  | nil => exact .refl _
  | cons h hits ih => exact ((ih h.stop).cons _).cons_cons _

/-- Whatever the patterns match, as long as no match is empty or longer than the text it is found in: the
list of matches is exact, and no other list is. What stands between the matches and the matches
themselves are the slices between positions that increase from the start of the text to its end, so
together they are the text. -/
theorem hits_exact {matchLength? : Pattern → Option Char → Text → Option Nat}
    (hb : Bounded matchLength?) (patterns : List Pattern) (s : Text) :
    let hits := Hit.all matchLength? patterns s
    let bounds := boundsFrom s 0 hits
    (∀ hits', Exact matchLength? patterns s hits' ↔ hits' = hits) ∧
      bounds.Pairwise (· ≤ ·) ∧ bounds.getLast? = some s.length ∧
      piecesFrom s true 0 hits = List.zipWith (Text.slice s) bounds bounds.tail ∧
      (piecesFrom s false 0 hits).Sublist (piecesFrom s true 0 hits) ∧
      (piecesFrom s true 0 hits).flatten = s := by
  intro hits bounds
  have hbounds : bounds.Pairwise (· ≤ ·) := (exact_all hb patterns s).pairwise_bounds
  refine ⟨fun _ => exact_iff hb, hbounds, List.getLast?_concat, piecesFrom_eq_slices s 0 hits,
    piecesFrom_sublist s 0 hits, ?_⟩
  rw [piecesFrom_eq_slices]
  refine (flatten_slices s hbounds).trans ?_
  simp [Text.slice]

/-- An ampersand in quotes is no match, and of two patterns that match at one place the first one is
listed; the letter with an accent counts as one position. -/
theorem hits_exact_quoted :
    let patterns := ["&&", "&"].map fun p => literal p.toList
    let s := "é && '&' & x".toList
    Bounded matchLength? ∧
      (hits patterns s).map (fun h => (h.start, h.length)) = [(2, 2), (9, 1)] ∧
      Exact matchLength? patterns s (hits patterns s) ∧
      (piecesFrom s true 0 (hits patterns s)).flatten = s := by
  intro patterns s
  obtain ⟨hexact, -, -, -, -, hflatten⟩ := hits_exact bounded_matchLength? patterns s
  exact ⟨bounded_matchLength?, by decide, (hexact _).mpr rfl, hflatten⟩

end Pattern

end VirtualTerminal
