import VirtualTerminal.Chain
import VirtualTerminal.Shell
import VirtualTerminal.Proofs.Pattern.Cut

/-!
# One segmentation of a line

A line is cut in two ways: at once at all operators, where aliases are replaced, and first into the
segments of a chain and then into the stages of each of them, where commands run. Both ways give the
same pieces, and a piece read on its own holds no operator.
-/

namespace VirtualTerminal

open Hit

/-- The pieces that are not blank, trimmed. -/
def Text.kept (pieces : List Text) : List Text :=
  (pieces.map Text.trim).filter (· ≠ [])

@[simp] theorem Text.kept_nil : Text.kept [] = [] := rfl

theorem Text.kept_append (xs ys : List Text) :
    Text.kept (xs ++ ys) = Text.kept xs ++ Text.kept ys := by
  unfold Text.kept
  rw [List.map_append, List.filter_append]

theorem Text.kept_cons (x : Text) (xs : List Text) :
    Text.kept (x :: xs) = (if Text.trim x = [] then [] else [Text.trim x]) ++ Text.kept xs := by
  unfold Text.kept
  by_cases h : Text.trim x = [] <;> simp [h]

theorem Text.trim_of_mem_kept {pieces : List Text} {x : Text} (h : x ∈ Text.kept pieces) :
    Text.trim x = x := by
  obtain ⟨piece, -, rfl⟩ := List.mem_map.mp (List.mem_filter.mp h).1
  exact Text.trim_trim piece

theorem Pattern.split_eq_kept (delimiter : Pattern) (s : Text) :
    Pattern.split delimiter false s = Text.kept (cut (search [delimiter]) Reading.start s) := by
  unfold Pattern.split
  rw [Pattern.piecesFrom_hits]
  rfl

/-! ## The searches -/

/-- The search for all operators. -/
abbrev Shell.search : Search Pattern :=
  Pattern.search Shell.operators

/-- The search for the operators of a chain. -/
abbrev Chain.search : Search Pattern :=
  Pattern.search (ChainOperator.all.map fun o => .literal o.symbol)

/-- The search for the bar of a pipeline. -/
abbrev Pipe.search : Search Pattern :=
  Pattern.search [Pipe.bar]

theorem Pipe.search_cons (p : Option Char) (c : Char) (rest : Text) :
    Pipe.search p (c :: rest) = if c = '|' then some (Pipe.bar, 1) else none := by
  by_cases h : c = '|'
  · simp [first, Pipe.bar, Pattern.matchLength?, h]
  · simp [first, Pipe.bar, Pattern.matchLength?, h, Ne.symm h]

/-- The operator of a chain that a character and the one after it start is what the search finds. -/
theorem Chain.search_cons (p : Option Char) (c : Char) (rest : Text) :
    Chain.search p (c :: rest) =
      (ChainOperator.starting? c rest.head?).map fun o => (.literal o.symbol, o.symbol.length) := by
  simp only [first, ChainOperator.all, List.map_cons, List.map_nil,
    List.findSome?_cons, List.findSome?_nil, Pattern.matchLength?, ChainOperator.symbol]
  cases rest with
  | nil =>
    by_cases h : c = ';'
    · subst h; rfl
    · simp [ChainOperator.starting?, h, Ne.symm h]
  | cons d rest =>
    by_cases hs : c = ';'
    · subst hs; rfl
    by_cases ha : c = '&'
    · subst ha
      by_cases hd : d = '&'
      · subst hd; rfl
      · simp [ChainOperator.starting?, hd, Ne.symm hd]
    by_cases ho : c = '|'
    · subst ho
      by_cases hd : d = '|'
      · subst hd; rfl
      · simp [ChainOperator.starting?, hd, Ne.symm hd]
    simp [ChainOperator.starting?, hs, ha, ho, Ne.symm hs, Ne.symm ha, Ne.symm ho]

/-- An operator is one of a chain, or else a bar. -/
theorem Shell.search_eq_or (p : Option Char) (s : Text) :
    Shell.search p s = (Chain.search p s).or (Pipe.search p s) := by
  have h : Shell.operators = (ChainOperator.all.map fun o => .literal o.symbol) ++ [Pipe.bar] := rfl
  unfold Shell.search Pattern.search
  rw [h]
  exact List.findSome?_append

theorem Shell.plain_search : Shell.search.Plain := by
  refine Pattern.plain_search fun p hp => ?_
  have hneutral : (["&&", "||", ";", "|"].all fun s =>
      s.toList.all fun c => decide (Reading.Neutral c)) = true := by decide
  obtain ⟨s, hs, rfl⟩ := List.mem_map.mp hp
  exact ⟨s.toList, rfl, Reading.forall_neutral (List.all_eq_true.mp hneutral s hs)⟩

theorem ChainOperator.neutral_symbol (o : ChainOperator) : ∀ c ∈ o.symbol, Reading.Neutral c :=
  Reading.forall_neutral (by cases o <;> decide)

theorem Chain.plain_search : Chain.search.Plain := by
  refine Pattern.plain_search fun p hp => ?_
  obtain ⟨o, -, rfl⟩ := List.mem_map.mp hp
  exact ⟨o.symbol, rfl, o.neutral_symbol⟩

theorem Pipe.plain_search : Pipe.search.Plain := by
  refine Pattern.plain_search fun p hp => ?_
  rw [List.mem_singleton.mp hp]
  exact ⟨_, rfl, Reading.forall_neutral (by decide)⟩

/-! ## Where operators match -/

theorem matchAt_pipe (r : Reading) (c : Char) (rest : Text) :
    matchAt Pipe.search r c rest = if (r.insideAfter c).isNone ∧ c = '|' then some 1 else none := by
  unfold matchAt
  rw [Pipe.search_cons]
  by_cases hin : (r.insideAfter c).isNone <;> by_cases hc : c = '|' <;> simp [hin, hc]

theorem matchAt_chain (r : Reading) (c : Char) (rest : Text) :
    matchAt Chain.search r c rest =
      if (r.insideAfter c).isNone then
        (ChainOperator.starting? c rest.head?).map fun o => o.symbol.length
      else none := by
  unfold matchAt
  rw [Chain.search_cons, Option.map_map]
  rfl

theorem matchAt_shell (r : Reading) (c : Char) (rest : Text) :
    matchAt Shell.search r c rest =
      (matchAt Chain.search r c rest).or (matchAt Pipe.search r c rest) := by
  unfold matchAt
  rw [Shell.search_eq_or]
  by_cases hin : (r.insideAfter c).isNone
  · simp only [hin, if_true]
    cases Chain.search r.previous (c :: rest) <;> rfl
  · simp [hin]

/-! ## Segments -/

/-- A segment of a chain is a kept piece of its text. -/
theorem map_command_segment? (text : Text) (o : Option ChainOperator) :
    (Chain.segment? text o).toList.map Segment.command = Text.kept [text] := by
  unfold Chain.segment?
  by_cases h : Text.trim text = [] <;> simp [Text.kept, h]

/-- The second character of an operator is passed over. -/
theorem segmentsFrom_after_operator {c : Char} {rest : Text} {o : ChainOperator}
    (h : ChainOperator.starting? c rest.head? = some o) (r : Reading) :
    Chain.segmentsFrom r (o != .andThen) [] rest =
      Chain.segmentsFrom (r.through (rest.take (o.symbol.length - 1))) false []
        (rest.drop (o.symbol.length - 1)) := by
  cases rest with
  | nil => cases o <;> rfl
  | cons d rest => cases o <;> rfl

/-- A match outside of quotes is an operator. -/
theorem exists_operator_of_match {r : Reading} {c : Char} {rest : Text} {n : Nat}
    (h : matchAt Chain.search r c rest = some n) :
    (r.insideAfter c).isNone ∧
      ∃ o, ChainOperator.starting? c rest.head? = some o ∧ o.symbol.length = n := by
  rw [matchAt_chain] at h
  split at h
  next hin => exact ⟨hin, Option.map_eq_some_iff.mp h⟩
  next => cases h

/-- An operator ends the segment that is open. -/
theorem segmentsFrom_cons_of_operator {r : Reading} {c : Char} {rest : Text} {o : ChainOperator}
    (hin : (r.insideAfter c).isNone) (ho : ChainOperator.starting? c rest.head? = some o)
    (current : Text) :
    Chain.segmentsFrom r false current (c :: rest) =
      (Chain.segment? current (some o)).toList ++
        Chain.segmentsFrom ((r.after c).through (rest.take (o.symbol.length - 1))) false []
          (rest.drop (o.symbol.length - 1)) := by
  rw [Chain.segmentsFrom]
  simp only [Bool.false_eq_true, if_false, hin, if_true, ho]
  rw [segmentsFrom_after_operator ho]

/-- Every other character goes to the segment that is open. -/
theorem segmentsFrom_cons_of_no_match {r : Reading} {c : Char} {rest : Text}
    (h : matchAt Chain.search r c rest = none) (current : Text) :
    Chain.segmentsFrom r false current (c :: rest) =
      Chain.segmentsFrom (r.after c) false (current ++ [c]) rest := by
  rw [matchAt_chain] at h
  have hnone : (if (r.insideAfter c).isNone then ChainOperator.starting? c rest.head? else none) =
      none := by
    split at h
    next hin => rw [if_pos hin]; exact Option.map_eq_none_iff.mp h
    next hin => rw [if_neg hin]
  rw [Chain.segmentsFrom]
  simp only [Bool.false_eq_true, if_false, hnone]

theorem map_command_segmentsFrom (r : Reading) (current s : Text) :
    (Chain.segmentsFrom r false current s).map Segment.command =
      Text.kept ((cut Chain.search r s).modifyHead (current ++ ·)) := by
  induction r, s using cut.induct Chain.search generalizing current with
  | case1 r =>
    rw [cut_nil, List.modifyHead_cons, List.append_nil]
    exact map_command_segment? current none
  | case2 r c rest n hm ih =>
    obtain ⟨hin, o, ho, rfl⟩ := exists_operator_of_match hm
    rw [cut_cons_of_match hm, segmentsFrom_cons_of_operator hin ho, List.map_append,
      List.modifyHead_cons, List.append_nil, map_command_segment?, ih [],
      show current :: cut Chain.search _ _ = [current] ++ cut Chain.search _ _ from rfl,
      Text.kept_append]
    congr 2
    exact congrFun List.modifyHead_id _
  | case3 r c rest hm ih =>
    rw [cut_cons_of_no_match hm, segmentsFrom_cons_of_no_match hm, ih (current ++ [c]),
      List.modifyHead_modifyHead]
    congr 2
    funext piece
    simp

/-- The segments of a line are its kept pieces between the operators of a chain. -/
theorem map_command_segments (line : Text) :
    (Chain.segments line).map Segment.command =
      Text.kept (cut Chain.search Reading.start line) := by
  unfold Chain.segments
  rw [map_command_segmentsFrom]
  congr 1
  exact congrFun List.modifyHead_id _

/-! ## Cutting in two steps -/

/-- Cutting at all operators is cutting at those of a chain and then each piece at the bars. -/
theorem cut_shell {r : Reading} {s piece : Text} {pieces : List Text}
    (h : cut Chain.search r s = piece :: pieces) :
    cut Shell.search r s =
      cut Pipe.search r piece ++ pieces.flatMap (cut Pipe.search Reading.start) := by
  induction r, s using cut.induct Chain.search generalizing piece pieces with
  | case1 r =>
    rw [cut_nil] at h
    cases h
    simp
  | case2 r c rest n hm ih =>
    rw [cut_cons_of_match hm] at h
    cases h
    have hshell : matchAt Shell.search r c rest = some n := by
      rw [matchAt_shell, hm]
      rfl
    obtain ⟨q, qs, hq⟩ := exists_cut_eq_cons Chain.search
      ((r.after c).through (rest.take (n - 1))) (rest.drop (n - 1))
    rw [cut_cons_of_match hshell, ih hq, hq, cut_nil, List.flatMap_cons,
      Pipe.plain_search.cut_congr (Chain.plain_search.agrees_after_match hm)]
    rfl
  | case3 r c rest hm ih =>
    obtain ⟨q, qs, hq⟩ := exists_cut_eq_cons Chain.search (r.after c) rest
    rw [cut_cons_of_no_match hm, hq] at h
    cases h
    have hshell : matchAt Shell.search r c rest = matchAt Pipe.search r c q := by
      rw [matchAt_shell, hm, matchAt_pipe, matchAt_pipe]
      rfl
    by_cases hbar : (r.insideAfter c).isNone ∧ c = '|'
    · have hpipe : matchAt Pipe.search r c q = some 1 := by rw [matchAt_pipe, if_pos hbar]
      rw [cut_cons_of_match (hshell.trans hpipe), cut_cons_of_match hpipe]
      simpa using ih hq
    · have hpipe : matchAt Pipe.search r c q = none := by rw [matchAt_pipe, if_neg hbar]
      rw [cut_cons_of_no_match (hshell.trans hpipe), cut_cons_of_no_match hpipe, ih hq]
      obtain ⟨x, xs, hx⟩ := exists_cut_eq_cons Pipe.search (r.after c) q
      rw [hx]
      rfl

/-! ## Stages of a trimmed text -/

theorem matchAt_pipe_of_blank {c : Char} (hc : isBlank c = true) (r : Reading) (rest : Text) :
    matchAt Pipe.search r c rest = none := by
  rw [matchAt_pipe, if_neg]
  rintro ⟨-, rfl⟩
  exact absurd hc (by decide)

theorem cut_pipe_of_allBlank {w : Text} (hw : Text.AllBlank w) (r : Reading) :
    cut Pipe.search r w = [w] := by
  induction w generalizing r with
  | nil => exact cut_nil r
  | cons c w ih =>
    obtain ⟨hc, hw⟩ := Text.allBlank_cons.mp hw
    rw [cut_cons_of_no_match (matchAt_pipe_of_blank hc r w), ih hw]
    rfl

theorem kept_cut_pipe_blanks_append {w : Text} (hw : Text.AllBlank w) {r : Reading}
    (hr : r.Agrees Reading.start) (s : Text) :
    Text.kept (cut Pipe.search r (w ++ s)) = Text.kept (cut Pipe.search Reading.start s) := by
  induction w generalizing r with
  | nil => rw [List.nil_append, Pipe.plain_search.cut_congr hr]
  | cons c w ih =>
    obtain ⟨hc, hw⟩ := Text.allBlank_cons.mp hw
    have hblank : Text.AllBlank [c] := Text.allBlank_cons.mpr ⟨hc, Text.allBlank_nil⟩
    obtain ⟨x, xs, hx⟩ := exists_cut_eq_cons Pipe.search (r.after c) (w ++ s)
    have hrest := ih hw (Reading.agrees_start_after (Reading.neutral_of_blank hc) hr.inside)
    rw [List.cons_append, cut_cons_of_no_match (matchAt_pipe_of_blank hc r _), hx, ← hrest, hx,
      List.modifyHead_cons, Text.kept_cons, Text.kept_cons, show c :: x = [c] ++ x from rfl,
      Text.trim_blanks_append hblank]

/-- Blanks at the end of a text go to its last piece. -/
theorem cut_pipe_append_blanks {w : Text} (hw : Text.AllBlank w) (r : Reading) (s : Text) :
    ∃ pieces last, cut Pipe.search r s = pieces ++ [last] ∧
      cut Pipe.search r (s ++ w) = pieces ++ [last ++ w] := by
  induction s generalizing r with
  | nil => exact ⟨[], [], cut_nil r, cut_pipe_of_allBlank hw r⟩
  | cons c s ih =>
    obtain ⟨pieces, last, hs, hsw⟩ := ih (r.after c)
    by_cases hbar : (r.insideAfter c).isNone ∧ c = '|'
    · have hm : ∀ rest, matchAt Pipe.search r c rest = some 1 := fun rest => by
        rw [matchAt_pipe, if_pos hbar]
      refine ⟨[] :: pieces, last, ?_, ?_⟩
      · rw [cut_cons_of_match (hm s)]
        simp [hs]
      · rw [List.cons_append, cut_cons_of_match (hm (s ++ w))]
        simp [hsw]
    · have hm : ∀ rest, matchAt Pipe.search r c rest = none := fun rest => by
        rw [matchAt_pipe, if_neg hbar]
      rw [List.cons_append, cut_cons_of_no_match (hm s), cut_cons_of_no_match (hm (s ++ w)), hs, hsw]
      cases pieces with
      | nil => exact ⟨[], c :: last, rfl, rfl⟩
      | cons p ps => exact ⟨(c :: p) :: ps, last, rfl, rfl⟩

/-- The stages of a text are those of its trimmed form. -/
theorem stages_trim (s : Text) :
    Pipe.stages (Text.trim s) = Text.kept (cut Pipe.search Reading.start s) := by
  obtain ⟨w, v, hw, hv, hs⟩ := Text.exists_eq_trim s
  obtain ⟨pieces, last, hcut, hcutv⟩ := cut_pipe_append_blanks hv Reading.start (w ++ Text.trim s)
  have hlast : Text.kept [last ++ v] = Text.kept [last] := by
    rw [Text.kept_cons, Text.kept_cons, Text.trim_append_blanks hv]
  calc Pipe.stages (Text.trim s)
      = Text.kept (cut Pipe.search Reading.start (Text.trim s)) := Pattern.split_eq_kept _ _
    _ = Text.kept (cut Pipe.search Reading.start (w ++ Text.trim s)) :=
        (kept_cut_pipe_blanks_append hw (Reading.Agrees.refl _) _).symm
    _ = Text.kept (cut Pipe.search Reading.start (w ++ Text.trim s ++ v)) := by
        rw [hcut, hcutv, Text.kept_append, Text.kept_append, hlast]
    _ = Text.kept (cut Pipe.search Reading.start s) := by rw [← hs]

/-- A blank piece has no stages, so dropping the blank segments loses none. -/
theorem flatMap_stages_kept (pieces : List Text) :
    (Text.kept pieces).flatMap Pipe.stages =
      Text.kept (pieces.flatMap (cut Pipe.search Reading.start)) := by
  induction pieces with
  | nil => rfl
  | cons p ps ih =>
    rw [Text.kept_cons, List.flatMap_append, ih, List.flatMap_cons, Text.kept_append, ← stages_trim]
    split
    next h => rw [h]; rfl
    next => rw [List.flatMap_cons, List.flatMap_nil, List.append_nil]

/-- The stages of all segments of a line are its kept pieces between all operators. -/
theorem flatMap_stages_segments (line : Text) :
    (Chain.segments line).flatMap (fun segment => Pipe.stages segment.command) =
      Text.kept (cut Shell.search Reading.start line) := by
  obtain ⟨piece, pieces, hcut⟩ := exists_cut_eq_cons Chain.search Reading.start line
  calc (Chain.segments line).flatMap (fun segment => Pipe.stages segment.command)
      = ((Chain.segments line).map Segment.command).flatMap Pipe.stages := by
        rw [List.flatMap_map]
    _ = Text.kept ((piece :: pieces).flatMap (cut Pipe.search Reading.start)) := by
        rw [map_command_segments, flatMap_stages_kept, hcut]
    _ = Text.kept (cut Shell.search Reading.start line) := by
        rw [cut_shell hcut, List.flatMap_cons]

/-! ## The two ways agree -/

/-- The slices of a line between its operators. -/
def Shell.slices (line : Text) : List Text :=
  between line 0 (Pattern.hits Shell.operators line)

theorem Shell.slices_eq_cut (line : Text) :
    Shell.slices line = cut Shell.search Reading.start line :=
  Pattern.between_hits Shell.operators line

/-- The trimmed pieces of a line between its operators, blank ones dropped. -/
def Shell.pieces (line : Text) : List Text :=
  Text.kept (Shell.slices line)

theorem Shell.pieces_eq_kept_cut (line : Text) :
    Shell.pieces line = Text.kept (cut Shell.search Reading.start line) := by
  unfold Shell.pieces
  rw [Shell.slices_eq_cut]

theorem Shell.exists_of_mem_pieces {line piece : Text} (h : piece ∈ Shell.pieces line) :
    ∃ p ∈ cut Shell.search Reading.start line, piece = Text.trim p := by
  rw [Shell.pieces_eq_kept_cut] at h
  obtain ⟨hmem, -⟩ := List.mem_filter.mp h
  obtain ⟨p, hp, rfl⟩ := List.mem_map.mp hmem
  exact ⟨p, hp, rfl⟩

/-- Of the pieces but the last one, each is a piece that an operator follows. -/
theorem Shell.exists_of_mem_dropLast_pieces {line piece : Text}
    (h : piece ∈ (Shell.pieces line).dropLast) :
    ∃ p ∈ (cut Shell.search Reading.start line).dropLast, piece = Text.trim p := by
  have hne : cut Shell.search Reading.start line ≠ [] := cut_ne_nil _ _
  rw [Shell.pieces_eq_kept_cut, ← List.dropLast_concat_getLast hne, Text.kept_append] at h
  have hkept : piece ∈ Text.kept (cut Shell.search Reading.start line).dropLast := by
    rw [Text.kept_cons] at h
    split at h
    · exact List.dropLast_subset _ (by simpa using h)
    · simpa using h
  obtain ⟨hmem, -⟩ := List.mem_filter.mp hkept
  obtain ⟨p, hp, rfl⟩ := List.mem_map.mp hmem
  exact ⟨p, hp, rfl⟩

/-- Cutting a line at once at all operators gives the pieces that running it cuts it into: the
stages of its segments. A piece read on its own holds no operator, and each but the last one closes
its quotes. -/
theorem pieces_eq_stages_of_segments (line : Text) :
    Shell.pieces line =
        (Chain.segments line).flatMap (fun segment => Pipe.stages segment.command) ∧
      (∀ piece ∈ Shell.pieces line, Pattern.hits Shell.operators piece = []) ∧
      ∀ piece ∈ (Shell.pieces line).dropLast, piece.hasUnmatchedQuotes = false := by
  refine ⟨?_, ?_, ?_⟩
  · rw [Shell.pieces_eq_kept_cut, flatMap_stages_segments]
  · intro piece h
    obtain ⟨p, hp, rfl⟩ := Shell.exists_of_mem_pieces h
    have hcut := Shell.plain_search.cut_of_mem_cut (Reading.Agrees.refl _) rfl p hp
    exact Pattern.hits_eq_nil_of_cut (Shell.plain_search.cut_trim hcut)
  · intro piece h
    obtain ⟨p, hp, rfl⟩ := Shell.exists_of_mem_dropLast_pieces h
    rw [Text.hasUnmatchedQuotes_trim]
    unfold Text.hasUnmatchedQuotes
    rw [Shell.plain_search.inside_of_mem_dropLast_cut (Reading.Agrees.refl _) rfl p hp]
    rfl

end VirtualTerminal
