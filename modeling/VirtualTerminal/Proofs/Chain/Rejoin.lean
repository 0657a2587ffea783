import VirtualTerminal.Proofs.Chain.Segmentation

/-!
# Writing segments back

The segments of a line are its pieces between the operators that the search for them finds, each with the
operator after it (`segments_eq_kept`). So each is trimmed, holds no operator, and closes its quotes if
an operator follows it (`Segment.Settled`), and a line that such segments are written to is cut into them
again (`segments_written`).
-/

namespace VirtualTerminal

open Hit

/-! ## Segments as pieces of the line -/

namespace Chain

/-- The patterns of the operators of a chain. -/
abbrev patterns : List Pattern :=
  ChainOperator.all.map fun o => .literal o.symbol

/-- The operator that a pattern finds. -/
def operatorOf? : Pattern → Option ChainOperator
  | .literal text => ChainOperator.ofSymbol? text
  | .regex _ => none

/-- The pieces of a text from a position on, between the matches of a search, each with the operator that
the match after it found. -/
def piecesFrom (s : Text) (start : Nat) : List (Hit Pattern) → List Segment
  | [] => [⟨Text.slice s start s.length, none⟩]
  | h :: rest => ⟨Text.slice s start h.start, operatorOf? h.pattern⟩ :: piecesFrom s h.stop rest

/-- The pieces of a line between its operators, each with the operator after it. -/
def pieces (line : Text) : List Segment :=
  piecesFrom line 0 (Pattern.hits patterns line)

/-- The trimmed pieces; blank ones are dropped together with the operators after them. -/
def kept (pieces : List Segment) : List Segment :=
  (pieces.map fun p => ⟨Text.trim p.command, p.operator⟩).filter (·.command ≠ [])

@[simp] theorem kept_nil : kept [] = [] := rfl

theorem kept_append (ps qs : List Segment) : kept (ps ++ qs) = kept ps ++ kept qs := by
  unfold kept
  rw [List.map_append, List.filter_append]

theorem kept_cons (p : Segment) (ps : List Segment) :
    kept (p :: ps) = (segment? p.command p.operator).toList ++ kept ps := by
  unfold kept segment?
  by_cases h : Text.trim p.command = [] <;> simp [h]

/-- The text of the pieces is what lies between the matches. -/
theorem map_command_piecesFrom (s : Text) (start : Nat) (hs : List (Hit Pattern)) :
    (piecesFrom s start hs).map Segment.command = Pattern.piecesFrom s false start hs := by
  induction hs generalizing start with
  | nil => rfl
  | cons h hs ih => simp [piecesFrom, Pattern.piecesFrom, ih]

theorem map_command_pieces (line : Text) :
    (pieces line).map Segment.command = cut search Reading.start line :=
  (map_command_piecesFrom line 0 _).trans (Pattern.piecesFrom_hits _ line)

theorem ofSymbol?_symbol (o : ChainOperator) : ChainOperator.ofSymbol? o.symbol = some o := by
  cases o <;> rfl

/-- Every match found an operator, so one follows each piece but the last. -/
theorem exists_pieces_eq_concat (line : Text) :
    ∃ front last, pieces line = front ++ [⟨last, none⟩] ∧ ∀ p ∈ front, p.operator.isSome := by
  have hall : ∀ (hs : List (Hit Pattern)) (start : Nat), (∀ h ∈ hs, h.pattern ∈ patterns) →
      ∃ front last, piecesFrom line start hs = front ++ [⟨last, none⟩] ∧
        ∀ p ∈ front, p.operator.isSome := by
    intro hs
    induction hs with
    | nil => exact fun start _ => ⟨[], _, rfl, nofun⟩
    | cons h hs ih =>
      intro start hpatterns
      obtain ⟨hh, hhs⟩ := List.forall_mem_cons.mp hpatterns
      obtain ⟨o, -, ho⟩ := List.mem_map.mp hh
      obtain ⟨front, last, hrest, hfront⟩ := ih h.stop hhs
      refine ⟨_ :: front, last, by rw [piecesFrom, hrest]; rfl, ?_⟩
      refine List.forall_mem_cons.mpr ⟨?_, hfront⟩
      rw [← ho]
      exact Option.isSome_of_mem (ofSymbol?_symbol o)
  exact hall _ 0 fun h hmem => pattern_mem_of_mem_allFrom hmem

/-- The match of an operator that a character starts outside of quotes. -/
theorem allFrom_of_operator {r : Reading} {c : Char} {rest : Text} {o : ChainOperator}
    (hin : (r.insideAfter c).isNone) (ho : ChainOperator.starting? c rest.head? = some o)
    (position : Nat) :
    allFrom search r position 0 (c :: rest) =
      ⟨.literal o.symbol, position, o.symbol.length⟩ ::
        allFrom search (r.after c) (position + 1) (o.symbol.length - 1) rest := by
  rw [allFrom]
  simp only [hin, and_self, if_true, search_cons, ho, Option.map_some]

/-- The segments of what follows a position are the kept pieces from where the segment that is open there
has begun. -/
theorem segmentsFrom_slice (s : Text) (r : Reading) (rest : Text) :
    ∀ start position : Nat, s.drop position = rest → start ≤ position → position ≤ s.length →
      segmentsFrom r false (Text.slice s start position) rest =
        kept (piecesFrom s start (allFrom search r position 0 rest)) := by
  -- the induction follows the search, which passes over a whole operator at once
  induction r, rest using cut.induct search with
  | case1 r =>
    intro start position hs hle hlen
    have hend : position = s.length := by
      have := List.drop_eq_nil_iff.mp hs
      omega
    rw [segmentsFrom, allFrom, piecesFrom, kept_cons, hend]
    exact (List.append_nil _).symm
  | case2 r c rest n hm ih =>
    intro start position hs hle hlen
    have hbound := matchAt_bounds (Pattern.search_bounded _) hm
    have hlength : (s.drop position).length = rest.length + 1 := by rw [hs]; rfl
    rw [List.length_drop] at hlength
    obtain ⟨hin, o, ho, rfl⟩ := exists_operator_of_match hm
    have hnext : s.drop (position + o.symbol.length) = rest.drop (o.symbol.length - 1) := by
      rw [← drop_succ_of_drop_eq_cons hs, List.drop_drop]
      congr 1
      omega
    have hih := ih _ _ hnext (Nat.le_refl _) (by omega)
    rw [slice_eq_nil (Nat.le_refl _)] at hih
    rw [segmentsFrom_cons_of_operator hin ho, hih, allFrom_of_operator hin ho,
      allFrom_skip search (r.after c) (position + 1) (o.symbol.length - 1) rest (by omega),
      show position + 1 + (o.symbol.length - 1) = position + o.symbol.length by omega, piecesFrom,
      kept_cons, operatorOf?, ofSymbol?_symbol]
    rfl
  | case3 r c rest hm ih =>
    intro start position hs hle hlen
    have hlt : position < s.length := by
      by_contra hge
      rw [List.drop_eq_nil_of_le (by omega)] at hs
      cases hs
    rw [allFrom_cons_of_no_match hm, segmentsFrom_cons_of_no_match hm,
      ← ih start (position + 1) (drop_succ_of_drop_eq_cons hs) (by omega) (by omega),
      slice_succ hs hle]

/-- The segments of a line are its pieces between the operators, trimmed, blank ones dropped together with
the operators after them. -/
theorem segments_eq_kept (line : Text) : segments line = kept (pieces line) := by
  have h := segmentsFrom_slice line Reading.start line 0 0 rfl (Nat.le_refl _) (Nat.zero_le _)
  rwa [slice_eq_nil (Nat.le_refl _)] at h

/-- Of the segments only the last one can lack an operator. -/
theorem isSome_of_mem_dropLast_segments {line : Text} {seg : Segment}
    (h : seg ∈ (segments line).dropLast) : seg.operator.isSome := by
  obtain ⟨front, last, hpieces, hfront⟩ := exists_pieces_eq_concat line
  have hmem : seg ∈ kept front := by
    rw [segments_eq_kept, hpieces, kept_append, kept_cons] at h
    cases hlast : segment? last none with
    | none =>
      simp only [hlast, Option.toList_none, kept_nil, List.append_nil] at h
      exact List.dropLast_subset _ h
    | some seg => simpa only [hlast, Option.toList_some, kept_nil, List.append_nil,
        List.dropLast_concat] using h
  obtain ⟨p, hp, rfl⟩ := List.mem_map.mp (List.mem_of_mem_filter hmem)
  exact hfront p hp

end Chain

/-! ## Segments as they stand -/

/-- Whether a segment is cut out as it stands, wherever it is written: it is trimmed and holds no operator,
and an operator after it is outside of quotes. -/
structure Segment.Settled (seg : Segment) : Prop where
  trimmed : Text.trim seg.command = seg.command
  ne_nil : seg.command ≠ []
  uncut : cut Chain.search Reading.start seg.command = [seg.command]
  closed : seg.operator.isSome → (Reading.start.through seg.command).inside = none

theorem Chain.settled_of_mem_segments {line : Text} {seg : Segment}
    (h : seg ∈ Chain.segments line) : seg.Settled := by
  rw [segments_eq_kept] at h
  obtain ⟨hmem, hne⟩ := List.mem_filter.mp h
  obtain ⟨p, hp, rfl⟩ := List.mem_map.mp hmem
  have hcut : p.command ∈ cut search Reading.start line := by
    rw [← map_command_pieces]
    exact List.mem_map_of_mem hp
  refine ⟨Text.trim_trim _, of_decide_eq_true hne, ?_, fun hsome => ?_⟩
  · exact plain_search.cut_trim (plain_search.cut_of_mem_cut (Reading.Agrees.refl _) rfl _ hcut)
  · obtain ⟨front, last, hpieces, -⟩ := exists_pieces_eq_concat line
    have hfront : p ∈ front := by
      rw [hpieces] at hp
      rcases List.mem_append.mp hp with hp | hp
      · exact hp
      · rw [List.mem_singleton.mp hp] at hsome
        cases hsome
    have hdropLast : p.command ∈ (cut search Reading.start line).dropLast := by
      rw [← map_command_pieces, hpieces, List.map_append, List.map_singleton, List.dropLast_concat]
      exact List.mem_map_of_mem hfront
    have hclosed := plain_search.inside_of_mem_dropLast_cut (Reading.Agrees.refl _) rfl _ hdropLast
    have htrim := Text.hasUnmatchedQuotes_trim p.command
    unfold Text.hasUnmatchedQuotes at htrim
    rw [hclosed] at htrim
    exact Option.not_isSome_iff_eq_none.mp (Bool.eq_false_iff.mp htrim)

theorem Segment.Settled.hits_eq_nil {seg : Segment} (h : seg.Settled) :
    Pattern.hits Chain.patterns seg.command = [] :=
  Pattern.hits_eq_nil_of_cut h.uncut

theorem Segment.Settled.isPresent_eq_false {seg : Segment} (h : seg.Settled) :
    Chain.isPresent seg.command = false := by
  unfold Chain.isPresent
  rw [h.hits_eq_nil]
  rfl

theorem Segment.Settled.segments_eq {seg : Segment} (h : seg.Settled) :
    Chain.segments seg.command = [⟨seg.command, none⟩] := by
  have hslice : Text.slice seg.command 0 seg.command.length = seg.command := by
    simp [Text.slice]
  rw [Chain.segments_eq_kept, Chain.pieces, h.hits_eq_nil, Chain.piecesFrom, hslice, Chain.kept]
  simp [h.trimmed, h.ne_nil]

/-! ## Lines that segments are written to -/

/-- A segment as it is written: the command and the operator, with a space after each. -/
def Segment.written (seg : Segment) : Text :=
  seg.command ++ ' ' :: (seg.operator.elim [] ChainOperator.symbol ++ [' '])

/-- The line that segments are written to. -/
def Chain.written (segs : List Segment) : Text :=
  segs.flatMap Segment.written

namespace Chain

variable {r : Reading} {current u : Text}

/-- A space in what follows a text makes no operator of its last character. -/
theorem starting?_append_space (c : Char) (x u : Text) :
    ChainOperator.starting? c (x ++ ' ' :: u).head? = ChainOperator.starting? c x.head? := by
  cases x with
  | nil => simp [ChainOperator.starting?]
  | cons d x => rfl

/-- A text that holds no operator is read into the segment that is open. -/
theorem segmentsFrom_append {x : Text} (h : cut search r x = [x]) :
    segmentsFrom r false current (x ++ ' ' :: u) =
      segmentsFrom (r.through x) false (current ++ x) (' ' :: u) := by
  induction x generalizing r current with
  | nil => simp
  | cons c x ih =>
    obtain ⟨hm, hx⟩ := Search.Plain.cut_cons_eq_singleton_iff.mp h
    have hspace : matchAt search r c (x ++ ' ' :: u) = none := by
      rwa [matchAt_chain, starting?_append_space, ← matchAt_chain]
    rw [List.cons_append, segmentsFrom_cons_of_no_match hspace, ih hx, List.append_assoc]
    rfl

/-- So is a space. -/
theorem segmentsFrom_space :
    segmentsFrom r false current (' ' :: u) =
      segmentsFrom (r.after ' ') false (current ++ [' ']) u := by
  refine segmentsFrom_cons_of_no_match ?_ current
  rw [matchAt_chain, show ChainOperator.starting? ' ' u.head? = none by simp [ChainOperator.starting?]]
  exact ite_self _

/-- An operator outside of quotes ends the segment that is open. -/
theorem segmentsFrom_operator (o : ChainOperator) (hr : r.inside = none) :
    segmentsFrom r false current (o.symbol ++ u) =
      (segment? current (some o)).toList ++ segmentsFrom (r.through o.symbol) false [] u := by
  cases o <;>
    simp [ChainOperator.symbol, segmentsFrom, Reading.insideAfter, Quote.ofChar?, hr,
      ChainOperator.starting?]

/-- Blanks around a settled command do not change its segment. -/
theorem segment?_blanks {seg : Segment} (h : seg.Settled) {w v : Text} (hw : Text.AllBlank w)
    (hv : Text.AllBlank v) :
    segment? (w ++ seg.command ++ v) seg.operator = some seg := by
  unfold segment?
  rw [Text.trim_append_blanks hv, Text.trim_blanks_append hw, h.trimmed, if_neg h.ne_nil]

section Written

variable {command w : Text} {o : ChainOperator} {segs : List Segment}

theorem allBlank_space : Text.AllBlank [' '] :=
  Text.allBlank_cons.mpr ⟨rfl, Text.allBlank_nil⟩

/-- A segment with an operator is read off the start of a line, and what follows it is read from a fresh
start. -/
theorem exists_segmentsFrom_written (h : Segment.Settled ⟨command, some o⟩)
    (hr : r.Agrees Reading.start) (hw : Text.AllBlank w) (u : Text) :
    ∃ t : Reading, t.Agrees Reading.start ∧
      segmentsFrom r false w (Segment.written ⟨command, some o⟩ ++ u) =
        ⟨command, some o⟩ :: segmentsFrom t false [' '] u := by
  have huncut : cut search r command = [command] := (plain_search.cut_congr hr _).trans h.uncut
  have hinside : ((r.through command).after ' ').inside = none :=
    ((hr.through command).inside).trans (h.closed rfl)
  have hsymbol : (((r.through command).after ' ').through o.symbol).inside = none := by
    rw [Reading.inside_through_of_neutral o.neutral_symbol, hinside]
  have hline : Segment.written ⟨command, some o⟩ ++ u = command ++ ' ' :: (o.symbol ++ ' ' :: u) := by
    simp [Segment.written]
  have hspace : Reading.Neutral ' ' := Reading.neutral_of_blank rfl
  refine ⟨_, Reading.agrees_start_after hspace hsymbol, ?_⟩
  rw [hline, segmentsFrom_append huncut, segmentsFrom_space, segmentsFrom_operator o hinside,
    segmentsFrom_space, segment?_blanks h hw allBlank_space]
  rfl

theorem segmentsFrom_written_last (h : Segment.Settled ⟨command, none⟩)
    (hr : r.Agrees Reading.start) (hw : Text.AllBlank w) :
    segmentsFrom r false w (Segment.written ⟨command, none⟩) = [⟨command, none⟩] := by
  have huncut : cut search r command = [command] := (plain_search.cut_congr hr _).trans h.uncut
  have hline : Segment.written ⟨command, none⟩ = command ++ ' ' :: [' '] := by
    simp [Segment.written]
  have hblanks : Text.AllBlank [' ', ' '] := Text.allBlank_cons.mpr ⟨rfl, allBlank_space⟩
  rw [hline, segmentsFrom_append huncut, segmentsFrom_space, segmentsFrom_space, segmentsFrom,
    List.append_assoc, List.singleton_append]
  rw [segment?_blanks h hw hblanks]
  rfl

/-- Settled segments, of which only the last one may lack an operator, are read back from the line that
they are written to. -/
theorem segmentsFrom_written (hsettled : ∀ seg ∈ segs, seg.Settled)
    (hoperator : ∀ seg ∈ segs.dropLast, seg.operator.isSome) (hr : r.Agrees Reading.start)
    (hw : Text.AllBlank w) : segmentsFrom r false w (written segs) = segs := by
  -- after an operator the reading agrees with a fresh one, and only the space after it is open
  induction segs generalizing r w with
  | nil =>
    show (segment? w none).toList = []
    have htrim : Text.trim w = [] := by
      rw [← List.append_nil w, Text.trim_blanks_append hw]
      rfl
    simp [segment?, htrim]
  | cons seg segs ih =>
    obtain ⟨hseg, hsegs⟩ := List.forall_mem_cons.mp hsettled
    by_cases hlast : segs = []
    · subst hlast
      obtain ⟨command, _ | o⟩ := seg
      · exact (congrArg _ (List.append_nil _)).trans (segmentsFrom_written_last hseg hr hw)
      · obtain ⟨t, ht, hread⟩ := exists_segmentsFrom_written hseg hr hw (written [])
        exact hread.trans (congrArg _ (ih hsegs nofun ht allBlank_space))
    · rw [List.dropLast_cons_of_ne_nil hlast] at hoperator
      obtain ⟨hsome, hrest⟩ := List.forall_mem_cons.mp hoperator
      obtain ⟨command, _ | o⟩ := seg
      · cases hsome
      · obtain ⟨t, ht, hread⟩ := exists_segmentsFrom_written hseg hr hw (written segs)
        exact hread.trans (congrArg _ (ih hsegs hrest ht allBlank_space))

end Written

/-- The segments of a line are settled pieces of it, of which only the last one can lack an operator, and
the line they are written to has the same segments. -/
theorem segments_written (line : Text) :
    let segs := segments line
    (∀ seg ∈ segs, Text.trim seg.command = seg.command ∧ seg.command ≠ [] ∧
        isPresent seg.command = false ∧ segments seg.command = [⟨seg.command, none⟩]) ∧
      (∀ seg ∈ segs.dropLast, seg.operator.isSome) ∧
        segments (written segs) = segs ∧ segs = kept (pieces line) := by
  intro segs
  have hsettled : ∀ seg ∈ segs, seg.Settled := fun seg => settled_of_mem_segments
  have hoperator : ∀ seg ∈ segs.dropLast, seg.operator.isSome := fun seg =>
    isSome_of_mem_dropLast_segments
  refine ⟨fun seg hseg => ?_, hoperator, ?_, segments_eq_kept line⟩
  · have h := hsettled seg hseg
    exact ⟨h.trimmed, h.ne_nil, h.isPresent_eq_false, h.segments_eq⟩
  · exact segmentsFrom_written hsettled hoperator (Reading.Agrees.refl _) Text.allBlank_nil

/-- A run of bars, a blank piece, an operator in quotes and a quote that is never closed. -/
example : segments "a ||| b; ;'c && d' && \"e".toList =
      [⟨"a".toList, some .or⟩, ⟨"| b".toList, some .andThen⟩, ⟨"'c && d'".toList, some .and⟩,
        ⟨"\"e".toList, none⟩] ∧
    written (segments "a ||| b; ;'c && d' && \"e".toList) =
      "a || | b ; 'c && d' && \"e  ".toList := by
  decide

end Chain

end VirtualTerminal
