import VirtualTerminal.Proofs.Shell.Operators
import VirtualTerminal.Proofs.Text.Lowercase

/-!
# Aliases between operators

An alias is plain if its name holds no quote and what it stands for is not blank and holds neither a quote
nor a character of an operator. Replacing the first words of the pieces of a line by plain aliases leaves
the operators between the pieces where they are: no operator starts in a replacement or where it meets
the text around it, and all that was not replaced is read as before (`Replaces`). By `cut_weave_map` that
is enough to cut the new line into the replaced pieces.
-/

namespace VirtualTerminal.Shell

open Hit Reading

variable {r t : Reading} {piece next next' : Text}

/-! ## Texts in the place of pieces -/

/-- Whether a text starts like another one, or with a character of no operator. -/
def Joins (s t : Text) : Prop :=
  s.head? = t.head? ∨ ∃ c, s.head? = some c ∧ c ∉ operatorChars

/-- Whether a text may stand in the place of a piece. -/
structure Replaces (piece piece' : Text) : Prop where
  joins : piece' = piece ∨ ∃ c rest, piece' = c :: rest ∧ c ∉ operatorChars
  free : ∀ (r : Reading) next next', r.inside = none → next.head? = next'.head? →
    Free search r piece next → Free search r piece' next'
  inside : ∀ r : Reading, r.inside = none → (r.through piece').inside = (r.through piece).inside

theorem Replaces.refl (piece : Text) : Replaces piece piece where
  joins := .inl rfl
  free _ _ _ _ hhead hfree := free_congr (.refl _) hhead hfree
  inside _ _ := rfl

theorem Replaces.joins_append {piece' : Text} (h : Replaces piece piece') (c : Char) (s t : Text) :
    Joins (piece' ++ c :: s) (piece ++ c :: t) := by
  rcases h.joins with rfl | ⟨d, rest, rfl, hd⟩
  · left
    rw [List.head?_append, List.head?_append]
    rfl
  · exact .inr ⟨d, rfl, hd⟩

/-- The operator after a piece is found after what stands in the place of the piece, also if what follows
it has changed. -/
theorem matchAt_of_joins {c : Char} {tail : Text} (hinside : t.inside = r.inside)
    (hjoins : Joins next' next)
    (hm : matchAt search r c (tail ++ next) = some (tail.length + 1)) :
    matchAt search t c (tail ++ next') = some (tail.length + 1) := by
  rw [matchAt_search] at hm ⊢
  split at hm
  next hin =>
    have hc : c ∈ operatorChars := by
      by_contra hc
      rw [operatorLength?_of_not_mem hc] at hm
      cases hm
    have hquote := not_quote_of_mem_operatorChars hc
    rw [insideAfter_of_not_quote hquote] at hin ⊢
    rw [hinside, if_pos hin]
    cases tail with
    | cons d tail => exact hm
    | nil =>
      rcases hjoins with hhead | ⟨d, hhead, hd⟩
      · rwa [List.nil_append, hhead]
      · rw [List.nil_append, hhead]
        exact operatorLength?_eq_one hm hd
  next => cases hm

/-- A line in whose pieces others stand has the same operators between them. This is shown from the last
piece on, as what follows an operator tells how long it is. -/
theorem cut_weave_map {f : Text → Text} (hf : ∀ piece, Replaces piece (f piece)) (r : Reading)
    (hr : Agrees r start) (line : Text) :
    let woven := weave ((cut search r line).map f) (marks search r line)
    Joins woven line ∧ cut search r woven = (cut search r line).map f ∧
      marks search r woven = marks search r line := by
  induction r, line using induction_on_pieces plain_search.bounded with
  | last r piece hfree =>
    have hfree' := (hf piece).free r [] [] hr.inside rfl hfree
    rw [hfree.cut_eq, hfree.marks_eq, List.map_singleton, weave_singleton]
    refine ⟨?_, hfree'.cut_eq, hfree'.marks_eq⟩
    rcases (hf piece).joins with heq | ⟨c, rest, heq, hc⟩
    · exact .inl (by rw [heq])
    · exact .inr ⟨c, by rw [heq]; rfl, hc⟩
  | cons r piece c tail next hfree hm ih =>
    have hreplaces := hf piece
    have hagrees : Agrees (r.through (piece ++ c :: tail)) start := by
      rw [through_append]
      exact plain_search.agrees_through_match hm
    obtain ⟨hjoins, hcut, hmarks⟩ := ih hagrees
    rw [hfree.cut_eq_cons hm, hfree.marks_eq_cons hm, List.map_cons, weave_cons, List.cons_append]
    generalize weave _ _ = woven at hjoins hcut hmarks ⊢
    have hfree' := hreplaces.free r _ (c :: (tail ++ woven)) hr.inside (by rfl) hfree
    have hm' := matchAt_of_joins (hreplaces.inside r hr.inside) hjoins hm
    have hagrees' : Agrees (r.through (f piece ++ c :: tail)) (r.through (piece ++ c :: tail)) := by
      rw [through_append]
      exact (plain_search.agrees_through_match hm').trans hagrees.symm
    refine ⟨hreplaces.joins_append c _ _, ?_, ?_⟩
    · rw [hfree'.cut_eq_cons hm', plain_search.cut_congr hagrees', hcut]
    · rw [hfree'.marks_eq_cons hm', plain_search.marks_congr hagrees', hmarks]

/-! ## Plain aliases -/

/-- Whether an alias neither quotes nor separates. A name may hold blanks, as no word is looked up under
such a name. -/
structure PlainAlias (name expansion : Text) : Prop where
  name_ne_nil : name ≠ []
  name_not_quote : ∀ c ∈ name, Quote.ofChar? c = none
  not_blank : ¬ Text.AllBlank expansion
  not_quote : ∀ c ∈ expansion, Quote.ofChar? c = none
  not_operator : ∀ c ∈ expansion, c ∉ operatorChars

theorem plainAlias_iff {name expansion : Text} : PlainAlias name expansion ↔
    name ≠ [] ∧ (name.all fun c => (Quote.ofChar? c).isNone) ∧ ¬ Text.AllBlank expansion ∧
      expansion.all fun c => (Quote.ofChar? c).isNone && c ∉ operatorChars := by
  simp only [List.all_eq_true, Bool.and_eq_true, Option.isNone_iff_eq_none, decide_eq_true_eq,
    forall_and]
  exact ⟨fun ⟨hne, hname, hblank, hquote, hoperator⟩ => ⟨hne, hname, hblank, hquote, hoperator⟩,
    fun ⟨hne, hname, hblank, hquote, hoperator⟩ => ⟨hne, hname, hblank, hquote, hoperator⟩⟩

instance (name expansion : Text) : Decidable (PlainAlias name expansion) :=
  decidable_of_iff _ plainAlias_iff.symm

theorem PlainAlias.expansion_ne_nil {name expansion : Text} (h : PlainAlias name expansion) :
    expansion ≠ [] :=
  fun hnil => h.not_blank (hnil ▸ Text.allBlank_nil)

/-- Whether something holds of every name and what it stands for. -/
def EveryAlias (s : Shell) (P : (name expansion : Text) → Prop) : Prop :=
  ∀ name expansion, s.aliases.find? name = some expansion → P name expansion

section EveryAlias

variable {P : (name expansion : Text) → Prop}

theorem everyAlias_new (home : Text) (historyLimit : Nat) : (new home historyLimit).EveryAlias P := by
  intro name expansion h
  cases h

theorem EveryAlias.setAlias {s : Shell} (h : s.EveryAlias P) {name expansion : Text}
    (hnew : P name.lower (Text.trim expansion)) : (s.setAlias name expansion).EveryAlias P := by
  intro key text hfind
  rw [Shell.setAlias, Table.find?_insert] at hfind
  split at hfind
  next heq =>
    cases hfind
    exact heq ▸ hnew
  next => exact h key text hfind

end EveryAlias

/-- Whether all aliases of a shell are plain. -/
abbrev HasPlainAliases (s : Shell) : Prop :=
  s.EveryAlias PlainAlias

/-- Whether what the aliases of a shell stand for is trimmed, as it is wherever aliases are set. -/
abbrev HasTrimmedAliases (s : Shell) : Prop :=
  s.EveryAlias fun _ expansion => Text.trim expansion = expansion

section Expansion

variable {s : Shell} {word expansion : Text}

theorem HasPlainAliases.alias?_nil (h : s.HasPlainAliases) : s.alias? [] = none := by
  rw [Option.eq_none_iff_forall_ne_some]
  intro expansion hfind
  exact (h _ _ hfind).name_ne_nil rfl

/-- A word that is replaced holds no quote: lower case would keep it in the name. -/
theorem HasPlainAliases.not_quote_of_alias? (h : s.HasPlainAliases)
    (hfind : s.alias? word = some expansion) : ∀ c ∈ word, Quote.ofChar? c = none := by
  intro c hc
  cases hquote : Quote.ofChar? c with
  | none => rfl
  | some q =>
    have hcode : c.toNat < 0x41 := by
      rw [Quote.eq_char_of_ofChar? hquote]
      cases q <;> decide
    have hname := (h _ _ hfind).name_not_quote c (Text.mem_lowerAfter hcode hc)
    rw [hquote] at hname
    cases hname

/-- A piece is kept, or the word between its leading blanks and the next blank is replaced. -/
theorem expandAlias_eq_or (s : Shell) (piece : Text) :
    s.expandAlias piece = piece ∨ ∃ lead word tail expansion, piece = (lead ++ word) ++ tail ∧
      Text.AllBlank lead ∧ (∀ c, tail.head? = some c → isBlank c = true) ∧
      s.alias? word = some expansion ∧ s.expandAlias piece = expansion ++ tail := by
  unfold expandAlias Text.firstWord
  dsimp only
  split
  next expansion hfind =>
    refine .inr ⟨_, _, _, expansion, ?_, Text.allBlank_takeWhile piece, fun c hc => ?_, hfind, rfl⟩
    · rw [List.append_assoc, List.takeWhile_append_dropWhile]
      exact List.takeWhile_append_dropWhile.symm
    · have hhead := List.head?_dropWhile_not (!isBlank ·) (Text.trimStart piece)
      rw [hc] at hhead
      simpa using hhead
  next => exact .inl rfl

/-! What follows a word is read alike after every text outside of quotes, as it starts with a blank. -/

section Tail

variable {r t : Reading} {tail : Text}

theorem agrees_after_blank {c : Char} (hc : isBlank c = true) (hr : r.inside = none)
    (ht : t.inside = none) : Agrees (r.after c) (t.after c) :=
  (agrees_start_after (neutral_of_blank hc) hr).trans (agrees_start_after (neutral_of_blank hc) ht).symm

theorem inside_through_tail (htail : ∀ c, tail.head? = some c → isBlank c = true)
    (hr : r.inside = none) (ht : t.inside = none) :
    (r.through tail).inside = (t.through tail).inside := by
  cases tail with
  | nil => exact hr.trans ht.symm
  | cons c tail => exact ((agrees_after_blank (htail c rfl) hr ht).through tail).inside

theorem free_tail (htail : ∀ c, tail.head? = some c → isBlank c = true) (hr : r.inside = none)
    (ht : t.inside = none) {next next' : Text} (hhead : next.head? = next'.head?)
    (hfree : Free search r tail next) : Free search t tail next' := by
  cases tail with
  | nil => trivial
  | cons c tail =>
    have hc := not_mem_operatorChars_of_blank (htail c rfl)
    refine ⟨?_, free_congr (agrees_after_blank (htail c rfl) hr ht) hhead hfree.2⟩
    rw [matchAt_search, operatorLength?_of_not_mem hc, ite_self]

end Tail

theorem HasPlainAliases.replaces (h : s.HasPlainAliases) (piece : Text) :
    Replaces piece (s.expandAlias piece) := by
  rcases s.expandAlias_eq_or piece with heq | ⟨lead, word, tail, expansion, rfl, hlead, htail, hfind, heq⟩
  · rw [heq]
    exact .refl piece
  rw [heq]
  have hplain := h _ _ hfind
  have hword : ∀ c ∈ lead ++ word, Quote.ofChar? c = none := fun c hc =>
    (List.mem_append.mp hc).elim (fun hc => (neutral_of_blank (hlead c hc)).1)
      (h.not_quote_of_alias? hfind c)
  have hinside : ∀ r : Reading, r.inside = none →
      (r.through (lead ++ word)).inside = none ∧ (r.through expansion).inside = none := fun r hr =>
    ⟨(inside_through_of_not_quote hword r).trans hr,
      (inside_through_of_not_quote hplain.not_quote r).trans hr⟩
  refine ⟨.inr ?_, fun r next next' hr hhead hfree => ?_, fun r hr => ?_⟩
  · obtain ⟨c, rest, rfl⟩ := List.exists_cons_of_ne_nil hplain.expansion_ne_nil
    exact ⟨c, rest ++ tail, rfl, hplain.not_operator c List.mem_cons_self⟩
  · obtain ⟨hr, ht⟩ := hinside r hr
    exact free_append.mpr ⟨free_of_not_operator hplain.not_operator r _,
      free_tail htail hr ht hhead (free_append.mp hfree).2⟩
  · obtain ⟨hr, ht⟩ := hinside r hr
    rw [through_append, through_append]
    exact inside_through_tail htail ht hr

end Expansion

/-! ## Expanded lines -/

theorem expandPieces_eq_weave (s : Shell) (line : Text) (start : Nat) (hits : List (Hit Pattern)) :
    s.expandPieces line start hits =
      weave ((Pattern.piecesFrom line false start hits).map s.expandAlias)
        (hits.map fun h => Text.slice line h.start h.stop) := by
  induction hits generalizing start with
  | nil => exact (weave_singleton _).symm
  | cons h hits ih =>
    rw [expandPieces, ih, List.append_assoc]
    rfl

theorem expandAlias_of_alias?_eq_none {s : Shell} {piece : Text}
    (h : s.alias? (Text.firstWord (Text.trimStart piece)).1 = none) : s.expandAlias piece = piece := by
  unfold expandAlias
  dsimp only
  rw [h]

/-- A line is expanded by replacing its pieces. -/
theorem expandLine_eq_weave (s : Shell) (line : Text) :
    s.expandLine line =
      weave ((cut search start line).map s.expandAlias) (marks search start line) := by
  unfold expandLine
  split
  next hempty =>
    have hkept : ∀ piece, s.expandAlias piece = piece := fun piece => by
      refine expandAlias_of_alias?_eq_none ?_
      unfold alias? Table.find?
      rw [List.isEmpty_iff.mp hempty]
      rfl
    rw [List.map_congr_left fun piece _ => hkept piece, List.map_id',
      weave_cut_marks plain_search.bounded]
  next => rw [expandPieces_eq_weave, Pattern.piecesFrom_hits, map_slice_hits]

/-! ## Expanded stages -/

theorem trim_expandAlias_trim (s : Shell) (piece : Text) :
    Text.trim (s.expandAlias (Text.trim piece)) = Text.trim (s.expandAlias piece) := by
  obtain ⟨w, hw, hword⟩ := Text.exists_firstWord_trimStart piece
  unfold expandAlias
  rw [Text.trimStart_trim, hword]
  dsimp only
  cases s.alias? (Text.firstWord (Text.trim piece)).1 with
  | none => exact Text.trim_trim piece
  | some expansion =>
    dsimp only
    rw [← List.append_assoc, Text.trim_append_blanks hw]

section Stages

variable {s : Shell}

theorem HasPlainAliases.expandAlias_of_allBlank (h : s.HasPlainAliases) {piece : Text}
    (hblank : Text.AllBlank piece) : s.expandAlias piece = piece := by
  refine expandAlias_of_alias?_eq_none ?_
  rw [(Text.trimStart_eq_nil_iff piece).mpr hblank]
  exact h.alias?_nil

/-- Pieces that are not blank do not become blank. -/
theorem HasPlainAliases.trim_expandAlias_eq_nil_iff (h : s.HasPlainAliases) (piece : Text) :
    Text.trim (s.expandAlias piece) = [] ↔ Text.trim piece = [] := by
  rw [Text.trim_eq_nil_iff, Text.trim_eq_nil_iff]
  constructor
  · intro hblank
    rcases s.expandAlias_eq_or piece with heq | ⟨_, _, _, expansion, -, -, -, hfind, heq⟩
    · rwa [heq] at hblank
    · rw [heq] at hblank
      exact absurd (fun c hc => hblank c (List.mem_append_left _ hc)) (h _ _ hfind).not_blank
  · intro hblank
    rwa [h.expandAlias_of_allBlank hblank]

theorem HasPlainAliases.kept_map (h : s.HasPlainAliases) (pieces : List Text) :
    Text.kept (pieces.map s.expandAlias) =
      (Text.kept pieces).map fun piece => Text.trim (s.expandAlias piece) := by
  induction pieces with
  | nil => rfl
  | cons piece pieces ih =>
    rw [List.map_cons, Text.kept_cons, Text.kept_cons, List.map_append, ih]
    by_cases hnil : Text.trim piece = []
    · rw [if_pos ((h.trim_expandAlias_eq_nil_iff piece).mpr hnil), if_pos hnil]
      rfl
    · rw [if_neg (mt (h.trim_expandAlias_eq_nil_iff piece).mp hnil), if_neg hnil, List.map_singleton,
        trim_expandAlias_trim]

/-- A trimmed piece stays trimmed if what stands in place of its first word is trimmed. -/
theorem HasPlainAliases.trim_expandAlias (h : s.HasPlainAliases) (htrimmed : s.HasTrimmedAliases)
    {piece : Text} (hpiece : Text.trim piece = piece) :
    Text.trim (s.expandAlias piece) = s.expandAlias piece := by
  rcases s.expandAlias_eq_or piece with heq | ⟨lead, word, tail, expansion, rfl, -, -, hfind, heq⟩
  · rwa [heq]
  have hne := (h _ _ hfind).expansion_ne_nil
  have hexpansion := htrimmed _ _ hfind
  rw [Text.trim_eq_self_iff] at hpiece hexpansion
  rw [heq, Text.trim_eq_self_iff]
  refine ⟨fun c hc => hexpansion.1 c ?_, fun c hc => ?_⟩
  · rwa [List.head?_append_of_ne_nil _ hne] at hc
  · cases htail : tail.getLast? with
    | none =>
      rw [List.getLast?_append, htail] at hc
      exact hexpansion.2 c hc
    | some d =>
      rw [List.getLast?_append, htail] at hc
      refine hpiece.2 c ?_
      rw [List.getLast?_append, htail]
      exact hc

/-- A line none of whose pieces starts with an alias is kept. -/
theorem HasPlainAliases.expandLine_eq_self (h : s.HasPlainAliases) {line : Text}
    (hnone : ∀ piece ∈ Text.kept (cut search start line),
      s.alias? (Text.firstWord piece).1 = none) : s.expandLine line = line := by
  have hkept : ∀ piece ∈ cut search start line, s.expandAlias piece = piece := by
    intro piece hpiece
    by_cases hnil : Text.trim piece = []
    · exact h.expandAlias_of_allBlank (Text.trim_eq_nil_iff.mp hnil)
    · refine expandAlias_of_alias?_eq_none ?_
      obtain ⟨w, -, hword⟩ := Text.exists_firstWord_trimStart piece
      rw [hword]
      exact hnone _ (List.mem_filter.mpr
        ⟨List.mem_map.mpr ⟨piece, hpiece, rfl⟩, decide_eq_true hnil⟩)
  rw [expandLine_eq_weave, List.map_congr_left hkept, List.map_id',
    weave_cut_marks plain_search.bounded]

end Stages

/-! ## Lines -/

/-- The operators of a line outside of quotes. -/
def operatorTexts (line : Text) : List Text :=
  (Pattern.hits operators line).map fun h => Text.slice line h.start h.stop

/-- The stages of all segments of a line. -/
def stages (line : Text) : List Text :=
  (Chain.segments line).flatMap fun segment => Pipe.stages segment.command

theorem stages_eq_kept_cut (line : Text) : stages line = Text.kept (cut search start line) :=
  flatMap_stages_segments line

/-- Plain aliases move no operator: the expanded line has the operators of the line, and the slices
between them are those of the line, expanded. So are the stages that are run, up to blanks that an
alias may have at its ends. If no stage starts with an alias, the line is kept. -/
theorem expandLine_piecewise (s : Shell) (h : s.HasPlainAliases) (line : Text) :
    operatorTexts (s.expandLine line) = operatorTexts line ∧
      slices (s.expandLine line) = (slices line).map s.expandAlias ∧
      stages (s.expandLine line) =
        (stages line).map (fun stage => Text.trim (s.expandAlias stage)) ∧
      (s.HasTrimmedAliases → stages (s.expandLine line) = (stages line).map s.expandAlias) ∧
      ((∀ stage ∈ stages line, s.alias? (Text.firstWord stage).1 = none) →
        s.expandLine line = line) := by
  obtain ⟨-, hcut, hmarks⟩ := cut_weave_map h.replaces start (.refl _) line
  rw [← expandLine_eq_weave] at hcut hmarks
  have hstages : stages (s.expandLine line) =
      (stages line).map fun stage => Text.trim (s.expandAlias stage) := by
    rw [stages_eq_kept_cut, stages_eq_kept_cut, hcut, h.kept_map]
  refine ⟨?_, ?_, hstages, fun htrimmed => ?_, fun hnone => ?_⟩
  · unfold operatorTexts
    rw [map_slice_hits, map_slice_hits, hmarks]
  · rw [slices_eq_cut, slices_eq_cut, hcut]
  · rw [hstages]
    refine List.map_congr_left fun stage hstage => h.trim_expandAlias htrimmed ?_
    rw [stages_eq_kept_cut] at hstage
    exact Text.trim_of_mem_kept hstage
  · rw [stages_eq_kept_cut] at hnone
    exact h.expandLine_eq_self hnone

/-- A line with quoted operators, in which three of four stages start with an alias. -/
theorem expandLine_piecewise_listing :
    let s := ((new "/".toList 10).setAlias "ll".toList " ls -l ".toList).setAlias
      "G".toList "grep".toList
    let line := "ll 'a;b' |  g x&& echo 'll'; ll".toList
    s.HasPlainAliases ∧ s.HasTrimmedAliases ∧
      operatorTexts (s.expandLine line) = ["|", "&&", ";"].map String.toList ∧
      stages (s.expandLine line) =
        ["ls -l 'a;b'", "grep x", "echo 'll'", "ls -l"].map String.toList := by
  intro s line
  have hls : PlainAlias (Text.lower "ll".toList) (Text.trim " ls -l ".toList) := by
    decide +kernel
  have hgrep : PlainAlias (Text.lower "G".toList) (Text.trim "grep".toList) := by
    decide +kernel
  have hplain : s.HasPlainAliases := ((everyAlias_new _ _).setAlias hls).setAlias hgrep
  have htrimmed : s.HasTrimmedAliases :=
    ((everyAlias_new _ _).setAlias (Text.trim_trim _)).setAlias (Text.trim_trim _)
  obtain ⟨hoperators, -, -, hstages, -⟩ := expandLine_piecewise s hplain line
  refine ⟨hplain, htrimmed, hoperators.trans ?_, (hstages htrimmed).trans ?_⟩ <;> decide +kernel

end VirtualTerminal.Shell
