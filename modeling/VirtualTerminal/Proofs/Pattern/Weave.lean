import VirtualTerminal.Proofs.Pattern.Cut

/-!
# Weaving pieces together

Where `Hit.cut` gives the pieces of a text between the matches of a search, `Hit.marks` gives the matches.
Both together make up the text (`weave_cut_marks`). `induction_on_pieces` takes a text apart piece by piece
instead of character by character: a piece in which no match starts ends the text or stands before a
match, and what follows the match is a text of its own.
-/

namespace VirtualTerminal.Hit

variable {π : Type u} {find : Search π} {r : Reading}

/-! ## Matches -/

/-- The matches at which `cut` cuts a text. -/
def marks (find : Search π) (r : Reading) : Text → List Text
  | [] => []
  | c :: rest =>
    match matchAt find r c rest with
    | some n =>
      (c :: rest.take (n - 1)) ::
        marks find ((r.after c).through (rest.take (n - 1))) (rest.drop (n - 1))
    | none => marks find (r.after c) rest
  termination_by s => s.length
  decreasing_by all_goals simp; try omega

@[simp] theorem marks_nil (r : Reading) : marks find r [] = [] := by
  rw [marks]

theorem marks_cons_of_match {c : Char} {rest : Text} {n : Nat}
    (h : matchAt find r c rest = some n) :
    marks find r (c :: rest) = (c :: rest.take (n - 1)) ::
      marks find ((r.after c).through (rest.take (n - 1))) (rest.drop (n - 1)) := by
  rw [marks, h]

theorem marks_cons_of_no_match {c : Char} {rest : Text} (h : matchAt find r c rest = none) :
    marks find r (c :: rest) = marks find (r.after c) rest := by
  rw [marks, h]

theorem Search.Plain.marks_congr (hf : find.Plain) {t : Reading} (h : Reading.Agrees r t) (s : Text) :
    marks find r s = marks find t s := by
  induction r, s using cut.induct find generalizing t with
  | case1 r => rw [marks_nil, marks_nil]
  | case2 r c rest n hm ih =>
    rw [marks_cons_of_match hm, marks_cons_of_match ((hf.matchAt_congr h c rest) ▸ hm),
      ih ((h.after c).through _)]
  | case3 r c rest hm ih =>
    rw [marks_cons_of_no_match hm, marks_cons_of_no_match ((hf.matchAt_congr h c rest) ▸ hm),
      ih (h.after c)]

/-! ## Texts in which no match starts -/

/-- Whether no match starts in a text when another text follows it. -/
def Free (find : Search π) (r : Reading) : (s next : Text) → Prop
  | [], _ => True
  | c :: s, next => matchAt find r c (s ++ next) = none ∧ Free find (r.after c) s next

theorem free_append {s t next : Text} :
    Free find r (s ++ t) next ↔ Free find r s (t ++ next) ∧ Free find (r.through s) t next := by
  induction s generalizing r with
  | nil => exact (iff_of_eq (true_and _)).symm
  | cons c s ih =>
    rw [List.cons_append, Free, Free, ih, List.append_assoc, and_assoc]
    rfl

theorem Free.cut_append {s next : Text} (h : Free find r s next) :
    cut find r (s ++ next) = (cut find (r.through s) next).modifyHead (s ++ ·) := by
  induction s generalizing r with
  | nil => exact (congrFun List.modifyHead_id _).symm
  | cons c s ih =>
    rw [List.cons_append, cut_cons_of_no_match h.1, ih h.2, List.modifyHead_modifyHead]
    rfl

theorem Free.marks_append {s next : Text} (h : Free find r s next) :
    marks find r (s ++ next) = marks find (r.through s) next := by
  induction s generalizing r with
  | nil => rfl
  | cons c s ih => rw [List.cons_append, marks_cons_of_no_match h.1, ih h.2, Reading.through_cons]

theorem Free.cut_eq {s : Text} (h : Free find r s []) : cut find r s = [s] := by
  have happend := h.cut_append
  rwa [List.append_nil, cut_nil, List.modifyHead_cons, List.append_nil] at happend

theorem Free.marks_eq {s : Text} (h : Free find r s []) : marks find r s = [] := by
  have happend := h.marks_append
  rwa [List.append_nil, marks_nil] at happend

/-! ## A piece, a match and what follows -/

section Match

variable {piece tail next : Text} {c : Char}

/-- A match ends the piece before it. -/
theorem Free.cut_eq_cons (h : Free find r piece (c :: (tail ++ next)))
    (hm : matchAt find (r.through piece) c (tail ++ next) = some (tail.length + 1)) :
    cut find r (piece ++ c :: (tail ++ next)) =
      piece :: cut find (r.through (piece ++ c :: tail)) next := by
  rw [h.cut_append, cut_cons_of_match hm, Nat.add_sub_cancel, List.take_left, List.drop_left,
    List.modifyHead_cons, List.append_nil, Reading.through_append, Reading.through_cons]

theorem Free.marks_eq_cons (h : Free find r piece (c :: (tail ++ next)))
    (hm : matchAt find (r.through piece) c (tail ++ next) = some (tail.length + 1)) :
    marks find r (piece ++ c :: (tail ++ next)) =
      (c :: tail) :: marks find (r.through (piece ++ c :: tail)) next := by
  rw [h.marks_append, marks_cons_of_match hm, Nat.add_sub_cancel, List.take_left, List.drop_left,
    Reading.through_append, Reading.through_cons]

/-- What follows a match is read like a text of its own. -/
theorem Search.Plain.agrees_through_match (hf : find.Plain)
    (hm : matchAt find r c (tail ++ next) = some (tail.length + 1)) :
    Reading.Agrees (r.through (c :: tail)) Reading.start := by
  have hafter := hf.agrees_after_match hm
  rwa [Nat.add_sub_cancel, List.take_left] at hafter

end Match

/-- No match starts in a text, or the first match stands after a piece. -/
theorem free_or_exists_match (hb : find.Bounded) (r : Reading) (s : Text) :
    Free find r s [] ∨ ∃ piece c tail next, s = piece ++ c :: (tail ++ next) ∧
      Free find r piece (c :: (tail ++ next)) ∧
      matchAt find (r.through piece) c (tail ++ next) = some (tail.length + 1) := by
  induction s generalizing r with
  | nil => exact .inl trivial
  | cons c s ih =>
    cases hm : matchAt find r c s with
    | some n =>
      obtain ⟨hpos, hle⟩ := matchAt_bounds hb hm
      refine .inr ⟨[], c, s.take (n - 1), s.drop (n - 1), ?_, trivial, ?_⟩
      · rw [List.take_append_drop]
        rfl
      · rw [List.take_append_drop, List.length_take_of_le (by omega), Nat.sub_add_cancel hpos]
        exact hm
    | none =>
      rcases ih (r.after c) with hfree | ⟨piece, d, tail, next, rfl, hfree, hmatch⟩
      · exact .inl ⟨by rwa [List.append_nil], hfree⟩
      · exact .inr ⟨c :: piece, d, tail, next, rfl, ⟨hm, hfree⟩, hmatch⟩

/-- Taking a text apart piece by piece: the last piece, and a piece before a match. -/
@[elab_as_elim]
theorem induction_on_pieces (hb : find.Bounded) {motive : Reading → Text → Prop}
    (last : ∀ r piece, Free find r piece [] → motive r piece)
    (cons : ∀ r piece c tail next, Free find r piece (c :: (tail ++ next)) →
      matchAt find (r.through piece) c (tail ++ next) = some (tail.length + 1) →
      motive (r.through (piece ++ c :: tail)) next → motive r (piece ++ c :: (tail ++ next)))
    (r : Reading) (s : Text) : motive r s := by
  induction hs : s.length using Nat.strongRecOn generalizing r s with
  | ind n ih =>
    rcases free_or_exists_match hb r s with hfree | ⟨piece, c, tail, next, rfl, hfree, hm⟩
    · exact last r s hfree
    · refine cons r piece c tail next hfree hm (ih next.length ?_ _ next rfl)
      simp only [List.length_append, List.length_cons] at hs
      omega

/-! ## Weaving -/

/-- Pieces with matches between them. -/
def weave : (pieces marks : List Text) → Text
  | piece :: pieces, mark :: marks => piece ++ (mark ++ weave pieces marks)
  | pieces, _ => pieces.flatten

@[simp] theorem weave_singleton (piece : Text) : weave [piece] [] = piece :=
  List.append_nil piece

@[simp] theorem weave_cons (piece mark : Text) (pieces marks : List Text) :
    weave (piece :: pieces) (mark :: marks) = piece ++ (mark ++ weave pieces marks) := rfl

/-- The pieces and the matches of a text make it up. -/
theorem weave_cut_marks (hb : find.Bounded) (r : Reading) (s : Text) :
    weave (cut find r s) (marks find r s) = s := by
  induction r, s using induction_on_pieces hb with
  | last r piece hfree => rw [hfree.cut_eq, hfree.marks_eq, weave_singleton]
  | cons r piece c tail next hfree hm ih =>
    rw [hfree.cut_eq_cons hm, hfree.marks_eq_cons hm, weave_cons, ih]
    rfl

/-! ## Slices -/

/-- The slices that the matches of a search cover are its matches. -/
theorem map_slice_allFrom (hb : find.Bounded) (s : Text) (r : Reading) (rest : Text) :
    ∀ position, s.drop position = rest →
      (allFrom find r position 0 rest).map (fun h => Text.slice s h.start h.stop) =
        marks find r rest := by
  induction r, rest using cut.induct find with
  | case1 r =>
    intro position _
    rw [marks_nil]
    rfl
  | case2 r c rest n hm ih =>
    intro position hs
    obtain ⟨hpos, hle⟩ := matchAt_bounds hb hm
    have hrest := drop_succ_of_drop_eq_cons hs
    have hstop : position + 1 + (n - 1) = position + n := by omega
    obtain ⟨p, hall⟩ := allFrom_cons_of_match hm position
    have hslice : Text.slice s position (position + n) = c :: rest.take (n - 1) := by
      unfold Text.slice
      rw [List.drop_take, Nat.add_sub_cancel_left, hs]
      exact List.take_cons hpos
    rw [hall, allFrom_skip find _ _ (n - 1) rest (by omega), marks_cons_of_match hm, List.map_cons,
      ih (position + 1 + (n - 1)) (by rw [← hrest, List.drop_drop])]
    exact congrArg (· :: _) hslice
  | case3 r c rest hm ih =>
    intro position hs
    rw [allFrom_cons_of_no_match hm, marks_cons_of_no_match hm,
      ih (position + 1) (drop_succ_of_drop_eq_cons hs)]

theorem map_slice_hits (patterns : List Pattern) (s : Text) :
    (Pattern.hits patterns s).map (fun h => Text.slice s h.start h.stop) =
      marks (Pattern.search patterns) Reading.start s :=
  map_slice_allFrom (Pattern.search_bounded patterns) s Reading.start s 0 rfl

end VirtualTerminal.Hit
