import VirtualTerminal.Proofs.Chain.Segmentation
import VirtualTerminal.Proofs.Pattern.Weave
import VirtualTerminal.Proofs.Token

/-!
# Lines without operators

Where an operator starts is told by two characters (`matchAt_search`), so no operator starts in a text
without the characters of operators, nor inside of quotes (`Hit.free_of_inside`). A line in which none
starts has no match of a pattern at all (`Pattern.hits_eq_nil_iff`).
-/

namespace VirtualTerminal

open Hit Reading

namespace Shell

/-! ## Operators -/

/-- The characters that operators consist of. -/
def operatorChars : List Char :=
  ['&', '|', ';']

/-- The length of the operator that a character and the one after it start. -/
def operatorLength? (c : Char) (next : Option Char) : Option Nat :=
  ((ChainOperator.starting? c next).map fun o => o.symbol.length).or
    (if c = '|' then some 1 else none)

theorem matchAt_search (r : Reading) (c : Char) (rest : Text) :
    matchAt search r c rest =
      if (r.insideAfter c).isNone then operatorLength? c rest.head? else none := by
  rw [matchAt_shell, matchAt_chain, matchAt_pipe]
  unfold operatorLength?
  by_cases hin : (r.insideAfter c).isNone <;> simp [hin]

theorem operatorLength?_of_not_mem {c : Char} (hc : c ∉ operatorChars) (next : Option Char) :
    operatorLength? c next = none := by
  obtain ⟨ha, ho, hs⟩ : c ≠ '&' ∧ c ≠ '|' ∧ c ≠ ';' := by simpa [operatorChars] using hc
  simp [operatorLength?, ChainOperator.starting?, ha, ho, hs]

/-- An operator of one character is not made longer by what is no part of an operator. -/
theorem operatorLength?_eq_one {c d : Char} {next : Option Char} (h : operatorLength? c next = some 1)
    (hd : d ∉ operatorChars) : operatorLength? c (some d) = some 1 := by
  obtain ⟨-, ho, -⟩ : d ≠ '&' ∧ d ≠ '|' ∧ d ≠ ';' := by simpa [operatorChars] using hd
  by_cases hbar : c = '|'
  · simp [operatorLength?, ChainOperator.starting?, hbar, ho]
  by_cases hs : c = ';'
  · rw [hs]
    rfl
  -- what remains is the ampersand, which is no operator alone
  by_cases ha : c = '&' ∧ next = some '&'
  · rw [ha.1, ha.2] at h
    cases h
  · simp [operatorLength?, ChainOperator.starting?, hbar, hs, ha] at h

theorem not_quote_of_mem_operatorChars {c : Char} (hc : c ∈ operatorChars) :
    Quote.ofChar? c = none := by
  simp only [operatorChars, List.mem_cons, List.not_mem_nil, or_false] at hc
  rcases hc with rfl | rfl | rfl <;> rfl

theorem not_mem_operatorChars_of_blank {c : Char} (hc : isBlank c = true) : c ∉ operatorChars := by
  intro hmem
  simp only [operatorChars, List.mem_cons, List.not_mem_nil, or_false] at hmem
  rcases hmem with rfl | rfl | rfl <;> exact absurd hc (by decide)

/-! ## Texts without operators -/

variable {r t : Reading} {piece next next' : Text}

/-- Whether an operator starts in a text depends on the first character after the text only. -/
theorem free_congr (h : Agrees r t) (hhead : next.head? = next'.head?)
    (hfree : Free search r piece next) : Free search t piece next' := by
  induction piece generalizing r t with
  | nil => trivial
  | cons c piece ih =>
    obtain ⟨hm, hrest⟩ := hfree
    refine ⟨?_, ih (h.after c) hrest⟩
    rw [matchAt_search, List.head?_append] at hm ⊢
    rwa [← h.insideAfter c, ← hhead]

theorem free_of_not_operator (h : ∀ c ∈ piece, c ∉ operatorChars) (r : Reading) (next : Text) :
    Free search r piece next := by
  induction piece generalizing r with
  | nil => trivial
  | cons c piece ih =>
    refine ⟨?_, ih (fun d hd => h d (List.mem_cons_of_mem _ hd)) (r.after c)⟩
    rw [matchAt_search, operatorLength?_of_not_mem (h c List.mem_cons_self), ite_self]

end Shell

/-! ## Lines without operators -/

namespace Hit

variable {r : Reading} {piece next : Text}

theorem free_shell_iff :
    Free Shell.search r piece next ↔ Free Chain.search r piece next ∧ Free Pipe.search r piece next := by
  induction piece generalizing r with
  | nil => exact ⟨fun _ => ⟨trivial, trivial⟩, fun _ => trivial⟩
  | cons c piece ih =>
    unfold Free
    rw [matchAt_shell, Option.or_eq_none_iff, ih]
    exact and_and_and_comm

/-- Nothing is found at a character after which the text is inside of a span. -/
theorem matchAt_of_inside {π : Type u} {find : Search π} {q : Quote} {c : Char}
    (h : r.insideAfter c = some q) (rest : Text) : matchAt find r c rest = none := by
  unfold matchAt
  rw [h]
  rfl

/-- No operator starts inside of a span. -/
theorem free_of_inside {q : Quote} (hr : r.inside = some q) (hpiece : q.char ∉ piece) :
    Free Shell.search r piece next := by
  induction piece generalizing r with
  | nil => trivial
  | cons c piece ih =>
    obtain ⟨hc, hpiece⟩ := not_or.mp (mt List.mem_cons.mpr hpiece)
    have hinside : r.insideAfter c = some q := Text.insideAfter_of_inside hr (.inl (Ne.symm hc))
    exact ⟨matchAt_of_inside hinside _, ih hinside hpiece⟩

/-- The operators outside of quotes, told by the characters that they consist of. -/
theorem free_unquoted_iff (hpiece : ∀ c ∈ piece, Quote.isQuote c = false) (hr : r.inside = none)
    (hnext : next.head? ≠ some '&') :
    Free Shell.search r piece next ↔ ';' ∉ piece ∧ '|' ∉ piece ∧ ¬ ['&', '&'] <:+: piece := by
  induction piece generalizing r with
  | nil => simp [Free]
  | cons c piece ih =>
    obtain ⟨hc, hpiece⟩ := List.forall_mem_cons.mp hpiece
    have hinside : r.insideAfter c = none :=
      (insideAfter_of_not_quote (Text.ofChar?_eq_none hc) r).trans hr
    have hhead : (piece ++ next).head? = some '&' ↔ piece.head? = some '&' := by
      cases piece with
      | nil => exact iff_of_false hnext (by simp)
      | cons d piece => exact Iff.rfl
    have hmatch : matchAt Shell.search r c (piece ++ next) = none ↔
        c ≠ ';' ∧ c ≠ '|' ∧ ¬ (c = '&' ∧ piece.head? = some '&') := by
      rw [Shell.matchAt_search, hinside, ← hhead]
      unfold Shell.operatorLength? ChainOperator.starting?
      by_cases hsemicolon : c = ';'
      · simp [hsemicolon]
      by_cases hbar : c = '|'
      · simp [hbar]
      simp [hsemicolon, hbar]
    have hprefix : ['&', '&'] <+: c :: piece ↔ c = '&' ∧ piece.head? = some '&' := by
      cases piece with
      | nil => simp [List.prefix_cons_iff]
      | cons d piece => simp [List.cons_prefix_cons, eq_comm]
    unfold Free
    rw [hmatch, ih hpiece hinside, List.infix_cons_iff, hprefix, List.mem_cons, List.mem_cons]
    simp only [not_or, ne_eq, eq_comm (a := c) (b := ';'), eq_comm (a := c) (b := '|')]
    tauto

end Hit

theorem Pattern.hits_eq_nil_iff {patterns : List Pattern} {s : Text} :
    Pattern.hits patterns s = [] ↔ Free (Pattern.search patterns) start s [] := by
  constructor
  · intro hnil
    rcases free_or_exists_match (Pattern.search_bounded patterns) start s with hfree |
      ⟨piece, c, tail, next, rfl, hfree, hm⟩
    · exact hfree
    · have hmarks := map_slice_hits patterns (piece ++ c :: (tail ++ next))
      rw [hnil, hfree.marks_eq_cons hm] at hmarks
      cases hmarks
  · intro hfree
    exact Pattern.hits_eq_nil_of_cut hfree.cut_eq

theorem Chain.isPresent_eq_false_iff {line : Text} :
    Chain.isPresent line = false ↔ Free Chain.search start line [] := by
  rw [← Pattern.hits_eq_nil_iff, Chain.isPresent, Bool.not_eq_false', List.isEmpty_iff]

theorem Pipe.isPresent_eq_false_iff {line : Text} :
    Pipe.isPresent line = false ↔ Free Pipe.search start line [] := by
  rw [← Pattern.hits_eq_nil_iff, Pipe.isPresent, Bool.not_eq_false', List.isEmpty_iff]

end VirtualTerminal
