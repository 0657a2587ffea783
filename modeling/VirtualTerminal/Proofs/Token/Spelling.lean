import VirtualTerminal.Proofs.Pattern.Exact
import VirtualTerminal.Proofs.Shell.Operators
import VirtualTerminal.Proofs.Token.LeftOut

/-!
# Spelling out tokens

A text is spelled in double quotes, with a backslash before every quote in it. Backslashes at its end would
escape the quote that ends the span, so they are written after that quote. The line is read as this one
token (`spells_spell`), and spelled texts with blanks between them as all the tokens in order
(`tokens_spellAll`). So every list of texts is the list of tokens of some line, and one in which no operator
stands outside of quotes.
-/

namespace VirtualTerminal.Text

open Hit Reading

/-! ## Escaping both kinds of quotes -/

/-- A text with a backslash before every quote of either kind. -/
def escapeBoth (t : Text) : Text :=
  escapeQuotes .single (escapeQuotes .double t)

section EscapeBoth

variable {c : Char} {r : Reading}

theorem escapeBoth_cons_of_quote (hc : Quote.isQuote c = true) (t : Text) :
    escapeBoth (c :: t) = '\\' :: c :: escapeBoth t := by
  obtain ⟨q, hq⟩ := Option.isSome_iff_exists.mp hc
  rw [Quote.eq_char_of_ofChar? hq]
  cases q <;> rfl

theorem escapeBoth_cons_of_not_quote (hc : Quote.isQuote c = false) (t : Text) :
    escapeBoth (c :: t) = c :: escapeBoth t := by
  have hne : ∀ q : Quote, c ≠ q.char := by
    rintro q rfl
    rw [Quote.isQuote, Quote.ofChar?_char] at hc
    cases hc
  unfold escapeBoth
  rw [escapeQuotes_cons_of_ne (hne .double), escapeQuotes_cons_of_ne (hne .single)]

/-- The backslashes are put before characters, so the last one stays the last one. -/
theorem getLast?_escapeBoth (t : Text) : (escapeBoth t).getLast? = t.getLast? := by
  induction t with
  | nil => rfl
  | cons c t ih =>
    cases hc : Quote.isQuote c with
    | true =>
      rw [escapeBoth_cons_of_quote hc, List.getLast?_cons_cons, List.getLast?_cons, ih,
        List.getLast?_cons]
    | false => rw [escapeBoth_cons_of_not_quote hc, List.getLast?_cons, ih, List.getLast?_cons]

/-- An escaped text starts with no quote. -/
theorem isQuote_head?_escapeBoth {t : Text} (ht : t ≠ []) (rest : Text) :
    (escapeBoth t ++ rest).head?.any Quote.isQuote = false := by
  obtain ⟨c, t, rfl⟩ := List.exists_cons_of_ne_nil ht
  cases hc : Quote.isQuote c with
  | true =>
    rw [escapeBoth_cons_of_quote hc]
    rfl
  | false =>
    rw [escapeBoth_cons_of_not_quote hc]
    exact hc

/-- A reading stays inside of a span through an escaped text, so no operator starts in it. -/
theorem inside_escapeBoth (hr : r.inside = some .double) (t : Text) :
    (r.through (escapeBoth t)).inside = some .double ∧
      ∀ next, Free Shell.search r (escapeBoth t) next := by
  induction t generalizing r with
  | nil => exact ⟨hr, fun _ => trivial⟩
  | cons c t ih =>
    cases hc : Quote.isQuote c with
    | true =>
      have hslash : r.insideAfter '\\' = some .double := hr
      have hquote : (r.after '\\').insideAfter c = some .double :=
        insideAfter_of_inside (r := r.after '\\') hslash (.inr rfl)
      rw [escapeBoth_cons_of_quote hc]
      exact ⟨(ih hquote).1, fun next =>
        ⟨matchAt_of_inside hslash _, matchAt_of_inside hquote _, (ih hquote).2 next⟩⟩
    | false =>
      have hinside : r.insideAfter c = some .double :=
        (insideAfter_of_not_quote (ofChar?_eq_none hc) r).trans hr
      rw [escapeBoth_cons_of_not_quote hc]
      exact ⟨(ih hinside).1, fun next => ⟨matchAt_of_inside hinside _, (ih hinside).2 next⟩⟩

/-- An escaped text is read as the text, if its last character is no backslash before a quote. -/
theorem tokensFrom_escapeBoth {t rest : Text} (hr : r.inside = some .double)
    (hend : t.getLast? = some '\\' → rest.head?.any Quote.isQuote = false) (current : Text) :
    tokensFrom r (some current) (escapeBoth t ++ rest) =
      tokensFrom (r.through (escapeBoth t)) (some (current ++ t)) rest := by
  induction t generalizing r current with
  | nil =>
    rw [List.append_nil]
    rfl
  | cons c t ih =>
    have hlast : t.getLast? = some '\\' → rest.head?.any Quote.isQuote = false := fun h =>
      hend (by rw [List.getLast?_cons, h, Option.getD_some])
    cases hc : Quote.isQuote c with
    | true =>
      have hslash : (r.after '\\').inside = some .double := hr
      have hquote : ((r.after '\\').after c).inside = some .double :=
        insideAfter_of_inside hslash (.inr rfl)
      have hne : c ≠ '\\' := by
        rintro rfl
        cases hc
      rw [escapeBoth_cons_of_quote hc, List.cons_append, List.cons_append,
        tokensFrom_escaped r current hc,
        tokensFrom_cons_of_inside hslash (.inr rfl) (fun h => absurd h hne), ih hquote hlast,
        List.append_assoc]
      rfl
    | false =>
      have hquote : c ≠ Quote.double.char := by
        rintro rfl
        cases hc
      have hinside : (r.after c).inside = some .double := insideAfter_of_inside hr (.inl hquote)
      have hkept : c = '\\' → (escapeBoth t ++ rest).head?.any Quote.isQuote = false := by
        rintro rfl
        by_cases ht : t = []
        · subst ht
          exact hend rfl
        · exact isQuote_head?_escapeBoth ht rest
      rw [escapeBoth_cons_of_not_quote hc, List.cons_append,
        tokensFrom_cons_of_inside hr (.inl hquote) hkept, ih hinside hlast, List.append_assoc]
      rfl

end EscapeBoth

/-! ## One token -/

/-- A text in double quotes with all quotes in it escaped. The backslashes at its end stand after the
quotes. -/
def spell (t : Text) : Text :=
  '"' :: (escapeBoth (t.rdropWhile (· = '\\')) ++ '"' :: t.rtakeWhile (· = '\\'))

/-- Whether a line is read as given tokens, with all spans ended and no operator outside of them whatever
follows the line. -/
structure Spells (line : Text) (ts : List Text) : Prop where
  closed : (start.through line).inside = none
  free : ∀ next, Free Shell.search start line next
  tokens_eq : tokens line = ts

theorem spells_nil : Spells [] [] :=
  ⟨rfl, fun _ => trivial, rfl⟩

section Span

variable {body tail : Text}

/-- The quote after an escaped text ends the span, as the text does not end in a backslash. -/
theorem closes_span (hbody : body.getLast? ≠ some '\\') :
    ((start.after '"').through (escapeBoth body)).toggles '"' = true ∧
      (((start.after '"').through (escapeBoth body)).after '"').inside = none := by
  have hopen : (start.after '"').inside = some .double := rfl
  have hinside := (inside_escapeBoth hopen body).1
  have hprevious : ((start.after '"').through (escapeBoth body)).previous ≠ some '\\' := by
    rw [previous_through, getLast?_escapeBoth]
    cases hlast : body.getLast? with
    | none => exact fun h => absurd (Option.some.inj h) (by decide)
    | some c => rwa [hlast] at hbody
  exact ⟨toggles_closing (q := .double) hinside hprevious,
    insideAfter_closing (q := .double) hinside hprevious⟩

theorem plain_backslashes (htail : ∀ c ∈ tail, c = '\\') :
    ∀ c ∈ tail, Quote.isQuote c = false ∧ isBlank c = false := by
  intro c hc
  rw [htail c hc]
  exact ⟨rfl, rfl⟩

/-- Backslashes that nothing follows belong to the token before. -/
theorem tokensFrom_backslashes (htail : ∀ c ∈ tail, c = '\\') (r : Reading) (current : Text) :
    tokensFrom r (some current) tail = [current ++ tail] := by
  by_cases hnil : tail = []
  · rw [hnil, List.append_nil]
    rfl
  · have hall : tokensFrom r (some current) (tail ++ []) = _ :=
      tokensFrom_plain (plain_backslashes htail) hnil (fun _ => rfl) r (some current)
    rw [List.append_nil] at hall
    exact hall

theorem tokens_span (hbody : body.getLast? ≠ some '\\') (htail : ∀ c ∈ tail, c = '\\') :
    tokens ('"' :: (escapeBoth body ++ '"' :: tail)) = [body ++ tail] := by
  have hopen : (start.after '"').inside = some .double := rfl
  rw [tokens, tokensFrom, if_pos (toggles_of_outside rfl (by decide) rfl), Option.getD_none,
    tokensFrom_escapeBoth hopen (fun h => absurd h hbody), List.nil_append, tokensFrom,
    if_pos (closes_span hbody).1]
  exact tokensFrom_backslashes htail _ body

theorem spells_span (hbody : body.getLast? ≠ some '\\') (htail : ∀ c ∈ tail, c = '\\') :
    Spells ('"' :: (escapeBoth body ++ '"' :: tail)) [body ++ tail] := by
  refine ⟨?_, fun next => ?_, tokens_span hbody htail⟩
  · rw [through_cons, through_append, through_cons]
    have hplain : ∀ c ∈ tail, Quote.ofChar? c = none := fun c hc =>
      ofChar?_eq_none (plain_backslashes htail c hc).1
    exact (inside_through_of_not_quote hplain _).trans (closes_span hbody).2
  · have hopen : start.insideAfter '"' = some .double := rfl
    have hrest : ∀ c ∈ '"' :: tail, c ∉ Shell.operatorChars := fun c hc => by
      rcases List.mem_cons.mp hc with rfl | hc
      · decide
      · rw [htail c hc]
        decide
    exact ⟨matchAt_of_inside hopen _, free_append.mpr
      ⟨(inside_escapeBoth hopen body).2 _, Shell.free_of_not_operator hrest _ _⟩⟩

end Span

/-- A text is the only token of its spelling. -/
theorem spells_spell (t : Text) : Spells (spell t) [t] := by
  have hbody : (t.rdropWhile (· = '\\')).getLast? ≠ some '\\' := fun h => by
    obtain ⟨before, hbefore⟩ := List.getLast?_eq_some_iff.mp h
    refine List.rdropWhile_last_not (· = '\\') t (by simp [hbefore]) ?_
    simp [hbefore]
  have htail : ∀ c ∈ t.rtakeWhile (· = '\\'), c = '\\' := fun c hc => by
    simpa using List.mem_rtakeWhile_imp hc
  have hspan := spells_span hbody htail
  rwa [List.rdropWhile_append_rtakeWhile] at hspan

/-! ## Several tokens -/

/-- Two lines with a blank between them are read one after the other. -/
theorem Spells.append {line line' : Text} {ts ts' : List Text} (h : Spells line ts)
    (h' : Spells line' ts') : Spells (line ++ ' ' :: line') (ts ++ ts') := by
  have hagrees : Agrees ((start.through line).after ' ') start :=
    agrees_start_after (neutral_of_blank rfl) h.closed
  refine ⟨?_, fun next => ?_, ?_⟩
  · rw [through_append, through_cons, (hagrees.through line').inside]
    exact h'.closed
  · have hblank : matchAt Shell.search (start.through line) ' ' (line' ++ next) = none := by
      rw [Shell.matchAt_search, Shell.operatorLength?_of_not_mem (by decide), ite_self]
    exact free_append.mpr
      ⟨h.free _, hblank, Shell.free_congr hagrees.symm rfl (h'.free next)⟩
  · rw [tokens, tokensFrom_append_blank rfl h.closed, h'.tokens_eq]
    exact congrArg (· ++ ts') h.tokens_eq

/-- Texts spelled one after the other, with blanks between them. -/
def spellAll (ts : List Text) : Text :=
  join [' '] (ts.map spell)

theorem spells_spellAll (ts : List Text) : Spells (spellAll ts) ts := by
  induction ts with
  | nil => exact spells_nil
  | cons t ts ih =>
    cases ts with
    | nil => exact spells_spell t
    | cons u ts =>
      have hline : spellAll (t :: u :: ts) = spell t ++ ' ' :: spellAll (u :: ts) := by
        simp [spellAll, join]
      rw [hline]
      exact (spells_spell t).append ih

/-- Every list of texts can be typed: the line that spells them has no unmatched quotes and no operator
outside of quotes, and its tokens are these texts. -/
theorem tokens_spellAll (ts : List Text) :
    (spellAll ts).hasUnmatchedQuotes = false ∧ Pattern.hits Shell.operators (spellAll ts) = [] ∧
      tokens (spellAll ts) = ts := by
  have h := spells_spellAll ts
  refine ⟨?_, Pattern.hits_eq_nil_iff.mpr (h.free []), h.tokens_eq⟩
  rw [hasUnmatchedQuotes, h.closed]
  rfl

/-- Backslashes before quotes and at the end, an operator, an empty text and a blank one. -/
example : spellAll ["say \\\"it's\"".toList, "a;b\\".toList, [], [' ']] =
    "\"say \\\\\"it\\'s\\\"\" \"a;b\"\\ \"\" \" \"".toList := by
  decide

end VirtualTerminal.Text
