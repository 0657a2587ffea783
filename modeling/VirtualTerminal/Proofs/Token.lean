import Mathlib.Data.List.Infix
import VirtualTerminal.Proofs.Quote
import VirtualTerminal.Token

/-!
# Tokens of a line and of its parts

A blank outside of quotes cuts the tokens of a line in two (`tokensFrom_append_blank`). A text in
double quotes, its own double quotes escaped, is one token (`tokens_append_quoted`), and that token is
the text itself exactly if no backslash of it stands where the reading of tokens drops it
(`tokens_quoted_iff`).
-/

namespace VirtualTerminal

open Reading

theorem Reading.Agrees.toggles {r t : Reading} (h : Agrees r t) (c : Char) :
    r.toggles c = t.toggles c := by
  unfold Reading.toggles
  rw [h.insideAfter c, h.inside]

theorem Reading.toggles_of_insideAfter {r : Reading} {c : Char} (h : r.insideAfter c = r.inside) :
    r.toggles c = false := by
  unfold Reading.toggles
  simp only [h, ne_eq, not_true_eq_false, decide_false]

namespace Text

theorem tokensFrom_congr {r t : Reading} (h : Agrees r t) (current : Option Text) (s : Text) :
    tokensFrom r current s = tokensFrom t current s := by
  induction s generalizing r t current with
  | nil => rfl
  | cons c s ih => simp only [tokensFrom, h.toggles c, h.insideAfter c, ih (h.after c)]

/-! ## Cutting at a blank -/

theorem isQuote_of_neutral {c : Char} (h : Neutral c) : Quote.isQuote c = false := by
  unfold Quote.isQuote
  rw [h.1]
  rfl

theorem ofChar?_eq_none {c : Char} (h : Quote.isQuote c = false) : Quote.ofChar? c = none := by
  unfold Quote.isQuote at h
  simpa using h

theorem not_blank_of_quote {c : Char} (hc : Quote.isQuote c = true) : isBlank c = false := by
  refine Bool.eq_false_iff.mpr fun hblank => ?_
  rw [isQuote_of_neutral (neutral_of_blank hblank)] at hc
  cases hc

/-- The tokens on both sides of a blank outside of quotes. -/
theorem tokensFrom_append_blank {b : Char} (hb : isBlank b = true) {s : Text} {r : Reading}
    (h : (r.through s).inside = none) (current : Option Text) (u : Text) :
    tokensFrom r current (s ++ b :: u) = tokensFrom r current s ++ tokens u := by
  have hneutral := neutral_of_blank hb
  induction s generalizing r current with
  | nil =>
    have hinside : r.insideAfter b = none := (insideAfter_of_neutral hneutral r).trans h
    have htoggles := toggles_of_insideAfter (insideAfter_of_neutral hneutral r)
    rw [List.nil_append, tokensFrom, tokensFrom, if_neg (by simp [htoggles]),
      if_pos (by simp [hb, hinside])]
    exact congrArg (current.toList ++ ·) (tokensFrom_congr (agrees_start_after hneutral h) none u)
  | cons c s ih =>
    have hhead : (s ++ b :: u).head?.any Quote.isQuote = s.head?.any Quote.isQuote := by
      cases s with
      | nil => exact isQuote_of_neutral hneutral
      | cons d s => rfl
    have hrest : ((r.after c).through s).inside = none := h
    rw [List.cons_append, tokensFrom, tokensFrom, hhead]
    simp only [ih hrest]
    split
    · rfl
    · split
      · rw [List.append_assoc]
      · split <;> rfl

/-! ## Texts in quotes -/

/-- A backslash right before a quote is left out. -/
theorem tokensFrom_escaped (r : Reading) (current : Text) {c : Char} (hc : Quote.isQuote c = true)
    (rest : Text) :
    tokensFrom r (some current) ('\\' :: c :: rest) =
      tokensFrom (r.after '\\') (some current) (c :: rest) := by
  have htoggles : r.toggles '\\' = false := toggles_of_insideAfter rfl
  rw [tokensFrom, htoggles]
  simp [hc, show isBlank '\\' = false from rfl]

/-- Whether a text in double quotes is read as it is: none of its backslashes stands right before a
single quote, or at its end. -/
structure Quotable (t : Text) : Prop where
  no_escaped : ¬ ['\\', '\''] <:+: t
  no_trailing : t.getLast? ≠ some '\\'

instance : DecidablePred Quotable := fun t =>
  decidable_of_iff (¬ ['\\', '\''] <:+: t ∧ t.getLast? ≠ some '\\')
    ⟨fun h => ⟨h.1, h.2⟩, fun h => ⟨h.no_escaped, h.no_trailing⟩⟩

theorem Quotable.tail {c : Char} {t : Text} (h : Quotable (c :: t)) : Quotable t := by
  refine ⟨fun hin => h.no_escaped (hin.trans (List.suffix_cons c t).isInfix), ?_⟩
  cases t with
  | nil => exact fun heq => nomatch heq
  | cons d t => exact h.no_trailing

/-- Inside of a span, no character opens or closes one but a quote of its kind that no backslash
precedes. -/
theorem insideAfter_of_inside {r : Reading} {q : Quote} (hr : r.inside = some q) {c : Char}
    (hc : c ≠ q.char ∨ r.previous = some '\\') : r.insideAfter c = some q := by
  unfold insideAfter
  split
  · exact hr
  next p hp =>
    rw [hr]
    split
    · rfl
    next hprevious =>
      refine if_neg fun heq => ?_
      subst heq
      exact absurd (Quote.eq_char_of_ofChar? hp) (hc.resolve_right hprevious)

/-- A character that is kept inside of a span. -/
theorem tokensFrom_cons_of_inside {r : Reading} {q : Quote} (hr : r.inside = some q) {c : Char}
    (hc : c ≠ q.char ∨ r.previous = some '\\') {rest : Text}
    (hkept : c = '\\' → rest.head?.any Quote.isQuote = false) (current : Text) :
    tokensFrom r (some current) (c :: rest) =
      tokensFrom (r.after c) (some (current ++ [c])) rest := by
  have hinside := insideAfter_of_inside hr hc
  rw [tokensFrom, toggles_of_insideAfter (hinside.trans hr.symm), hinside]
  by_cases hslash : c = '\\'
  · simp [hslash, hkept hslash]
  · simp [hslash]

/-- What is read of a text in double quotes whose own double quotes are escaped: a backslash right before
a single quote is left out, and one at the end keeps the quote after it from ending the span. -/
def requoted : Text → Text
  | [] => []
  | c :: t =>
    if c = '\\' ∧ t = [] then ['"']
    else if c = '\\' ∧ t.head? = some '\'' then requoted t
    else c :: requoted t

theorem length_requoted_le (t : Text) : (requoted t).length ≤ t.length := by
  induction t with
  | nil => exact Nat.le_refl _
  | cons c t ih =>
    rw [requoted]
    split
    · simp
    · split
      · exact Nat.le_succ_of_le ih
      · exact Nat.succ_le_succ ih

theorem quotable_nil : Quotable [] :=
  ⟨fun h => absurd (List.infix_nil.mp h) (List.cons_ne_nil _ _), nofun⟩

theorem quotable_cons_iff {c : Char} {t : Text} :
    Quotable (c :: t) ↔ ¬ (c = '\\' ∧ t = []) ∧ ¬ (c = '\\' ∧ t.head? = some '\'') ∧ Quotable t := by
  constructor
  · intro h
    refine ⟨?_, ?_, h.tail⟩
    · rintro ⟨rfl, rfl⟩
      exact h.no_trailing rfl
    · rintro ⟨rfl, hhead⟩
      obtain ⟨rest, rfl⟩ := List.head?_eq_some_iff.mp hhead
      exact h.no_escaped ⟨[], rest, rfl⟩
  · rintro ⟨hlast, hescaped, ht⟩
    refine ⟨fun hinfix => ?_, ?_⟩
    · rcases List.infix_cons_iff.mp hinfix with hprefix | hinfix
      · obtain ⟨hc, hrest⟩ := List.cons_prefix_cons.mp hprefix
        obtain ⟨rest, rfl⟩ := hrest
        exact hescaped ⟨hc.symm, rfl⟩
      · exact ht.no_escaped hinfix
    · cases t with
      | nil => exact fun heq => hlast ⟨Option.some.inj heq, rfl⟩
      | cons d t => exact ht.no_trailing

/-- The texts that are read as they are. -/
theorem requoted_eq_self_iff {t : Text} : requoted t = t ↔ Quotable t := by
  induction t with
  | nil => exact iff_of_true rfl quotable_nil
  | cons c t ih =>
    rw [quotable_cons_iff, ← ih, requoted]
    by_cases hlast : c = '\\' ∧ t = []
    · obtain ⟨rfl, rfl⟩ := hlast
      simp
    · rw [if_neg hlast]
      by_cases hescaped : c = '\\' ∧ t.head? = some '\''
      · rw [if_pos hescaped]
        refine iff_of_false (fun heq => ?_) fun h => h.2.1 hescaped
        have hlength := length_requoted_le t
        rw [heq, List.length_cons] at hlength
        omega
      · rw [if_neg hescaped]
        simp [hlast, hescaped]

/-- A quote of the kind that opened a span ends it, if no backslash precedes it. -/
theorem insideAfter_closing {r : Reading} {q : Quote} (hr : r.inside = some q)
    (hprevious : r.previous ≠ some '\\') : r.insideAfter q.char = none := by
  unfold insideAfter
  rw [Quote.ofChar?_char]
  simp [hr, hprevious]

theorem toggles_closing {r : Reading} {q : Quote} (hr : r.inside = some q)
    (hprevious : r.previous ≠ some '\\') : r.toggles q.char = true := by
  unfold toggles
  rw [insideAfter_closing hr hprevious, hr]
  rfl

/-- The quote that ends a span at the end of a line. -/
theorem tokensFrom_closing {r : Reading} {q : Quote} (hr : r.inside = some q)
    (hprevious : r.previous ≠ some '\\') (current : Text) :
    tokensFrom r (some current) [q.char] = [current] := by
  rw [tokensFrom, toggles_closing hr hprevious]
  rfl

/-- Once its double quotes are escaped, a text starts with a quote only if that is a single one. -/
theorem isQuote_head?_escapeQuotes {t : Text} (hne : t ≠ []) (hsingle : t.head? ≠ some '\'')
    (rest : Text) : (escapeQuotes .double t ++ rest).head?.any Quote.isQuote = false := by
  obtain ⟨c, t, rfl⟩ := List.exists_cons_of_ne_nil hne
  have hc : c ≠ '\'' := fun hc => hsingle (congrArg some hc)
  by_cases hdouble : c = '"'
  · rw [escapeQuotes_cons_of_eq hdouble]
    rfl
  · rw [escapeQuotes_cons_of_ne hdouble]
    show Quote.isQuote c = false
    simp [Quote.isQuote, Quote.ofChar?, hc, hdouble]

/-- A text with its double quotes escaped and the quote after it. -/
theorem tokensFrom_escapeQuotes (t : Text) {r : Reading} (hr : r.inside = some .double)
    (hprevious : t = [] → r.previous ≠ some '\\') (current : Text) :
    tokensFrom r (some current) (escapeQuotes .double t ++ ['"']) = [current ++ requoted t] := by
  induction t generalizing r current with
  | nil =>
    show tokensFrom r (some current) ['"'] = [current ++ []]
    rw [List.append_nil]
    exact tokensFrom_closing (q := .double) hr (hprevious rfl) current
  | cons c t ih =>
    have hslash : (r.after '\\').inside = some .double := hr
    unfold requoted
    by_cases hquote : c = '"'
    · -- the backslash that escapes it is dropped
      subst hquote
      have hnext : ((r.after '\\').after '"').inside = some .double :=
        (insideAfter_of_inside hslash (.inr rfl) : (r.after '\\').insideAfter '"' = _)
      rw [escapeQuotes_cons_of_eq (show '"' = Quote.double.char from rfl), List.cons_append,
        List.cons_append, tokensFrom_escaped r current rfl,
        tokensFrom_cons_of_inside hslash (.inr rfl) (fun h => absurd h (by decide)),
        ih hnext fun _ h => absurd (Option.some.inj h) (by decide)]
      simp
    · rw [escapeQuotes_cons_of_ne hquote, List.cons_append]
      by_cases hlast : c = '\\' ∧ t = []
      · -- the quote at the end is read as one of the text
        obtain ⟨rfl, rfl⟩ := hlast
        show tokensFrom r (some current) ['\\', '"'] = [current ++ ['"']]
        rw [tokensFrom_escaped r current rfl,
          tokensFrom_cons_of_inside hslash (.inr rfl) (fun h => absurd h (by decide))]
        rfl
      · rw [if_neg hlast]
        by_cases hescaped : c = '\\' ∧ t.head? = some '\''
        · rw [if_pos hescaped]
          obtain ⟨rfl, hhead⟩ := hescaped
          obtain ⟨rest, rfl⟩ := List.head?_eq_some_iff.mp hhead
          rw [← ih hslash nofun current]
          exact tokensFrom_escaped r current rfl _
        · rw [if_neg hescaped]
          have hkept : c = '\\' →
              (escapeQuotes .double t ++ ['"']).head?.any Quote.isQuote = false := fun hc =>
            isQuote_head?_escapeQuotes (fun ht => hlast ⟨hc, ht⟩) (fun hhead => hescaped ⟨hc, hhead⟩) _
          have hnext : t = [] → (r.after c).previous ≠ some '\\' :=
            fun ht heq => hlast ⟨Option.some.inj heq, ht⟩
          have hinside : (r.after c).inside = some .double := insideAfter_of_inside hr (.inl hquote)
          rw [tokensFrom_cons_of_inside hr (.inl hquote) hkept, ih hinside hnext]
          simp

/-- A text in double quotes after a text whose own quotes match is one more token. -/
theorem tokens_append_quoted {s : Text} (hs : s.hasUnmatchedQuotes = false) (t : Text) :
    tokens (s ++ ' ' :: ('"' :: escapeQuotes .double t ++ ['"'])) = tokens s ++ [requoted t] := by
  have hinside : (Reading.start.through s).inside = none := by
    simpa [hasUnmatchedQuotes] using hs
  have hquoted : tokens ('"' :: escapeQuotes .double t ++ ['"']) = [requoted t] :=
    tokensFrom_escapeQuotes t (r := Reading.start.after '"') rfl (fun _ => by decide) []
  rw [← hquoted]
  exact tokensFrom_append_blank rfl hinside none _

/-- A text in double quotes that comes after a text whose own quotes match is one more token, and is
read as it is, exactly if none of its backslashes stands right before a single quote or at its end. -/
theorem tokens_quoted_iff {s : Text} (hs : s.hasUnmatchedQuotes = false) (t : Text) :
    tokens (s ++ " \"".toList ++ escapeQuotes .double t ++ "\"".toList) = tokens s ++ [t] ↔
      ¬ ['\\', '\''] <:+: t ∧ t.getLast? ≠ some '\\' := by
  have hline : s ++ " \"".toList ++ escapeQuotes .double t ++ "\"".toList =
      s ++ ' ' :: ('"' :: escapeQuotes .double t ++ ['"']) := by
    simp
  rw [hline, tokens_append_quoted hs, List.append_cancel_left_eq, List.cons.injEq,
    and_iff_left rfl, requoted_eq_self_iff]
  exact ⟨fun h => ⟨h.no_escaped, h.no_trailing⟩, fun h => ⟨h.1, h.2⟩⟩

/-- After two words in quotes, a text with a backslash before a double quote is read as it is, and one
with a backslash before a single quote is not. -/
theorem tokens_quoted_iff_words :
    let s : Text := "show 'a b' \"it's\"".toList
    s.hasUnmatchedQuotes = false ∧
      tokens (s ++ " \"".toList ++ escapeQuotes .double "c\\\"".toList ++ "\"".toList) =
        ["show".toList, "a b".toList, "it's".toList, "c\\\"".toList] ∧
      tokens (s ++ " \"".toList ++ escapeQuotes .double "\\'".toList ++ "\"".toList) ≠
        tokens s ++ ["\\'".toList] := by
  intro s
  have hs : s.hasUnmatchedQuotes = false := by decide
  have htokens : tokens s = ["show".toList, "a b".toList, "it's".toList] := by decide
  refine ⟨hs, ?_, fun heq => ?_⟩
  · rw [(tokens_quoted_iff hs "c\\\"".toList).mpr (by decide), htokens]
    rfl
  · exact absurd ((tokens_quoted_iff hs "\\'".toList).mp heq) (by decide)

end Text

end VirtualTerminal
