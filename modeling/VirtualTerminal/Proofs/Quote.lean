import VirtualTerminal.Quote
import VirtualTerminal.Proofs.Text.Blank

/-!
# Readings that agree

Two readings agree if they stand inside of the same span and a quote would be escaped after both or
after neither. What follows them is then read alike (`Agrees.insideAfter`, `Agrees.through`), so a
slice of a text that starts outside of quotes can be read from a fresh start (`agrees_start`).
-/

namespace VirtualTerminal

namespace Reading

/-- Whether two readings read all that follows alike. -/
structure Agrees (r t : Reading) : Prop where
  inside : r.inside = t.inside
  escaped : r.previous = some '\\' ↔ t.previous = some '\\'

@[refl] theorem Agrees.refl (r : Reading) : Agrees r r := ⟨rfl, Iff.rfl⟩

theorem Agrees.symm {r t : Reading} (h : Agrees r t) : Agrees t r :=
  ⟨h.inside.symm, h.escaped.symm⟩

theorem Agrees.trans {r t u : Reading} (h : Agrees r t) (h' : Agrees t u) : Agrees r u :=
  ⟨h.inside.trans h'.inside, h.escaped.trans h'.escaped⟩

theorem Agrees.insideAfter {r t : Reading} (h : Agrees r t) (c : Char) :
    r.insideAfter c = t.insideAfter c := by
  unfold Reading.insideAfter
  cases Quote.ofChar? c with
  | none => exact h.inside
  | some q => simp only [h.inside, h.escaped]

theorem Agrees.after {r t : Reading} (h : Agrees r t) (c : Char) : Agrees (r.after c) (t.after c) :=
  ⟨h.insideAfter c, Iff.rfl⟩

theorem Agrees.through {r t : Reading} (h : Agrees r t) (s : Text) :
    Agrees (r.through s) (t.through s) := by
  induction s generalizing r t with
  | nil => exact h
  | cons c s ih => exact ih (h.after c)

/-- A reading outside of quotes that no backslash ends agrees with the start of a text. -/
theorem agrees_start {r : Reading} (hin : r.inside = none) (hesc : r.previous ≠ some '\\') :
    Agrees r start :=
  ⟨hin, iff_of_false hesc (by decide)⟩

/-! ## Neutral characters -/

/-- Whether a character is neither a quote nor a backslash. -/
def Neutral (c : Char) : Prop :=
  Quote.ofChar? c = none ∧ c ≠ '\\'

instance : DecidablePred Neutral := fun _ => inferInstanceAs (Decidable (_ ∧ _))

theorem forall_neutral {w : Text} (h : (w.all fun c => decide (Neutral c)) = true) :
    ∀ c ∈ w, Neutral c :=
  fun c hc => of_decide_eq_true (List.all_eq_true.mp h c hc)

theorem neutral_of_blank {c : Char} (hc : isBlank c = true) : Neutral c := by
  constructor
  · unfold Quote.ofChar?
    rw [if_neg, if_neg]
    · rintro rfl; exact absurd hc (by decide)
    · rintro rfl; exact absurd hc (by decide)
  · rintro rfl
    exact absurd hc (by decide)

theorem insideAfter_of_not_quote {c : Char} (hc : Quote.ofChar? c = none) (r : Reading) :
    r.insideAfter c = r.inside := by
  unfold insideAfter
  rw [hc]

theorem insideAfter_of_neutral {c : Char} (hc : Neutral c) (r : Reading) :
    r.insideAfter c = r.inside :=
  insideAfter_of_not_quote hc.1 r

theorem agrees_start_after {r : Reading} {c : Char} (hc : Neutral c) (hin : r.inside = none) :
    Agrees (r.after c) start := by
  refine agrees_start ?_ fun h => hc.2 (Option.some.inj h)
  show r.insideAfter c = none
  rw [insideAfter_of_neutral hc, hin]

/-- A text without quotes neither opens nor closes a span. -/
theorem inside_through_of_not_quote {w : Text} (hw : ∀ c ∈ w, Quote.ofChar? c = none) (r : Reading) :
    (r.through w).inside = r.inside := by
  induction w generalizing r with
  | nil => rfl
  | cons c w ih =>
    rw [through_cons, ih (fun d hd => hw d (List.mem_cons_of_mem _ hd))]
    exact insideAfter_of_not_quote (hw c List.mem_cons_self) r

theorem inside_through_of_neutral {w : Text} (hw : ∀ c ∈ w, Neutral c) (r : Reading) :
    (r.through w).inside = r.inside :=
  inside_through_of_not_quote (fun c hc => (hw c hc).1) r

theorem agrees_start_through {w : Text} (hw : ∀ c ∈ w, Neutral c) {r : Reading}
    (hr : Agrees r start) : Agrees (r.through w) start := by
  induction w generalizing r with
  | nil => exact hr
  | cons c w ih =>
    rw [through_cons]
    exact ih (fun d hd => hw d (List.mem_cons_of_mem _ hd))
      (agrees_start_after (hw c List.mem_cons_self) hr.inside)

end Reading

/-! ## Unmatched quotes of a trimmed text -/

namespace Text

open Reading

theorem AllBlank.neutral {w : Text} (hw : AllBlank w) : ∀ c ∈ w, Neutral c :=
  fun c hc => neutral_of_blank (hw c hc)

theorem hasUnmatchedQuotes_trim (s : Text) :
    (trim s).hasUnmatchedQuotes = s.hasUnmatchedQuotes := by
  obtain ⟨w, v, hw, hv, hs⟩ := exists_eq_trim s
  unfold hasUnmatchedQuotes
  conv_rhs => rw [hs]
  rw [through_append, through_append, inside_through_of_neutral hv.neutral,
    ((agrees_start_through hw.neutral (Agrees.refl _)).through _).inside]

/-! ## Escaping a character -/

theorem escapeQuotes_cons_of_eq {q : Quote} {c : Char} (h : c = q.char) (t : Text) :
    escapeQuotes q (c :: t) = '\\' :: c :: escapeQuotes q t :=
  if_pos h

theorem escapeQuotes_cons_of_ne {q : Quote} {c : Char} (h : c ≠ q.char) (t : Text) :
    escapeQuotes q (c :: t) = c :: escapeQuotes q t :=
  if_neg h

end Text

end VirtualTerminal
