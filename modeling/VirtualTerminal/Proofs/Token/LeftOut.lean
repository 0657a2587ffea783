import VirtualTerminal.Proofs.Token.Runs

/-!
# What is left out of tokens

A character that is no blank is in a token or has been left out, so how often it is left out can be told
from the tokens (`count_tokensFrom`). From this follows which texts are read back as they are: a word that
stands alone (`tokens_eq_singleton_iff`), and a text between single quotes after a name and an equals sign
(`tokens_assigned_iff`).
-/

namespace VirtualTerminal.Text

open Reading

/-- Whether a character is left out of its token, given what follows it. -/
def isLeftOut (r : Reading) (c : Char) (rest : Text) : Bool :=
  r.toggles c || (c = '\\' && rest.head?.any Quote.isQuote)

/-- How often a character is left out of the tokens of what follows a reading. -/
def leftOutFrom (r : Reading) (q : Char) : Text → Nat
  | [] => 0
  | c :: rest => (if c = q ∧ isLeftOut r c rest then 1 else 0) + leftOutFrom (r.after c) q rest

section Counts

variable {r : Reading} {q c : Char} {s t rest : Text}

/-- A character of a token is kept in it or left out. -/
theorem count_kept (r : Reading) (q c : Char) (rest : Text) :
    (if isLeftOut r c rest then [] else [c]).count q +
      (if c = q ∧ isLeftOut r c rest then 1 else 0) = [c].count q := by
  by_cases hc : c = q
  · subst hc
    cases isLeftOut r c rest <;> simp
  · cases isLeftOut r c rest <;> simp [hc]

/-- A character that is no blank is in a token, or it has been left out. -/
theorem count_tokensFrom (hq : isBlank q = false) (r : Reading) (current : Option Text) (s : Text) :
    (tokensFrom r current s).flatten.count q + leftOutFrom r q s =
      (current.getD []).count q + s.count q := by
  induction s generalizing r current with
  | nil => cases current <;> simp [tokensFrom, leftOutFrom]
  | cons c rest ih =>
    rw [tokensFrom_cons, leftOutFrom, show c :: rest = [c] ++ rest from rfl, List.count_append]
    split
    next hblank =>
      have hne : c ≠ q := by
        rintro rfl
        simp [hq] at hblank
      have htoken : current.toList.flatten.count q = (current.getD []).count q := by
        cases current <;> simp
      have hrest := ih (r.after c) none
      rw [Option.getD_none, List.count_nil] at hrest
      rw [List.flatten_append, List.count_append, htoken, if_neg fun h => hne h.1,
        List.count_eq_zero.mpr fun h => hne (List.mem_singleton.mp h).symm]
      omega
    next =>
      have hkept := count_kept r q c rest
      have hrest := ih (r.after c) (some (current.getD [] ++ if isLeftOut r c rest then [] else [c]))
      rw [Option.getD_some, List.count_append] at hrest
      unfold isLeftOut at hkept hrest ⊢
      omega

theorem length_flatten_tokensFrom_le (r : Reading) (current : Option Text) (s : Text) :
    (tokensFrom r current s).flatten.length ≤ (current.getD []).length + s.length := by
  induction s generalizing r current with
  | nil => cases current <;> simp [tokensFrom]
  | cons c rest ih =>
    rw [tokensFrom_cons, List.length_cons]
    split
    next =>
      have htoken : current.toList.flatten.length = (current.getD []).length := by
        cases current <;> simp
      have hrest := ih (r.after c) none
      rw [Option.getD_none, List.length_nil] at hrest
      rw [List.flatten_append, List.length_append, htoken]
      omega
    next =>
      refine (ih _ _).trans ?_
      rw [Option.getD_some, List.length_append]
      split
      · rw [List.length_nil]
        omega
      · rw [List.length_singleton]
        omega

/-- The one token that is short enough is the only token, if the rest of the text leaves no room for a
longer one. -/
theorem tokens_eq_of_filter {w : Text} {n : Nat} (hfilter : (tokens s).filter (·.length ≤ n) = [w])
    (hlength : s.length ≤ w.length + n) : tokens s = [w] := by
  rw [← hfilter, eq_comm, List.filter_eq_self]
  intro t ht
  by_contra hlong
  have hboth := (List.filter_append_perm (fun t : Text => decide (t.length ≤ n))
    (tokens s)).flatten.length_eq
  have hle := length_flatten_tokensFrom_le start none s
  have hmem : t ∈ (tokens s).filter fun t => !decide (t.length ≤ n) :=
    List.mem_filter.mpr ⟨ht, by simpa using hlong⟩
  have hmost := (List.sublist_flatten_of_mem hmem).length_le
  have hn : n < t.length := by simpa using hlong
  rw [List.flatten_append, List.length_append, hfilter, List.flatten_singleton] at hboth
  change (tokens s).flatten.length ≤ 0 + s.length at hle
  omega

/-- In a part of a text no more is left out than in the whole. -/
theorem leftOutFrom_through_le (r : Reading) (q : Char) (s t : Text) :
    leftOutFrom (r.through s) q t ≤ leftOutFrom r q (s ++ t) := by
  induction s generalizing r with
  | nil => exact Nat.le_refl _
  | cons c s ih =>
    rw [List.cons_append, leftOutFrom]
    exact (ih (r.after c)).trans (Nat.le_add_left _ _)

theorem leftOutFrom_cons_pos (h : isLeftOut r c rest = true) : 0 < leftOutFrom r c (c :: rest) := by
  rw [leftOutFrom, if_pos ⟨rfl, h⟩]
  omega

/-- If no backslash is left out, none stands right before a quote. -/
theorem not_escaped_of_leftOutFrom (h : leftOutFrom r '\\' s = 0) (hc : Quote.isQuote c = true) :
    ¬ ['\\', c] <:+: s := by
  rintro ⟨before, after, rfl⟩
  have hout : isLeftOut (r.through before) '\\' (c :: after) = true := by
    simp [isLeftOut, hc]
  have hle := leftOutFrom_through_le r '\\' before ('\\' :: c :: after)
  have hpos := leftOutFrom_cons_pos hout
  rw [List.append_assoc, List.cons_append, List.cons_append, List.nil_append] at h
  omega

end Counts

/-! ## Quotes that are left out -/

section Quotes

variable {r : Reading} {c : Char} {s : Text}

/-- Outside of all spans, a quote that no backslash precedes opens one of its kind. -/
theorem insideAfter_of_outside {q : Quote} (hr : r.inside = none) (hprevious : r.previous ≠ some '\\') :
    r.insideAfter q.char = some q := by
  unfold insideAfter
  rw [Quote.ofChar?_char, hr]
  simp [hprevious]

theorem toggles_of_outside (hr : r.inside = none) (hprevious : r.previous ≠ some '\\')
    (hc : Quote.isQuote c = true) : r.toggles c = true := by
  obtain ⟨q, hq⟩ := Option.isSome_iff_exists.mp hc
  rw [Quote.eq_char_of_ofChar? hq]
  unfold toggles
  rw [insideAfter_of_outside hr hprevious, hr]
  rfl

/-- The first quote of a text outside of all spans is left out, or a backslash before it is. -/
theorem leftOutFrom_pos_of_quote (hr : r.inside = none) {before : Text}
    (hbefore : ∀ d ∈ before, Quote.isQuote d = false) (hc : Quote.isQuote c = true)
    (hprevious : before = [] → r.previous ≠ some '\\') (after : Text) :
    0 < leftOutFrom r c (before ++ c :: after) ∨ 0 < leftOutFrom r '\\' (before ++ c :: after) := by
  induction before generalizing r with
  | nil =>
    left
    refine leftOutFrom_cons_pos ?_
    rw [isLeftOut, toggles_of_outside hr (hprevious rfl) hc, Bool.true_or]
  | cons d before ih =>
    obtain ⟨hd, hbefore⟩ := List.forall_mem_cons.mp hbefore
    have hinside : (r.after d).inside = none :=
      (insideAfter_of_not_quote (ofChar?_eq_none hd) r).trans hr
    by_cases hescape : before = [] ∧ d = '\\'
    · obtain ⟨rfl, rfl⟩ := hescape
      right
      refine leftOutFrom_cons_pos ?_
      simp [isLeftOut, hc]
    · have hrest := ih hinside hbefore fun hnil heq => hescape ⟨hnil, Option.some.inj heq⟩
      rw [List.cons_append, leftOutFrom, leftOutFrom]
      omega

theorem insideAfter_of_not_toggles (h : r.toggles c = false) : r.insideAfter c = r.inside := by
  unfold toggles at h
  simpa using h

/-- Outside of double quotes, a single quote that no backslash precedes starts or ends a span. -/
theorem toggles_single (hr : r.inside ≠ some .double) (hprevious : r.previous ≠ some '\\') :
    r.toggles '\'' = true ∧ r.insideAfter '\'' ≠ some .double := by
  cases hin : r.inside with
  | none =>
    have hopen : r.insideAfter '\'' = some .single := insideAfter_of_outside (q := .single) hin hprevious
    exact ⟨toggles_of_outside hin hprevious rfl, by rw [hopen]; decide⟩
  | some q =>
    cases q with
    | double => exact absurd hin hr
    | single =>
      have hclose : r.insideAfter '\'' = none := insideAfter_closing (q := .single) hin hprevious
      exact ⟨toggles_closing (q := .single) hin hprevious, by rw [hclose]; decide⟩

/-- If neither a double quote nor a backslash is left out, then all single quotes are. -/
theorem leftOutFrom_single (hr : r.inside ≠ some .double)
    (hprevious : r.previous = some '\\' → s.head?.any Quote.isQuote = false)
    (hslash : leftOutFrom r '\\' s = 0) (hdouble : leftOutFrom r '"' s = 0) :
    leftOutFrom r '\'' s = s.count '\'' := by
  induction s generalizing r with
  | nil => rfl
  | cons c rest ih =>
    have hquoted : Quote.isQuote c = true → r.previous ≠ some '\\' := fun hc heq => by
      have hhead := hprevious heq
      rw [show (c :: rest).head?.any Quote.isQuote = Quote.isQuote c from rfl, hc] at hhead
      cases hhead
    have hnext : (r.after c).previous = some '\\' → rest.head?.any Quote.isQuote = false := by
      intro heq
      obtain rfl : c = '\\' := Option.some.inj heq
      refine Bool.eq_false_iff.mpr fun hhead => ?_
      have hpos : 0 < leftOutFrom r '\\' ('\\' :: rest) :=
        leftOutFrom_cons_pos (by simp [isLeftOut, hhead])
      omega
    rw [leftOutFrom] at hslash hdouble ⊢
    have hrest : (r.after c).inside ≠ some .double →
        leftOutFrom (r.after c) '\'' rest = rest.count '\'' :=
      fun h => ih h hnext (by omega) (by omega)
    by_cases hsingle : c = '\''
    · subst hsingle
      obtain ⟨htoggles, hinside⟩ := toggles_single hr (hquoted rfl)
      rw [hrest hinside, List.count_cons_self, if_pos ⟨rfl, by simp [isLeftOut, htoggles]⟩]
      omega
    · rw [List.count_cons_of_ne hsingle, if_neg fun h => hsingle h.1, Nat.zero_add]
      refine hrest ?_
      show r.insideAfter c ≠ some .double
      by_cases hquote : c = '"'
      · have hstays : r.toggles c = false := by
          by_contra htoggles
          rw [if_pos ⟨hquote, by simp [isLeftOut, htoggles]⟩] at hdouble
          omega
        rw [insideAfter_of_not_toggles hstays]
        exact hr
      · rw [insideAfter_of_not_quote (by simp [Quote.ofChar?, hsingle, hquote])]
        exact hr

/-- If no backslash is left out of a text, and no quote that stands in its beginning, then there is no
quote in its beginning. -/
theorem not_quote_of_leftOutFrom (w next : Text) (hslash : leftOutFrom start '\\' (w ++ next) = 0)
    (hout : ∀ c ∈ w, Quote.isQuote c = true → leftOutFrom start c (w ++ next) = 0) :
    ∀ c ∈ w, Quote.isQuote c = false := by
  by_contra hsome
  simp only [not_forall, Bool.not_eq_false] at hsome
  obtain ⟨d, hd, hquote⟩ := hsome
  cases hfind : w.find? Quote.isQuote with
  | none => exact List.find?_eq_none.mp hfind d hd hquote
  | some c =>
    obtain ⟨hc, before, after, rfl, hbefore⟩ := List.find?_eq_some_iff_append.mp hfind
    have hpos := leftOutFrom_pos_of_quote (r := start) rfl
      (fun e he => by simpa using hbefore e he) hc (fun _ => by decide) (after ++ next)
    have hzero := hout c (by simp) hc
    rw [List.append_assoc, List.cons_append] at hslash hzero
    omega

end Quotes

/-! ## Texts that are read as they are -/

section Words

variable {s w next : Text}

/-- Characters that are neither quotes nor blanks go to the token, unless the last of them is a backslash
before a quote. -/
theorem tokensFrom_plain (hw : ∀ c ∈ w, Quote.isQuote c = false ∧ isBlank c = false) (hne : w ≠ [])
    (hend : w.getLast? = some '\\' → next.head?.any Quote.isQuote = false) (r : Reading)
    (current : Option Text) :
    tokensFrom r current (w ++ next) = tokensFrom (r.through w) (some (current.getD [] ++ w)) next := by
  induction w generalizing r current with
  | nil => exact absurd rfl hne
  | cons c w ih =>
    obtain ⟨⟨hquote, hblank⟩, hw⟩ := List.forall_mem_cons.mp hw
    have hstays := insideAfter_of_not_quote (ofChar?_eq_none hquote) r
    have hkept : (c = '\\' && (w ++ next).head?.any Quote.isQuote) = false := by
      cases w with
      | nil =>
        by_cases hc : c = '\\'
        · rw [List.nil_append, hend (congrArg some hc), Bool.and_false]
        · simp [hc]
      | cons d w =>
        obtain ⟨⟨hd, -⟩, -⟩ := List.forall_mem_cons.mp hw
        simp [hd]
    rw [List.cons_append, tokensFrom_cons, hblank, Bool.false_and, if_neg Bool.false_ne_true,
      toggles_of_insideAfter hstays, Bool.false_or, hkept, if_neg Bool.false_ne_true, through_cons]
    cases w with
    | nil => rfl
    | cons d w =>
      rw [ih hw (List.cons_ne_nil d w) hend, Option.getD_some, List.append_assoc]
      rfl

/-- Without quotes, a token that has been begun goes on with the word that follows it at once. -/
theorem tokensFrom_eq_words (hs : ∀ c ∈ s, Quote.isQuote c = false) {r : Reading} (hr : r.inside = none) :
    tokensFrom r none s = words s ∧ ∀ current, tokensFrom r (some current) s =
      if s.head?.any (!isBlank ·) then (words s).modifyHead (current ++ ·) else current :: words s := by
  induction s generalizing r with
  | nil => exact ⟨rfl, fun current => rfl⟩
  | cons c rest ih =>
    obtain ⟨hquote, hs⟩ := List.forall_mem_cons.mp hs
    have hstays := insideAfter_of_not_quote (ofChar?_eq_none hquote) r
    obtain ⟨hnone, hsome⟩ := ih hs (r := r.after c) (hstays.trans hr)
    have hhead : rest.head?.any Quote.isQuote = false := by
      cases rest with
      | nil => rfl
      | cons d rest => exact hs d List.mem_cons_self
    rw [tokensFrom_cons, hstays, hr, toggles_of_insideAfter hstays, hhead]
    cases hc : isBlank c with
    | true =>
      refine ⟨?_, fun current => ?_⟩
      · simp [words_cons_of_blank hc, hnone]
      · rw [tokensFrom_cons, hstays, hr]
        simp [words_cons_of_blank hc, hc, hnone]
    | false =>
      refine ⟨?_, fun current => ?_⟩
      · simp [hsome, words_cons hc]
      · rw [tokensFrom_cons, hstays, hr, toggles_of_insideAfter hstays, hhead, words_cons hc]
        by_cases hword : rest.head?.any (!isBlank ·) = true <;>
          simp [hc, hsome, hword, List.modifyHead_modifyHead, Function.comp_def]

/-- The tokens of a text without quotes are its words. -/
theorem tokens_eq_words (hs : ∀ c ∈ s, Quote.isQuote c = false) : tokens s = words s :=
  (tokensFrom_eq_words hs rfl).1

/-- A text is its own only token exactly if it is a word without quotes. -/
theorem tokens_eq_singleton_iff :
    tokens s = [s] ↔ s ≠ [] ∧ ∀ c ∈ s, Quote.isQuote c = false ∧ isBlank c = false := by
  constructor
  · intro h
    have hcount : ∀ q, isBlank q = false → leftOutFrom start q s = 0 := fun q hq => by
      have hcount := count_tokensFrom hq start none s
      rw [show tokensFrom start none s = [s] from h, List.flatten_singleton, Option.getD_none,
        List.count_nil] at hcount
      omega
    have hquote := not_quote_of_leftOutFrom s []
      (by rw [List.append_nil]; exact hcount '\\' (by decide))
      (fun c _ hc => by rw [List.append_nil]; exact hcount c (not_blank_of_quote hc))
    rw [tokens_eq_words hquote] at h
    refine ⟨?_, fun c hc => ⟨hquote c hc, ?_⟩⟩
    · rintro rfl
      cases h
    · exact not_blank_of_mem_words (h ▸ List.mem_singleton_self s) c hc
  · rintro ⟨hne, hs⟩
    have hplain : tokensFrom start none (s ++ []) = [s] := tokensFrom_plain hs hne (fun _ => rfl) start none
    rw [List.append_nil] at hplain
    exact hplain

end Words

section Assigned

variable {name text : Text}

/-- A text that holds no quote of the kind it is enclosed in, and no backslash right before another quote
or at its end, is read as it is. -/
theorem tokensFrom_enclosed {q : Quote} {r : Reading} (hr : r.inside = some q)
    (hquote : q.char ∉ text) (hescaped : ∀ c, Quote.isQuote c = true → ¬ ['\\', c] <:+: text)
    (htrailing : text.getLast? ≠ some '\\') (hprevious : text = [] → r.previous ≠ some '\\')
    (current : Text) :
    tokensFrom r (some current) (text ++ [q.char]) = [current ++ text] := by
  induction text generalizing r current with
  | nil =>
    rw [List.append_nil]
    exact tokensFrom_closing hr (hprevious rfl) current
  | cons c text ih =>
    obtain ⟨hc, hquote⟩ := not_or.mp (mt List.mem_cons.mpr hquote)
    have hkept : c = '\\' → (text ++ [q.char]).head?.any Quote.isQuote = false := by
      rintro rfl
      cases text with
      | nil => exact absurd rfl htrailing
      | cons d text =>
        refine Bool.eq_false_iff.mpr fun hd => hescaped d hd ⟨[], text, rfl⟩
    have hinside : (r.after c).inside = some q := insideAfter_of_inside hr (.inl (Ne.symm hc))
    have hlast : text = [] → (r.after c).previous ≠ some '\\' := by
      rintro rfl
      exact htrailing
    rw [List.cons_append, tokensFrom_cons_of_inside hr (.inl (Ne.symm hc)) hkept,
      ih hinside hquote (fun d hd hin => hescaped d hd (hin.trans (List.suffix_cons c text).isInfix)) ?_
        hlast]
    · rw [List.append_assoc]
      rfl
    · cases text with
      | nil => exact fun heq => nomatch heq
      | cons d text => exact htrailing

/-- A name, an equals sign and a text in single quotes are read as one token without the quotes exactly if
there is no quote in the name, no single quote in the text, and no backslash of the text right before a
double quote or at its end. -/
theorem tokens_assigned_iff (hname : ∀ c ∈ name, isBlank c = false) :
    tokens (name ++ '=' :: '\'' :: (text ++ ['\''])) = [name ++ '=' :: text] ↔
      (∀ c ∈ name, Quote.isQuote c = false) ∧ '\'' ∉ text ∧ ¬ ['\\', '"'] <:+: text ∧
        text.getLast? ≠ some '\\' := by
  constructor
  · intro h
    -- the token lacks just two single quotes of the text it is read from
    have hcount : ∀ q, isBlank q = false → (name ++ '=' :: text).count q +
        leftOutFrom start q (name ++ '=' :: '\'' :: (text ++ ['\''])) =
          (name ++ '=' :: '\'' :: (text ++ ['\''])).count q := fun q hq => by
      have hcount := count_tokensFrom hq start none (name ++ '=' :: '\'' :: (text ++ ['\'']))
      rw [show tokensFrom start none _ = [name ++ '=' :: text] from h, List.flatten_singleton,
        Option.getD_none, List.count_nil, Nat.zero_add] at hcount
      exact hcount
    have hslash : leftOutFrom start '\\' (name ++ '=' :: '\'' :: (text ++ ['\''])) = 0 := by
      have hcount := hcount '\\' (by decide)
      simp [List.count_append] at hcount
      omega
    have hdouble : leftOutFrom start '"' (name ++ '=' :: '\'' :: (text ++ ['\''])) = 0 := by
      have hcount := hcount '"' (by decide)
      simp [List.count_append] at hcount
      omega
    have hsingle : '\'' ∉ name ++ '=' :: text := by
      have hcount := hcount '\'' (by decide)
      rw [leftOutFrom_single (by decide) (fun heq => absurd heq (by decide)) hslash hdouble] at hcount
      exact List.count_eq_zero.mp (by omega)
    have hinfix : text <:+: name ++ '=' :: '\'' :: (text ++ ['\'']) :=
      ⟨name ++ ['=', '\''], ['\''], by simp⟩
    refine ⟨not_quote_of_leftOutFrom name _ hslash fun c hc hquote => ?_,
      fun hmem => hsingle (by simp [hmem]),
      fun hin => not_escaped_of_leftOutFrom hslash (c := '"') rfl (hin.trans hinfix), fun hlast => ?_⟩
    · obtain ⟨q, hq⟩ := Option.isSome_iff_exists.mp hquote
      rw [Quote.eq_char_of_ofChar? hq] at hc ⊢
      cases q with
      | double => exact hdouble
      | single => exact absurd (List.mem_append_left _ hc) hsingle
    · obtain ⟨before, rfl⟩ := List.getLast?_eq_some_iff.mp hlast
      refine not_escaped_of_leftOutFrom hslash (c := '\'') rfl ⟨name ++ '=' :: '\'' :: before, [], ?_⟩
      simp
  · rintro ⟨hquote, hsingle, hdouble, htrailing⟩
    have hplain : ∀ c ∈ name ++ ['='], Quote.isQuote c = false ∧ isBlank c = false := fun c hc => by
      rcases List.mem_append.mp hc with hc | hc
      · exact ⟨hquote c hc, hname c hc⟩
      · rw [List.mem_singleton.mp hc]
        exact ⟨rfl, rfl⟩
    have houtside : (start.through (name ++ ['='])).inside = none :=
      inside_through_of_not_quote (fun c hc => ofChar?_eq_none (hplain c hc).1) start
    have hprevious : (start.through (name ++ ['='])).previous ≠ some '\\' := by
      rw [through_append]
      exact fun heq => absurd (Option.some.inj heq) (by decide)
    have hopen := insideAfter_of_outside (q := .single) houtside hprevious
    have hescaped : ∀ c, Quote.isQuote c = true → ¬ ['\\', c] <:+: text := fun c hc hin => by
      obtain ⟨q, hq⟩ := Option.isSome_iff_exists.mp hc
      rw [Quote.eq_char_of_ofChar? hq] at hin
      cases q with
      | single => exact hsingle (hin.subset (by simp [Quote.char]))
      | double => exact hdouble hin
    rw [show name ++ '=' :: '\'' :: (text ++ ['\'']) = (name ++ ['=']) ++ '\'' :: (text ++ ['\'']) by simp,
      show name ++ '=' :: text = (name ++ ['=']) ++ text by simp]
    rw [tokens, tokensFrom_plain hplain (by simp) (by simp), tokensFrom,
      if_pos (toggles_of_outside houtside hprevious rfl)]
    exact tokensFrom_enclosed (q := .single) hopen hsingle hescaped htrailing
      (fun _ heq => absurd (Option.some.inj heq) (by decide)) (name ++ ['='])

end Assigned

end VirtualTerminal.Text
