import VirtualTerminal.Line.Ansi
import VirtualTerminal.Proofs.Text.Split

/-!
# What colours change on a terminal

Without its style sequences, a text in a style is the text (`unstyle_style`), and a line in colour is the
text of the line and perhaps its link (`unstyle_render`). Colours would change nothing else if the link were
looked for in the text. It is looked for in what is written, though: there a link that crosses the border
of a coloured run is not found, and one that begins or ends inside a sequence is. So a line looks alike in
both modes exactly if the stretches between two escape characters hold the link when the text does
(`render_alike_iff`).
-/

namespace VirtualTerminal

open Text

/-! ## Deleting style sequences -/

namespace Line

/-- The characters of parameters. -/
def isParameter (c : Char) : Bool :=
  c.isDigit || c = ';'

/-- An escape character and what follows it, without the style sequence that they may start with. -/
def afterEscape (piece : Text) : Text :=
  match piece with
  | '[' :: rest =>
    match rest.dropWhile isParameter with
    | 'm' :: shown => shown
    | _ => '\x1b' :: piece
  | _ => '\x1b' :: piece

/-- A text without its style sequences. -/
def unstyle (s : Text) : Text :=
  match split '\x1b' s with
  | [] => []
  | first :: pieces => first ++ pieces.flatMap afterEscape

variable {p s t : Text}

theorem afterEscape_sequence (hp : p.all isParameter = true) (t : Text) :
    afterEscape ('[' :: (p ++ 'm' :: t)) = t := by
  have hdrop : (p ++ 'm' :: t).dropWhile isParameter = 'm' :: t := by
    rw [List.dropWhile_append_of_pos (List.all_eq_true.mp hp),
      List.dropWhile_cons_of_neg (by decide : ¬ isParameter 'm' = true)]
  simp only [afterEscape, hdrop]

theorem unstyle_of_split {first : Text} {pieces : List Text} (h : split '\x1b' s = first :: pieces) :
    unstyle s = first ++ pieces.flatMap afterEscape := by
  rw [unstyle, h]

theorem unstyle_of_not_mem (h : '\x1b' ∉ s) : unstyle s = s := by
  rw [unstyle_of_split (split_of_not_mem h), List.flatMap_nil, List.append_nil]

@[simp] theorem unstyle_nil : unstyle [] = [] :=
  rfl

theorem unstyle_escape_cons (t : Text) : unstyle ('\x1b' :: t) = (split '\x1b' t).flatMap afterEscape :=
  unstyle_of_split (split_cut List.not_mem_nil t)

/-- What stands in front of an escape character is read by itself. -/
theorem unstyle_append_escape (s t : Text) :
    unstyle (s ++ '\x1b' :: t) = unstyle s ++ unstyle ('\x1b' :: t) := by
  obtain ⟨first, pieces, hs⟩ := List.exists_cons_of_ne_nil (split_ne_nil '\x1b' s)
  have hsplit : split '\x1b' (s ++ '\x1b' :: t) = first :: (pieces ++ split '\x1b' t) := by
    rw [split_append_cons, hs, List.cons_append]
  rw [unstyle_of_split hsplit, unstyle_of_split hs, unstyle_escape_cons, List.flatMap_append,
    List.append_assoc]

theorem unstyle_append_of_not_mem (h : '\x1b' ∉ s) (t : Text) : unstyle (s ++ t) = s ++ unstyle t := by
  obtain ⟨first, pieces, ht⟩ := List.exists_cons_of_ne_nil (split_ne_nil '\x1b' t)
  have hsplit : split '\x1b' (s ++ t) = (s ++ first) :: pieces := by
    rw [split_append_of_not_mem h, ht, List.modifyHead_cons]
  rw [unstyle_of_split hsplit, unstyle_of_split ht, List.append_assoc]

/-- A style sequence at the start is not shown. -/
theorem unstyle_sequence_append (hp : p.all isParameter = true) (t : Text) :
    unstyle (sequence p ++ t) = unstyle t := by
  have hopen : '\x1b' ∉ '[' :: (p ++ ['m']) := by
    have hmem : '\x1b' ∉ p := fun h => absurd (List.all_eq_true.mp hp _ h) (by decide)
    simp [hmem]
  obtain ⟨first, pieces, ht⟩ := List.exists_cons_of_ne_nil (split_ne_nil '\x1b' t)
  have hsplit : split '\x1b' ('[' :: (p ++ ['m']) ++ t) = ('[' :: (p ++ 'm' :: first)) :: pieces := by
    rw [split_append_of_not_mem hopen, ht]
    simp
  have hsequence : sequence p ++ t = '\x1b' :: ('[' :: (p ++ ['m']) ++ t) := by
    simp [sequence]
  rw [hsequence, unstyle_escape_cons, hsplit, List.flatMap_cons, afterEscape_sequence hp,
    unstyle_of_split ht]

/-- A style sequence is not shown. -/
theorem unstyle_append_sequence (hp : p.all isParameter = true) (s t : Text) :
    unstyle (s ++ (sequence p ++ t)) = unstyle s ++ unstyle t := by
  rw [← unstyle_sequence_append hp t]
  exact unstyle_append_escape s _

/-! ## Text in a style -/

theorem isParameter_zero : ['0'].all isParameter = true := by
  decide

theorem reopenFrom_append_of_not_mem {opening : Text} (h : '\x1b' ∉ s) (t : Text) :
    reopenFrom opening 0 (s ++ t) = s ++ reopenFrom opening 0 t := by
  induction s with
  | nil => rfl
  | cons c s ih =>
    obtain ⟨hc, hs⟩ := not_or.mp (mt List.mem_cons.mpr h)
    have hreset : reset.isPrefixOf (c :: (s ++ t)) = false := by
      simp [reset, sequence, List.isPrefixOf, hc]
    rw [List.cons_append, reopenFrom, hreset, if_neg Bool.false_ne_true, ih hs, List.cons_append]

theorem reopenFrom_of_not_mem {opening : Text} (h : '\x1b' ∉ s) : reopenFrom opening 0 s = s := by
  have happend : reopenFrom opening 0 (s ++ []) = _ := reopenFrom_append_of_not_mem h []
  rwa [reopenFrom, List.append_nil] at happend

theorem reopenFrom_reset_append (opening t : Text) :
    reopenFrom opening 0 (reset ++ t) = reset ++ (opening ++ reopenFrom opening 0 t) := by
  simp [reset, sequence, reopenFrom, List.isPrefixOf]

theorem reopenFrom_escape (opening t : Text) (h : ¬ reset <+: '\x1b' :: t) :
    reopenFrom opening 0 ('\x1b' :: t) = '\x1b' :: reopenFrom opening 0 t := by
  rw [reopenFrom, if_neg (mt List.isPrefixOf_iff_prefix.mp h)]

theorem exists_reopenFrom_escape (opening t : Text) :
    ∃ rest, reopenFrom opening 0 ('\x1b' :: t) = '\x1b' :: rest := by
  rw [reopenFrom]
  split
  · exact ⟨_, rfl⟩
  · exact ⟨_, rfl⟩

/-- One more escape character in front: it starts a reset, behind which the style is opened again, or the
texts go on as before. -/
theorem unstyle_reopenFrom_escape (hp : p.all isParameter = true)
    (hread : unstyle (reopenFrom (sequence p) 0 t) = unstyle t)
    (hbehind : unstyle ('\x1b' :: reopenFrom (sequence p) 0 t) = unstyle ('\x1b' :: t)) :
    unstyle (reopenFrom (sequence p) 0 ('\x1b' :: t)) = unstyle ('\x1b' :: t) := by
  by_cases hreset : reset <+: '\x1b' :: t
  · obtain ⟨rest, hrest⟩ := hreset
    have ht : t = "[0m".toList ++ rest := (List.cons.inj hrest).2.symm
    have hfree : '\x1b' ∉ "[0m".toList := by decide
    rw [ht, reopenFrom_append_of_not_mem hfree, unstyle_append_of_not_mem hfree,
      unstyle_append_of_not_mem hfree] at hread
    rw [← hrest, reopenFrom_reset_append, reset, unstyle_sequence_append isParameter_zero,
      unstyle_sequence_append hp, unstyle_sequence_append isParameter_zero,
      List.append_cancel_left hread]
  · rw [reopenFrom_escape _ _ hreset]
    exact hbehind

/-- What is put behind the resets of a text is not shown, neither if the text is read from its start nor if
it is read behind an escape character. -/
theorem unstyle_reopenFrom (hp : p.all isParameter = true) (s : Text) :
    unstyle (reopenFrom (sequence p) 0 s) = unstyle s ∧
      unstyle ('\x1b' :: reopenFrom (sequence p) 0 s) = unstyle ('\x1b' :: s) := by
  induction s using cut_induction (c := '\x1b') with
  | whole s h =>
    rw [reopenFrom_of_not_mem h]
    exact ⟨rfl, rfl⟩
  | cut s t h ih =>
    have hescape := unstyle_reopenFrom_escape hp ih.1 ih.2
    obtain ⟨rest, hrest⟩ := exists_reopenFrom_escape (sequence p) t
    rw [hrest] at hescape
    rw [reopenFrom_append_of_not_mem h, hrest, unstyle_append_escape, unstyle_append_escape, hescape]
    refine ⟨rfl, ?_⟩
    rw [← List.cons_append, ← List.cons_append, unstyle_append_escape, unstyle_append_escape, hescape]

/-- A text in a style reads as the text. -/
theorem unstyle_style_append (hp : p.all isParameter = true) (s t : Text) :
    unstyle (style true p s ++ t) = unstyle s ++ unstyle t := by
  rw [style, if_pos rfl, List.append_assoc, List.append_assoc, unstyle_sequence_append hp, reset,
    unstyle_append_sequence isParameter_zero, (unstyle_reopenFrom hp s).1]

theorem unstyle_style (colors : Bool) (hp : p.all isParameter = true) (s : Text) :
    unstyle (style colors p s) = unstyle s := by
  cases colors with
  | false => rfl
  | true =>
    have happend := unstyle_style_append hp s []
    rwa [List.append_nil, unstyle_nil, List.append_nil] at happend

/-! ## Runs -/

theorem isParameter_colorParameters (c : Color) : (colorParameters c).all isParameter = true := by
  cases c <;> decide

theorem style_of_not_mem (h : '\x1b' ∉ s) : style true p s = sequence p ++ s ++ reset := by
  have hs : reopenFrom (sequence p) 0 s = s := reopenFrom_of_not_mem h
  rw [style, if_pos rfl, hs]

/-- A run reads as its text, also where more follows. -/
theorem unstyle_paint_append (colors : Bool) {r : Run} (h : '\x1b' ∉ r.text) (t : Text) :
    unstyle (paint colors r ++ t) = r.text ++ unstyle t := by
  cases hcolor : r.color with
  | none => rw [paint, hcolor, unstyle_append_of_not_mem h]
  | some c =>
    rw [paint, hcolor]
    cases colors with
    | false => exact unstyle_append_of_not_mem h t
    | true => rw [unstyle_style_append (isParameter_colorParameters c), unstyle_of_not_mem h]

theorem unstyle_flatMap_paint_append (colors : Bool) {runs : List Run} (h : ∀ r ∈ runs, '\x1b' ∉ r.text)
    (t : Text) :
    unstyle (runs.flatMap (paint colors) ++ t) = runs.flatMap (·.text) ++ unstyle t := by
  induction runs with
  | nil => rfl
  | cons r runs ih =>
    obtain ⟨hr, hruns⟩ := List.forall_mem_cons.mp h
    rw [List.flatMap_cons, List.flatMap_cons, List.append_assoc, unstyle_paint_append colors hr, ih hruns,
      List.append_assoc]

theorem flatMap_paint_false (runs : List Run) : runs.flatMap (paint false) = runs.flatMap (·.text) := by
  refine congrArg (List.flatMap · runs) (funext fun r => ?_)
  cases hcolor : r.color <;> simp [paint, hcolor, style]

/-- The stretches between the escape characters of runs in colour, the first of which goes on where a
stretch stands already. -/
def stretchesFrom (current : Text) : List Run → List Text
  | [] => [current]
  | r :: rest =>
    match r.color with
    | none => stretchesFrom (current ++ r.text) rest
    | some c => current :: ('[' :: (colorParameters c ++ 'm' :: r.text)) :: stretchesFrom "[0m".toList rest

theorem split_flatMap_paint {runs : List Run} (h : ∀ r ∈ runs, '\x1b' ∉ r.text) {current : Text}
    (hcurrent : '\x1b' ∉ current) :
    split '\x1b' (current ++ runs.flatMap (paint true)) = stretchesFrom current runs := by
  induction runs generalizing current with
  | nil => rw [List.flatMap_nil, List.append_nil, split_of_not_mem hcurrent, stretchesFrom]
  | cons r runs ih =>
    obtain ⟨hr, hruns⟩ := List.forall_mem_cons.mp h
    cases hcolor : r.color with
    | none =>
      have hmore : '\x1b' ∉ current ++ r.text := by simp [hcurrent, hr]
      rw [stretchesFrom, hcolor, List.flatMap_cons, paint, hcolor, ← List.append_assoc]
      exact ih hruns hmore
    | some c =>
      have hopen : '\x1b' ∉ '[' :: (colorParameters c ++ 'm' :: r.text) := by
        have hmem : '\x1b' ∉ colorParameters c := by cases c <;> decide
        simp [hmem, hr]
      have hpaint : paint true r ++ runs.flatMap (paint true) =
          '\x1b' :: ('[' :: (colorParameters c ++ 'm' :: r.text) ++
            '\x1b' :: ("[0m".toList ++ runs.flatMap (paint true))) := by
        rw [paint, hcolor]
        simp [style_of_not_mem hr, sequence, reset]
      rw [stretchesFrom, hcolor, List.flatMap_cons, hpaint, split_cut hcurrent, split_cut hopen,
        ih hruns (by decide)]

/-! ## Lines -/

/-- The stretches of a line in which its link is looked for: what is written, cut at the escape
characters. -/
def stretches (colors : Bool) (l : Line) : List Text :=
  if colors then stretchesFrom [] l.runs else [l.text]

/-- The link of a line, if any, is seen in a stretch. -/
def ShowsUrl (colors : Bool) (l : Line) : Prop :=
  ∀ url ∈ l.url, ∃ s ∈ l.stretches colors, url <:+: s

instance (colors : Bool) (l : Line) : Decidable (l.ShowsUrl colors) :=
  inferInstanceAs (Decidable (∀ url ∈ l.url, ∃ s ∈ l.stretches colors, url <:+: s))

/-- What a line ends with if its link is not seen. -/
def link (l : Line) : Text :=
  l.url.elim [] (' ' :: ·)

variable {l : Line}

theorem hasInfix_iff_stretches (colors : Bool) (htexts : ∀ r ∈ l.runs, '\x1b' ∉ r.text) {url : Text}
    (hurl : '\x1b' ∉ url) :
    Text.hasInfix url (l.runs.flatMap (paint colors)) = true ↔ ∃ s ∈ l.stretches colors, url <:+: s := by
  rw [Text.hasInfix_iff]
  cases colors with
  | false => simp [stretches, flatMap_paint_false, text]
  | true =>
    have hsplit : split '\x1b' (l.runs.flatMap (paint true)) = stretchesFrom [] l.runs :=
      split_flatMap_paint htexts List.not_mem_nil
    rw [infix_iff_split hurl, stretches, if_pos rfl, hsplit]

/-- The link reads as it is, whether it is underlined or not. -/
theorem unstyle_runs_append_link (colors : Bool) (htexts : ∀ r ∈ l.runs, '\x1b' ∉ r.text) {url : Text}
    (hurl : '\x1b' ∉ url) :
    unstyle (l.runs.flatMap (paint colors) ++ ' ' :: style colors "2;4".toList url) =
      l.text ++ ' ' :: url := by
  have hparameters : "2;4".toList.all isParameter = true := by decide
  have hblank : '\x1b' ∉ [' '] := by decide
  have hlink : unstyle ([' '] ++ style colors "2;4".toList url) = [' '] ++ url := by
    rw [unstyle_append_of_not_mem hblank, unstyle_style colors hparameters, unstyle_of_not_mem hurl]
  rw [unstyle_flatMap_paint_append colors htexts]
  exact congrArg (l.text ++ ·) hlink

/-- A line reads as its text, followed by its link if that is not seen in what is written. -/
theorem unstyle_render (colors : Bool) (htexts : ∀ r ∈ l.runs, '\x1b' ∉ r.text)
    (hurl : ∀ url ∈ l.url, '\x1b' ∉ url) :
    unstyle (l.render colors) = l.text ++ if l.ShowsUrl colors then [] else l.link := by
  have hruns : unstyle (l.runs.flatMap (paint colors)) = l.text := by
    have happend := unstyle_flatMap_paint_append colors htexts []
    rwa [List.append_nil, unstyle_nil, List.append_nil] at happend
  have hbold : "1".toList.all isParameter = true := by decide
  have hcommand : ∀ body, unstyle (if l.isCommand then style colors "1".toList body else body) =
      unstyle body := by
    intro body
    split
    · exact unstyle_style colors hbold body
    · rfl
  rw [render, hcommand]
  cases hlink : l.url with
  | none =>
    have hshows : l.ShowsUrl colors := by simp [ShowsUrl, hlink]
    rw [if_pos hshows, List.append_nil]
    exact hruns
  | some url =>
    rw [hlink] at hurl
    have hescape : '\x1b' ∉ url := hurl url rfl
    have hshows : Text.hasInfix url (l.runs.flatMap (paint colors)) = true ↔ l.ShowsUrl colors := by
      rw [hasInfix_iff_stretches colors htexts hescape]
      simp [ShowsUrl, hlink]
    by_cases hseen : l.ShowsUrl colors
    · rw [if_pos hseen, List.append_nil]
      simp only [if_pos (hshows.mpr hseen)]
      exact hruns
    · rw [if_neg hseen]
      simp only [if_neg (mt hshows.mp hseen)]
      rw [unstyle_runs_append_link colors htexts hescape, link, hlink, Option.elim_some]

/-- Without colours there is nothing to delete. -/
theorem unstyle_render_false (htexts : ∀ r ∈ l.runs, '\x1b' ∉ r.text)
    (hurl : ∀ url ∈ l.url, '\x1b' ∉ url) : unstyle (l.render false) = l.render false := by
  refine unstyle_of_not_mem ?_
  cases hlink : l.url with
  | none => simpa [render, flatMap_paint_false, style, hlink] using htexts
  | some url =>
    rw [hlink] at hurl
    have hescape : '\x1b' ∉ url := hurl url rfl
    simp only [render, flatMap_paint_false, style, hlink, Bool.false_eq_true, if_false, ite_self]
    split
    · simpa using htexts
    · simpa [hescape] using htexts

/-- In either mode a line reads as its text and its link, the latter if no stretch of what is written holds
it. So a line in colour reads as the line without colours exactly if the link is seen in both or in
neither. -/
theorem render_alike_iff (l : Line) (htexts : ∀ r ∈ l.runs, '\x1b' ∉ r.text)
    (hurl : ∀ url ∈ l.url, '\x1b' ∉ url) :
    (∀ colors, unstyle (l.render colors) = l.text ++ if l.ShowsUrl colors then [] else l.link) ∧
      unstyle (l.render false) = l.render false ∧
      (unstyle (l.render true) = l.render false ↔ (l.ShowsUrl true ↔ l.ShowsUrl false)) := by
  have hread := fun colors => unstyle_render colors htexts hurl
  have hfalse := unstyle_render_false htexts hurl
  refine ⟨hread, hfalse, ?_⟩
  have hlink : ∀ colors, ¬ l.ShowsUrl colors → l.link ≠ [] := by
    intro colors hseen hnil
    cases hurl : l.url with
    | none => exact hseen (by simp [ShowsUrl, hurl])
    | some url => simp [link, hurl] at hnil
  rw [← hfalse, hread, hread, List.append_right_inj]
  by_cases htrue : l.ShowsUrl true <;> by_cases hplain : l.ShowsUrl false
  · simp [htrue, hplain]
  · simp [htrue, hplain, hlink false hplain]
  · simp [htrue, hplain, hlink true htrue]
  · simp [htrue, hplain]

/-- A command that shows its link in a run of a colour of its own. -/
theorem render_alike_iff_shown :
    let l : Line :=
      { content := .parts [⟨"open ".toList, none⟩, ⟨"https://x.dev/a".toList, some .blue⟩]
        url := some "https://x.dev".toList, isCommand := true }
    (∀ r ∈ l.runs, '\x1b' ∉ r.text) ∧ (∀ url ∈ l.url, '\x1b' ∉ url) ∧
      unstyle (l.render true) = l.render false := by
  intro l
  have htexts : ∀ r ∈ l.runs, '\x1b' ∉ r.text := by decide
  have hurl : ∀ url ∈ l.url, '\x1b' ∉ url := by decide
  exact ⟨htexts, hurl, (render_alike_iff l htexts hurl).2.2.mpr (by decide)⟩

/-- A link that is shown in two colours is shown once more in colour. -/
theorem not_alike_of_divided_link :
    let l : Line :=
      { content := .parts [⟨"https://".toList, some .red⟩, ⟨"x.dev".toList, some .blue⟩]
        url := some "https://x.dev".toList }
    (∀ r ∈ l.runs, '\x1b' ∉ r.text) ∧ (∀ url ∈ l.url, '\x1b' ∉ url) ∧
      l.render false = "https://x.dev".toList ∧
      unstyle (l.render true) = "https://x.dev https://x.dev".toList := by
  decide

/-- A link that begins inside a style sequence is not shown in colour. -/
example :
    let l : Line :=
      { content := .text ⟨"ailto:ada".toList, some .red⟩, url := some "mailto:ada".toList }
    l.render false = "ailto:ada mailto:ada".toList ∧ unstyle (l.render true) = "ailto:ada".toList := by
  decide

end Line

end VirtualTerminal
