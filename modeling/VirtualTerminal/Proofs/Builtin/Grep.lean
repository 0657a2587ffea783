import VirtualTerminal.Builtin.TextTools
import VirtualTerminal.Proofs.Pattern.Exact
import VirtualTerminal.Proofs.Text.Search

/-!
# Lines that match and lines that do not

What is printed of a text when the lines that match are asked for, and what is printed when the others
are, make up the lines of the text between them. A line that matches is printed whole: its runs follow
the matches from left to right, so that each match of something has a run of its own colour and
everything between two matches has one without.

The first part is about one line and any searcher that obeys the laws of searches, the second about the
two outputs, the third about the command.
-/

namespace VirtualTerminal

/-- Where the runs that have a colour stand in the text of a list of runs, the first of which stands at
a position. -/
def Run.coloredSpans (position : Nat) : List Run → List Span
  | [] => []
  | r :: rest =>
    (if r.color.isSome then [⟨position, position + r.text.length⟩] else []) ++
      Run.coloredSpans (position + r.text.length) rest

/-- Where the runs of a line that have a colour stand in its text. -/
def Line.coloredSpans (l : Line) : List Span :=
  Run.coloredSpans 0 l.runs

namespace Builtin

/-! ## One line -/

section Marking

variable {line : Text} {start : Nat} {spans : List Span}

theorem length_slice {a b : Nat} (hb : b ≤ line.length) : (Text.slice line a b).length = b - a := by
  rw [Text.slice, List.length_drop, List.length_take_of_le hb]

/-- The runs of a line make up what a position leaves of it. -/
theorem flatMap_text_markedRuns (h : Span.Between start line.length spans) :
    (markedRuns line start spans).flatMap (·.text) = Text.slice line start line.length := by
  induction spans generalizing start with
  | nil =>
    rw [markedRuns]
    split
    · exact List.append_nil _
    · exact (Hit.slice_eq_nil (by omega)).symm
  | cons m rest ih =>
    obtain ⟨hstart, hm, hrest⟩ := h
    have hgap : List.flatMap (·.text)
        (if start < m.start then [(⟨Text.slice line start m.start, none⟩ : Run)] else []) =
          Text.slice line start m.start := by
      split
      · exact List.append_nil _
      · exact (Hit.slice_eq_nil (by omega)).symm
    rw [markedRuns, List.flatMap_append, hgap, List.flatMap_cons, ih hrest,
      Hit.slice_append_slice hm hrest.le, Hit.slice_append_slice hstart (hm.trans hrest.le)]

/-- The coloured runs of a line stand where the matches are. -/
theorem coloredSpans_markedRuns (h : Span.Between start line.length spans) :
    Run.coloredSpans start (markedRuns line start spans) = spans := by
  induction spans generalizing start with
  | nil =>
    rw [markedRuns]
    split <;> rfl
  | cons m rest ih =>
    obtain ⟨hstart, hm, hrest⟩ := h
    have hmatch : m.start + (Text.slice line m.start m.stop).length = m.stop := by
      rw [length_slice hrest.le]
      omega
    have hmarked : Run.coloredSpans m.start
        (⟨Text.slice line m.start m.stop, some .yellow⟩ :: markedRuns line m.stop rest) =
          m :: rest := by
      rw [Run.coloredSpans, hmatch, ih hrest]
      rfl
    rw [markedRuns]
    split
    · have hgap : start + (Text.slice line start m.start).length = m.start := by
        rw [length_slice (hm.trans hrest.le)]
        omega
      rw [List.singleton_append, Run.coloredSpans, hgap, hmarked]
      rfl
    · rw [List.nil_append, show start = m.start by omega, hmarked]

theorem color_markedRuns {r : Run} (h : r ∈ markedRuns line start spans) :
    r.color = none ∨ r.color = some .yellow := by
  induction spans generalizing start with
  | nil =>
    rw [markedRuns] at h
    split at h <;> simp_all
  | cons m rest ih =>
    rw [markedRuns, List.mem_append, List.mem_cons] at h
    rcases h with h | rfl | h
    · split at h <;> simp_all
    · exact Or.inr rfl
    · exact ih h

theorem text_highlight {x : Searcher} (hx : x.Lawful) (line : Text) :
    (highlight x line).text = line := by
  show (markedRuns line 0 ((x.spans line).filter (!·.isEmpty))).flatMap (·.text) = line
  rw [flatMap_text_markedRuns ((hx.between line).filter _), Text.slice, List.take_length]
  rfl

/-- In a highlighted line just the matches of something have a colour. -/
theorem coloredSpans_highlight {x : Searcher} (hx : x.Lawful) (line : Text) :
    (highlight x line).coloredSpans = (x.spans line).filter (!·.isEmpty) :=
  coloredSpans_markedRuns ((hx.between line).filter _)

end Marking

/-! ## The two outputs -/

/-- Two lists put together, with the next element taken from the first list where the mask says so and
from the second where it does not. -/
def interleave {α : Type} : (mask : List Bool) → List α → List α → List α
  | true :: mask, a :: first, second => a :: interleave mask first second
  | false :: mask, first, b :: second => b :: interleave mask first second
  | _, _, _ => []

/-- The elements that a test holds for and the others, put together as the test says, are all of them in
their order. -/
theorem interleave_filter {α : Type} (p : α → Bool) (l : List α) :
    interleave (l.map p) (l.filter p) (l.filter (!p ·)) = l := by
  induction l with
  | nil => rfl
  | cons a rest ih =>
    cases h : p a with
    | true =>
      rw [List.map_cons, List.filter_cons_of_pos h, List.filter_cons_of_neg (by simp [h]), h,
        interleave, ih]
    | false =>
      rw [List.map_cons, List.filter_cons_of_neg (by simp [h]), List.filter_cons_of_pos (by simp [h]),
        h, interleave, ih]

/-- Two outputs that share the lines of a text: `found` shows those that match, with their matches in
yellow, and `left` the others. -/
structure Splits (x : Searcher) (s : Text) (found left : Output) : Prop where
  found_texts : found.lines.map Line.text = (Text.lines s).filter x.isMatch
  left_texts : left.lines.map Line.text = (Text.lines s).filter (!x.isMatch ·)
  together : interleave ((Text.lines s).map x.isMatch) (found.lines.map Line.text)
    (left.lines.map Line.text) = Text.lines s
  found_fails : found.status = .failure ↔ found.lines = []
  left_fails : left.status = .failure ↔ left.lines = []
  marked : ∀ l ∈ found.lines, l.coloredSpans = (x.spans l.text).filter (!·.isEmpty)
  yellow : ∀ l ∈ found.lines, ∀ r ∈ l.runs, r.color = none ∨ r.color = some .yellow

section Matching

variable (x : Searcher) (inverted : Bool) (s : Text)

theorem lines_matchingLines :
    (matchingLines x inverted s).lines =
      ((Text.lines s).filter (x.isMatch · != inverted)).map
        (if inverted then .plain else highlight x) := by
  unfold matchingLines
  split
  · next h => rw [h]; rfl
  · rfl

theorem status_matchingLines :
    (matchingLines x inverted s).status = .failure ↔ (matchingLines x inverted s).lines = [] := by
  unfold matchingLines
  split
  · exact iff_of_true rfl rfl
  · next hne => simpa [Output.success] using hne

end Matching

theorem splits_matchingLines {x : Searcher} (hx : x.Lawful) (s : Text) :
    Splits x s (matchingLines x false s) (matchingLines x true s) := by
  have hfound : (matchingLines x false s).lines =
      ((Text.lines s).filter x.isMatch).map (highlight x) := by
    rw [lines_matchingLines]
    simp
  have hleft : (matchingLines x true s).lines =
      ((Text.lines s).filter (!x.isMatch ·)).map .plain := by
    rw [lines_matchingLines]
    simp
  have hfoundTexts : (matchingLines x false s).lines.map Line.text =
      (Text.lines s).filter x.isMatch := by
    rw [hfound, List.map_map]
    exact (List.map_congr_left fun line _ => text_highlight hx line).trans (List.map_id _)
  have hleftTexts : (matchingLines x true s).lines.map Line.text =
      (Text.lines s).filter (!x.isMatch ·) := by
    rw [hleft, List.map_map]
    exact (List.map_congr_left fun line _ => List.append_nil line).trans (List.map_id _)
  refine ⟨hfoundTexts, hleftTexts, ?_, status_matchingLines .., status_matchingLines .., ?_, ?_⟩
  · rw [hfoundTexts, hleftTexts, interleave_filter]
  · intro l hl
    rw [hfound] at hl
    obtain ⟨line, -, rfl⟩ := List.mem_map.mp hl
    rw [coloredSpans_highlight hx, text_highlight hx]
  · intro l hl r hr
    rw [hfound] at hl
    obtain ⟨line, -, rfl⟩ := List.mem_map.mp hl
    exact color_markedRuns hr

/-! ## The command -/

theorem grep_run {c : Context} {pattern text : Text} {texts : List Text} {re : Regex}
    (hargs : c.invocation.args = pattern :: text :: texts)
    (hre : Regex.compile pattern (c.invocation.hasFlag "i".toList) = .ok re) (t : Terminal) :
    grep.body.run c t =
      (.ok (matchingLines re.searcher (c.invocation.hasFlag "v".toList)
        (Text.join [' '] (text :: texts))), t) := by
  simp only [grep, Body.run, Handler.showing, hargs, hre]

/-- For every searcher that obeys the laws of searches, the lines that match and those that do not, as
they are printed, make up the text between them. What a pattern is compiled to is such a searcher, so
with one pattern and one text the two ways to run the command split the text, and change nothing. -/
theorem grep_splits :
    (∀ (x : Searcher) (s : Text), x.Lawful →
      Splits x s (matchingLines x false s) (matchingLines x true s)) ∧
    ∀ (c d : Context) (t : Terminal) (pattern text : Text) (texts : List Text) (re : Regex),
      c.invocation.args = pattern :: text :: texts → d.invocation.args = pattern :: text :: texts →
      d.invocation.hasFlag "i".toList = c.invocation.hasFlag "i".toList →
      c.invocation.hasFlag "v".toList = false → d.invocation.hasFlag "v".toList = true →
      Regex.compile pattern (c.invocation.hasFlag "i".toList) = .ok re →
      re.searcher.Lawful ∧
      ∃ found left, grep.body.run c t = (.ok found, t) ∧ grep.body.run d t = (.ok left, t) ∧
        Splits re.searcher (Text.join [' '] (text :: texts)) found left := by
  refine ⟨fun x s hx => splits_matchingLines hx s, ?_⟩
  intro c d t pattern text texts re hc hd hi hcv hdv hre
  have hlawful : re.searcher.Lawful := Matcher.searcher_lawful _
  refine ⟨hlawful, _, _, grep_run hc hre t, grep_run hd (hi ▸ hre) t, ?_⟩
  rw [hcv, hdv]
  exact splits_matchingLines hlawful _

/-- The two matches in the first line have runs of their own, though nothing stands between them. A
text without a match is left whole. -/
theorem grep_splits_adjacent :
    let s : Terminal := ⟨⟨.empty, .new "/".toList 10⟩, .new {}⟩
    let c (options : Table OptionValue) : Context :=
      ⟨{ args := ["o".toList, "foo\nbar".toList], options := options }, {}, {}, 0, 0⟩
    ∃ re found left, Regex.compile "o".toList false = .ok re ∧
      grep.body.run (c .empty) s = (.ok found, s) ∧
      grep.body.run (c (Table.empty.insert "v".toList .flag)) s = (.ok left, s) ∧
      Splits re.searcher "foo\nbar".toList found left ∧
      found.lines.map Line.runs =
        [[⟨"f".toList, none⟩, ⟨"o".toList, some .yellow⟩, ⟨"o".toList, some .yellow⟩]] ∧
      left.lines = [.plain "bar".toList] ∧
      let m : Matcher := fun _ rest => if rest.head? = some 'o' then some 1 else none
      Splits m.searcher "bar".toList (.failure []) (.success [.plain "bar".toList]) := by
  intro s c
  obtain ⟨re, hre⟩ : ∃ re, Regex.compile "o".toList false = .ok re := by
    cases h : Regex.compile "o".toList false with
    | ok re => exact ⟨re, rfl⟩
    | error reason =>
      have hok : (Regex.compile "o".toList false).isOk = true := by decide +kernel
      rw [h] at hok
      contradiction
  obtain ⟨-, found, left, hfound, hleft, hsplits⟩ :=
    grep_splits.2 (c .empty) (c (Table.empty.insert "v".toList .flag)) s "o".toList
      "foo\nbar".toList [] re rfl rfl (by decide) (by decide) (by decide) hre
  have hmarked : (match (grep.body.run (c .empty) s).1 with
      | .ok o => o.lines.map Line.runs
      | .error _ => []) =
        [[⟨"f".toList, none⟩, ⟨"o".toList, some .yellow⟩, ⟨"o".toList, some .yellow⟩]] := by
    decide +kernel
  have hplain : (match (grep.body.run (c (Table.empty.insert "v".toList .flag)) s).1 with
      | .ok o => o.lines
      | .error _ => []) = [.plain "bar".toList] := by
    decide +kernel
  rw [hfound] at hmarked
  rw [hleft] at hplain
  exact ⟨re, found, left, hre, hfound, hleft, hsplits, hmarked, hplain,
    grep_splits.1 (Matcher.searcher _) "bar".toList (Matcher.searcher_lawful _)⟩

end Builtin

end VirtualTerminal
