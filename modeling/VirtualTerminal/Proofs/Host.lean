import VirtualTerminal.Host
import VirtualTerminal.Proofs.Command.Unprompted
import VirtualTerminal.Proofs.Session.Submit

/-!
# What a host prints for a line

Once a line was submitted, a host looks at the entry at which the transcript had ended. If that is a
prompt, it is the one of the line, and what comes after it is new; else the screen has been cleared and
all is new. With the built-in commands this is always right (`printed_once`): whatever is left in the
transcript after the screen was cleared, no prompt is.
-/

namespace VirtualTerminal

/-- Whether no entry repeats a prompt; regions are not looked into. -/
def Transcript.Unprompted (t : Transcript) : Prop :=
  ∀ l, Entry.line l ∈ t → l.isCommand = false

/-! ## Where the new entries begin -/

namespace Host

/-- A prompt where the transcript had ended is the one of the line. -/
theorem firstNew_of_prompt (t : Transcript) {l : Line} (hl : l.isCommand = true) (u : Transcript) :
    firstNew t.length (t ++ .line l :: u) = t.length + 1 := by
  unfold firstNew
  rw [List.getElem?_append_right (Nat.le_refl _), Nat.sub_self, List.getElem?_cons_zero]
  exact if_pos hl

theorem firstNew_of_unprompted {t : Transcript} (ht : t.Unprompted) (before : Nat) :
    firstNew before t = 0 := by
  unfold firstNew
  split
  next l hl =>
    rw [ht l (List.mem_of_getElem? hl)]
    rfl
  · rfl

end Host

/-! ## The entries of a segment -/

/-- The output of an animation is empty. -/
theorem Animation.Plan.unprompted_run {plan : Animation.Plan} {name : Text} {i : Invocation}
    {stage : Animation.Stage} {output : Output} (h : (plan.run name i stage).1 = .ok output) :
    output.Unprompted := by
  rw [Animation.Stage.result_run] at h
  split at h
  · cases h
  · cases h
    exact Output.unprompted_nothing

theorem Animation.Plan.line_not_mem_opened (plan : Animation.Plan) (scene : Animation.Scene)
    (l : Line) : Entry.line l ∉ plan.opened scene := by
  unfold opened Drawing.region
  split
  · exact List.not_mem_nil
  · intro hmem
    obtain ⟨ls, -, heq⟩ := Option.map_eq_some_iff.mp (Option.mem_toList.mp hmem)
    cases heq

theorem Session.line_not_mem_opened (s : Session) (i : Invocation) (l : Line) :
    Entry.line l ∉ s.opened i := by
  unfold opened
  split
  · exact Animation.Plan.line_not_mem_opened _ _ l
  · exact List.not_mem_nil

namespace RanSegment

variable {r : RanSegment Session}

theorem unprompted_lines (hr : r.output.Unprompted) :
    Transcript.Unprompted (r.output.lines.map .line) := by
  intro l hmem
  obtain ⟨_, hl, heq⟩ := List.mem_map.mp hmem
  cases heq
  exact hr l hl

theorem unprompted_entries (hr : r.output.Unprompted) : r.entries.Unprompted := by
  intro l hmem
  rcases List.mem_append.mp hmem with hregion | hline
  · obtain ⟨c, -, hopened⟩ := List.mem_flatMap.mp hregion
    exact absurd hopened (c.before.line_not_mem_opened c.invocation l)
  · exact unprompted_lines hr l hline

/-- What is left after the screen was cleared. -/
theorem unprompted_shown {ys : List (RanSegment Session)} (hr : r.output.Unprompted)
    (hys : ∀ q ∈ ys, q.output.Unprompted) :
    Transcript.Unprompted (r.output.lines.map .line ++ ys.flatMap entries) := by
  intro l hmem
  rcases List.mem_append.mp hmem with hmem | hmem
  · exact unprompted_lines hr l hmem
  · obtain ⟨q, hq, hmem⟩ := List.mem_flatMap.mp hmem
    exact unprompted_entries (hys q hq) l hmem

/-- Of segments that clear, one is the last. -/
theorem exists_last_clearing {ran : List (RanSegment Session)} (h : ∃ r ∈ ran, r.clears = true) :
    ∃ xs r ys, ran = xs ++ r :: ys ∧ r.clears = true ∧ ∀ q ∈ ys, q.clears = false := by
  induction ran with
  | nil =>
    obtain ⟨r, hr, -⟩ := h
    cases hr
  | cons r ran ih =>
    by_cases hlater : ∃ q ∈ ran, q.clears = true
    · obtain ⟨xs, q, ys, rfl, hq, hys⟩ := ih hlater
      exact ⟨r :: xs, q, ys, rfl, hq, hys⟩
    · have hnone : ∀ q ∈ ran, q.clears = false := fun q hq =>
        Bool.eq_false_iff.mpr fun hclears => hlater ⟨q, hq, hclears⟩
      obtain ⟨q, hq, hclears⟩ := h
      rcases List.mem_cons.mp hq with rfl | hq
      · exact ⟨[], q, ran, rfl, hclears, hnone⟩
      · exact absurd ⟨q, hq, hclears⟩ hlater

end RanSegment

/-! ## Printing -/

namespace Session

/-- With the built-in commands, all outputs are without prompts. -/
theorem answers_unprompted (echo : Bool) :
    (executor echo).Answers (fun s => s.commands = Builtin.table) Output.Unprompted where
  keeps :=
    { run := fun s i hs => by
        obtain ⟨-, heq⟩ | ⟨c, f, context, -, -, heq⟩ | ⟨c, name, plan, -, -, heq⟩ :=
          run_cases echo s i
        · rw [heq]
          exact hs
        · rw [heq]
          exact hs
        · rw [heq]
          exact hs
      finished := fun s output hs => (commands_finished echo s output).trans hs }
  run {s i output} hs hrun := by
    have hexecute : (s.commands.execute s.config.prompt i.command i s.toTerminal).1 = .ok output :=
      hrun
    unfold CommandTable.execute at hexecute
    rw [hs] at hexecute
    cases hget : Builtin.table.get? i.command with
    | none =>
      rw [hget] at hexecute
      cases hexecute
    | some c =>
      rw [hget] at hexecute
      have hbody : c.body.Unprompted := Builtin.each_unprompted.get? hget
      dsimp only at hexecute
      cases hc : c.body with
      | handler f =>
        rw [hc] at hbody hexecute
        exact hbody _ _ _ hexecute
      | animation name plan =>
        rw [hc] at hexecute
        exact Animation.Plan.unprompted_run hexecute
  error := Output.unprompted_error
  nothing := Output.unprompted_nothing

/-- The segments that submitting a line runs. -/
def submitted (s : Session) (line : Text) : List (RanSegment Session) :=
  (executor true).segmentsRun ((s.typed line).shell.expandLine line) (s.typed line)

variable {s : Session} {line : Text}

theorem unprompted_submitted (hcommands : s.commands = Builtin.table) :
    ∀ r ∈ s.submitted line, r.output.Unprompted :=
  (answers_unprompted true).segmentsRun (s := s.typed line) hcommands _

theorem transcript_submit (hs : s.Hosted) : (s.submit line).2.transcript =
    (s.submitted line).foldl RanSegment.showAfter
      (s.transcript ++ [.line (s.promptLine line)]) :=
  transcript_proceeds ((executor true).proceeds_segmentsRun _ (s.typed line))
    (hs.resting.typed line).orderly

/-- Without a clearing segment, the transcript goes on with the prompt and the entries of all
segments. -/
theorem transcript_submit_of_kept (hs : s.Hosted)
    (hnone : ∀ r ∈ s.submitted line, r.clears = false) : (s.submit line).2.transcript =
      s.transcript ++ .line (s.promptLine line) ::
        (s.submitted line).flatMap RanSegment.entries := by
  rw [transcript_submit hs, RanSegment.foldl_showAfter _ hnone, List.append_assoc]
  rfl

/-- Else it starts with the lines of the last clearing segment. -/
theorem transcript_submit_of_cleared (hs : s.Hosted) {xs ys : List (RanSegment Session)}
    {r : RanSegment Session} (hran : s.submitted line = xs ++ r :: ys) (hr : r.clears = true)
    (hys : ∀ q ∈ ys, q.clears = false) : (s.submit line).2.transcript =
      r.output.lines.map .line ++ ys.flatMap RanSegment.entries := by
  rw [transcript_submit hs, hran, RanSegment.foldl_showAfter_of_clears _ xs hr hys]

end Session

namespace Host

variable {h : Host} {line : Text}

theorem firstNew_submit_of_kept (hs : h.session.Hosted)
    (hnone : ∀ r ∈ h.session.submitted line, r.clears = false) :
    firstNew h.session.transcript.length (h.session.submit line).2.transcript =
      h.session.transcript.length + 1 := by
  rw [Session.transcript_submit_of_kept hs hnone]
  exact firstNew_of_prompt h.session.transcript rfl _

theorem firstNew_submit_of_cleared (hs : h.session.Hosted)
    (hcommands : h.session.commands = Builtin.table)
    (hsome : ∃ r ∈ h.session.submitted line, r.clears = true) :
    firstNew h.session.transcript.length (h.session.submit line).2.transcript = 0 := by
  obtain ⟨xs, r, ys, hran, hr, hys⟩ := RanSegment.exists_last_clearing hsome
  have hunprompted : ∀ r ∈ h.session.submitted line, r.output.Unprompted :=
    Session.unprompted_submitted hcommands
  rw [hran] at hunprompted
  obtain ⟨-, hlater⟩ := List.forall_mem_append.mp hunprompted
  obtain ⟨hr', hys'⟩ := List.forall_mem_cons.mp hlater
  rw [Session.transcript_submit_of_cleared hs hran hr hys]
  exact firstNew_of_unprompted (RanSegment.unprompted_shown hr' hys') _

end Host

/-- What a host prints for a line, with the built-in commands. Let `ran` be the segments that run. What
is new begins right after where the transcript had ended if none of them clears, and at the start of
the transcript if one does. So the entries that are printed are the regions and lines of all segments in
the first case, and in the second those that are left from the last one that clears on; either way
the transcript has nothing else but, in the first case, what came before the line and its prompt. The
screen is emptied before exactly in the second case, if text is printed. -/
theorem printed_once {h : Host} (hs : h.session.Hosted)
    (hcommands : h.session.commands = Builtin.table) (line : Text) :
    let s := h.session
    let ran := s.submitted line
    let printed := h.submit line
    let after := printed.2.2.session.transcript
    let first := Host.firstNew s.transcript.length after
    (first = s.transcript.length + 1 ↔ ∀ r ∈ ran, r.clears = false) ∧
      (first = 0 ↔ ∃ r ∈ ran, r.clears = true) ∧
      ((∀ r ∈ ran, r.clears = false) → printed.2.1 = ran.flatMap RanSegment.entries ∧
        after = s.transcript ++ .line (s.promptLine line) :: printed.2.1) ∧
      (∀ xs r ys, ran = xs ++ r :: ys → r.clears = true → (∀ q ∈ ys, q.clears = false) →
        printed.2.1 = r.output.lines.map .line ++ ys.flatMap RanSegment.entries ∧
          after = printed.2.1) ∧
      printed.1 = if (∃ r ∈ ran, r.clears = true) ∧ !h.json then Host.clearScreen else [] := by
  intro s ran printed after first
  have hentries : printed.2.1 = after.drop first := rfl
  have hlead : printed.1 = if first = 0 ∧ !h.json then Host.clearScreen else [] := rfl
  by_cases hsome : ∃ r ∈ ran, r.clears = true
  · have hfirst : first = 0 := Host.firstNew_submit_of_cleared hs hcommands hsome
    have hnot : ¬ ∀ r ∈ ran, r.clears = false := fun hnone => by
      obtain ⟨r, hr, hclears⟩ := hsome
      rw [hnone r hr] at hclears
      cases hclears
    have hall : printed.2.1 = after := by rw [hentries, hfirst, List.drop_zero]
    refine ⟨iff_of_false (by omega) hnot, iff_of_true hfirst hsome, fun hnone => absurd hnone hnot,
      fun xs r ys hran hr hys => ⟨?_, hall.symm⟩, ?_⟩
    · rw [hall]
      exact Session.transcript_submit_of_cleared hs hran hr hys
    · simp only [hlead, hfirst, hsome]
  · have hnone : ∀ r ∈ ran, r.clears = false := fun r hr =>
      Bool.eq_false_iff.mpr fun hclears => hsome ⟨r, hr, hclears⟩
    have hfirst : first = s.transcript.length + 1 := Host.firstNew_submit_of_kept hs hnone
    have hafter : after = s.transcript ++ .line (s.promptLine line) :: ran.flatMap RanSegment.entries :=
      Session.transcript_submit_of_kept hs hnone
    have hnew : printed.2.1 = ran.flatMap RanSegment.entries := by
      rw [hentries, hfirst, hafter, ← List.drop_drop, List.drop_left]
      rfl
    have hpositive : first ≠ 0 := by omega
    refine ⟨iff_of_true hfirst hnone, iff_of_false hpositive hsome, fun _ => ⟨hnew, ?_⟩,
      fun xs r ys hran hr _ => ?_, ?_⟩
    · rw [hnew]
      exact hafter
    · exact absurd ⟨r, hran ▸ List.mem_append_right xs List.mem_cons_self, hr⟩ hsome
    · rw [hlead, if_neg fun h => hpositive h.1, if_neg fun h => hsome h.1]

/-- Of four segments of which the second clears, all is printed that the last two have written. -/
theorem printed_once_after_clear :
    let h : Host := { session := Session.new {}, json := false, colors := true }
    let line : Text := "echo a; clear; spinner && echo b".toList
    let ran := h.session.submitted line
    h.session.Hosted ∧ ran.map RanSegment.clears = [false, true, false, false] ∧
      Host.firstNew h.session.transcript.length (h.submit line).2.2.session.transcript = 0 ∧
      (h.submit line).1 = Host.clearScreen ∧
      ∃ echoed cleared shown, ran = echoed :: cleared :: shown ∧
        (h.submit line).2.1 = cleared.output.lines.map .line ++ shown.flatMap RanSegment.entries := by
  intro h line ran
  have hhosted : h.session.Hosted := .new {} Builtin.table
  have hclears : ran.map RanSegment.clears = [false, true, false, false] := by decide +kernel
  obtain ⟨echoed, _, hran, -, hrest⟩ := List.map_eq_cons_iff.mp hclears
  obtain ⟨cleared, shown, rfl, hcleared, hshown⟩ := List.map_eq_cons_iff.mp hrest
  have hnone : ∀ q ∈ shown, q.clears = false := fun q hq => by
    have hmem := List.mem_map_of_mem (f := RanSegment.clears) hq
    rw [hshown] at hmem
    simpa using hmem
  have hsome : ∃ r ∈ ran, r.clears = true :=
    ⟨cleared, hran ▸ List.mem_cons_of_mem _ List.mem_cons_self, hcleared⟩
  obtain ⟨-, hzero, -, hlast, hlead⟩ := printed_once hhosted rfl line
  exact ⟨hhosted, hclears, hzero.mpr hsome, hlead.trans (if_pos ⟨hsome, rfl⟩), echoed, cleared, shown,
    hran, (hlast [echoed] cleared shown hran hcleared hnone).1⟩

end VirtualTerminal
