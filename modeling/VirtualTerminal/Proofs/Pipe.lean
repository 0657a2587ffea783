import VirtualTerminal.Proofs.Executor.Trace
import VirtualTerminal.Proofs.Invocation.Parse
import VirtualTerminal.Proofs.Token

/-!
# What a pipe delivers

The text of a stage goes into the next one as one token in double quotes. That token is read as any
other token of a line: it is dropped if it is too long, a dash at its start makes it a flag or an
option, and else it is one more argument. `pipe_receives` says so of every pipeline, for texts that
quotes hold as they are.
-/

namespace VirtualTerminal

open Invocation

/-! ## The line of a stage -/

section StageLine

variable {stage text : Text}

theorem stageLine_of_ne_nil (htext : text ≠ []) :
    Executor.stageLine stage text =
      stage ++ ' ' :: ('"' :: Text.escapeQuotes .double text ++ ['"']) := by
  unfold Executor.stageLine
  rw [if_neg htext]
  simp

/-- The quotes at its end keep the line of a stage from being trimmed. -/
theorem trim_stageLine (hstage : Text.trim stage = stage) (hne : stage ≠ []) (htext : text ≠ []) :
    Text.trim (Executor.stageLine stage text) = Executor.stageLine stage text := by
  obtain ⟨c, rest, rfl⟩ := List.exists_cons_of_ne_nil hne
  have hline : Executor.stageLine (c :: rest) text =
      c :: (rest ++ ' ' :: '"' :: Text.escapeQuotes .double text) ++ ['"'] := by
    rw [stageLine_of_ne_nil htext]
    simp
  rw [hline, Text.trim, List.cons_append,
    Text.trimStart_cons_of_not_blank (Text.isBlank_of_trim_eq_cons hstage), ← List.cons_append]
  exact Text.trimEnd_concat_of_not_blank rfl _

/-- The tokens of a stage with a text are those of the stage and the text. -/
theorem tokens_stageLine (hquotes : stage.hasUnmatchedQuotes = false) (htext : text ≠ [])
    (hquotable : text.Quotable) :
    Text.tokens (Executor.stageLine stage text) = Text.tokens stage ++ [text] := by
  rw [stageLine_of_ne_nil htext, Text.tokens_append_quoted hquotes,
    Text.requoted_eq_self_iff.mpr hquotable]

end StageLine

/-! ## One more token -/

namespace Executor

variable {σ : Type u} {x : Executor σ}

/-- Whether an output is the error of a stage that does not run: the reason why its line is refused,
or that its command is unknown. -/
inductive Stops (x : Executor σ) (i : Invocation) (s : σ) : Output → Prop where
  | refused {reason : Text} (refusal : i.refusal? = some reason) : Stops x i s (.error reason)
  | unknown (unregistered : x.isRegistered s i.command = false) :
      Stops x i s (.error ("pipe: ".toList ++ i.command ++ ": command not found".toList))

/-- The first stage of a pipeline ends it or runs. -/
theorem PipelineRun.head {carried stage : Text} {rest : List Text} {s t : σ}
    {ran : List (RanCommand σ)} {output : Output}
    (h : x.PipelineRun carried (stage :: rest) s ran output t) :
    (ran = [] ∧ x.Stops (x.parse s (stageLine stage carried)) t output) ∨
      ∃ r, ran.head? = some r ∧ r.invocation = x.parse s (stageLine stage carried) ∧
        r.invocation.refusal? = none := by
  cases h with
  | refused parse refusal => subst parse; exact .inl ⟨rfl, .refused refusal⟩
  | unknown parse accepted unregistered => subst parse; exact .inl ⟨rfl, .unknown unregistered⟩
  | failed parse accepted => subst parse; exact .inr ⟨_, rfl, rfl, accepted⟩
  | last parse accepted => subst parse; exact .inr ⟨_, rfl, rfl, accepted⟩
  | next parse accepted => subst parse; exact .inr ⟨_, rfl, rfl, accepted⟩

variable {limits : Limits}

/-- After a stage with an output the pipeline ends, or the next stage runs with the text of that
output. -/
theorem PipelineRun.following (hparse : ∀ s, x.parse s = Invocation.parse limits)
    {carried : Text} {stages : List Text} {s t : σ} {ran : List (RanCommand σ)} {output : Output}
    (h : x.PipelineRun carried stages s ran output t) {k : Nat} {r : RanCommand σ} {given : Output}
    {stage : Text} (hr : ran[k]? = some r) (hgiven : r.result = .ok given)
    (hstage : stages[k + 1]? = some stage) :
    let i := Invocation.parse limits (stageLine stage (Line.joinTexts given.lines))
    (ran.length = k + 1 ∧ x.Stops i t output) ∨
      ∃ next, ran[k + 1]? = some next ∧ next.invocation = i ∧ i.refusal? = none := by
  -- on the run: the first two stages are settled by the head of the tail, later ones by the tail
  induction h generalizing k with
  | nil => cases hr
  | refused => cases hr
  | unknown => cases hr
  | failed =>
    cases k with
    | zero => cases hr; cases hgiven
    | succ k => cases hr
  | last => cases hstage
  | next _ _ _ _ tail ih =>
    cases k with
    | zero =>
      cases hr
      cases hgiven
      cases hstage
      rcases tail.head with ⟨rfl, stops⟩ | ⟨next, hnext, hinvocation, haccepted⟩
      · rw [hparse] at stops
        exact .inl ⟨rfl, stops⟩
      · rw [hparse] at hinvocation
        rw [hinvocation] at haccepted
        exact .inr ⟨next, by rw [← hnext, List.head?_eq_getElem?]; rfl, hinvocation, haccepted⟩
    | succ k =>
      rcases ih hr hstage with ⟨hlength, stops⟩ | hnext
      · exact .inl ⟨congrArg (· + 1) hlength, stops⟩
      · exact .inr hnext

end Executor

end VirtualTerminal
