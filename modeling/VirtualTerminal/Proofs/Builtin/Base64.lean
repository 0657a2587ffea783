import VirtualTerminal.Proofs.Base64
import VirtualTerminal.Proofs.Invocation.Mention
import VirtualTerminal.Proofs.Pipe
import VirtualTerminal.Proofs.Text.Split
import VirtualTerminal.Proofs.Text.Utf8
import VirtualTerminal.Session

/-!
# Base64 through a pipe

What `base64` prints for a text is one line of symbols. As one more argument of `base64 -d` it is read as it
is (`parse_decodeLine`), and decoding it gives the text again (`decodeText_encoded`). So a pipe through both
prints the lines of the text (`base64_undone`).
-/

namespace VirtualTerminal

/-! ## Stages that run -/

namespace Executor

variable {σ : Type u} {x : Executor σ} {s s' : σ} {carried stage : Text} {output : Output}

/-- The last stage of a pipeline gives its output. -/
theorem runStages_last (haccepted : (x.parse s (stageLine stage carried)).refusal? = none)
    (hregistered : x.isRegistered s (x.parse s (stageLine stage carried)).command = true)
    (hrun : x.run s (x.parse s (stageLine stage carried)) = (.ok output, s')) :
    x.runStages carried [stage] s = (output, s') := by
  simp only [runStages, haccepted, hregistered, hrun, Bool.not_true, Bool.false_eq_true, if_false]

/-- A stage with an output passes its text on to the next one. -/
theorem runStages_next {next : Text} {rest : List Text}
    (haccepted : (x.parse s (stageLine stage carried)).refusal? = none)
    (hregistered : x.isRegistered s (x.parse s (stageLine stage carried)).command = true)
    (hrun : x.run s (x.parse s (stageLine stage carried)) = (.ok output, s')) :
    x.runStages carried (stage :: next :: rest) s =
      x.runStages (Line.joinTexts output.lines) (next :: rest) s' := by
  rw [runStages]
  simp only [haccepted, hregistered, hrun, Bool.not_true, Bool.false_eq_true, if_false]

end Executor

/-! ## The texts that are passed on -/

namespace Builtin

open Invocation

variable {t : Text}

/-- A text that has been encoded. -/
def encoded (t : Text) : Text :=
  Base64.encode (Text.encode t)

theorem encoded_ne_nil (ht : t ≠ []) : encoded t ≠ [] :=
  Base64.encode_ne_nil (Text.encode_ne_nil ht)

/-- What is printed for a text is passed on as it is. -/
theorem joinTexts_encodeText (ht : t ≠ []) : Line.joinTexts (encodeText t).lines = encoded t := by
  have hline : '\n' ∉ encoded t := fun h => by
    have hblank := (Base64.plain_encode _ _ h).1
    exact absurd hblank (by decide)
  have hlines : (encodeText t).lines = [Line.plain (encoded t)] :=
    congrArg (List.map Line.plain) (Text.lines_eq_singleton (encoded_ne_nil ht) hline)
  rw [hlines]
  simp [Line.joinTexts, Text.join, Line.text, Line.runs, Line.plain]

theorem decodeText_encoded (t : Text) : decodeText (encoded t) = .text t := by
  have hfilter : (encoded t).filter (!isBlank ·) = encoded t :=
    List.filter_eq_self.mpr fun c hc => by simp [(Base64.plain_encode _ c hc).1]
  unfold decodeText
  rw [hfilter, encoded, Base64.decode_encode]
  exact congrArg Output.text (Text.decodeLossy_encode t)

/-- Quotes hold an encoded text as it is. -/
theorem quotable_encoded (t : Text) : (encoded t).Quotable := by
  have hslash : '\\' ∉ encoded t := fun h => (Base64.plain_encode _ _ h).2.1 rfl
  exact ⟨fun hpart => hslash (hpart.subset (by simp)), fun hlast => hslash (List.mem_of_getLast? hlast)⟩

theorem isPositional_encoded (t : Text) : IsPositional (encoded t) :=
  .inl fun hhead => (Base64.plain_encode _ _ (List.mem_of_head? hhead)).2.2 rfl

/-- The line of the second stage. -/
def decodeLine (t : Text) : Text :=
  Executor.stageLine "base64 -d".toList (encoded t)

/-- The second stage is asked to decode what the first one has printed. -/
theorem parse_decodeLine {limits : Limits} (ht : t ≠ []) (htoken : 6 ≤ limits.tokenLength)
    (hargs : 1 ≤ limits.args) (hoptions : 1 ≤ limits.options)
    (hencoded : (encoded t).length ≤ limits.tokenLength)
    (hline : (decodeLine t).length ≤ limits.inputLength) :
    parse limits (decodeLine t) =
      { command := "base64".toList, args := [encoded t], flags := [['d']],
        options := Table.empty.insert ['d'] .flag, raw := decodeLine t } := by
  have hne := encoded_ne_nil ht
  have htrim : Text.trim (decodeLine t) = decodeLine t :=
    trim_stageLine (by decide) (by decide) hne
  have htokens : Text.tokens (decodeLine t) = ["base64".toList, "-d".toList, encoded t] := by
    rw [decodeLine, tokens_stageLine (by decide) hne (quotable_encoded t)]
    rfl
  have hkept : keptTokens limits (decodeLine t) = ["base64".toList, "-d".toList, encoded t] := by
    rw [keptTokens, htokens, List.filter_eq_self]
    simp
    omega
  have hlower : Text.lower "base64".toList = "base64".toList := by decide +kernel
  have hflag : Part.ofToken "-d".toList = .flags [['d']] := by decide
  rw [parse_eq_ofTokens (Nat.not_lt.mpr hline), htrim, hkept, ofTokens, List.map_cons, List.map_singleton,
    hflag, ofToken_of_isPositional (isPositional_encoded t), hlower]
  refine checked_of_none _ ?_
  have hsize : (Table.empty.insert ['d'] OptionValue.flag).size = 1 := rfl
  unfold countRefusal?
  exact (if_neg (Nat.not_lt.mpr hargs)).trans (if_neg (Nat.not_lt.mpr (hsize ▸ hoptions)))

/-! ## The command -/

variable {s : Session} {i : Invocation}

theorem isRegistered_base64 (echo : Bool) (hs : s.commands = table) (hcommand : i.command = "base64".toList) :
    (Session.executor echo).isRegistered s i.command = true := by
  have hhas : table.has "base64".toList = true := by decide +kernel
  show s.commands.has i.command = true
  rw [hs, hcommand, hhas]

theorem refusal?_base64 (hcommand : i.command = "base64".toList) : i.refusal? = none := by
  rw [Invocation.refusal?, hcommand]
  rfl

/-- With one argument, the command encodes or decodes this argument. -/
theorem base64_run {c : Context} (hargs : c.invocation.args = [t]) (d : Terminal) :
    base64.body.run c d =
      (.ok (if c.invocation.hasFlag "d".toList then decodeText t else encodeText t), d) := by
  unfold base64 Body.run Handler.showing
  dsimp only
  rw [hargs, if_neg (List.cons_ne_nil t []), Text.join]

theorem run_base64 (echo : Bool) (hs : s.commands = table) (hcommand : i.command = "base64".toList)
    (hargs : i.args = [t]) :
    (Session.executor echo).run s i =
      (.ok (if i.hasFlag "d".toList then decodeText t else encodeText t), s) := by
  have hget : table.get? "base64".toList = some base64 := rfl
  have hexecute : s.commands.execute s.config.prompt i.command i s.toTerminal =
      (.ok (if i.hasFlag "d".toList then decodeText t else encodeText t), s.toTerminal) := by
    rw [hs, CommandTable.execute, hcommand, hget]
    exact base64_run hargs s.toTerminal
  simp only [Session.executor, hexecute]

/-- With one argument and without the flag, the command encodes the argument. -/
theorem run_encode (echo : Bool) (hs : s.commands = table) (hcommand : i.command = "base64".toList)
    (hargs : i.args = [t]) (hflag : i.hasFlag "d".toList = false) :
    (Session.executor echo).run s i = (.ok (encodeText t), s) := by
  have hrun := run_base64 echo hs hcommand hargs
  rwa [hflag] at hrun

/-- The second stage prints the lines of the text that has been encoded. -/
theorem runStages_encoded (echo : Bool) (hs : s.commands = table) (ht : t ≠ [])
    (htoken : 6 ≤ s.config.limits.tokenLength) (hargs : 1 ≤ s.config.limits.args)
    (hoptions : 1 ≤ s.config.limits.options)
    (hencoded : (encoded t).length ≤ s.config.limits.tokenLength)
    (hline : (decodeLine t).length ≤ s.config.limits.inputLength) :
    (Session.executor echo).runStages (encoded t) ["base64 -d".toList] s =
      (⟨Line.ofText t, .success⟩, s) := by
  have hparse : (Session.executor echo).parse s (decodeLine t) = _ :=
    parse_decodeLine ht htoken hargs hoptions hencoded hline
  have hcommand : ((Session.executor echo).parse s (decodeLine t)).command = "base64".toList := by
    rw [hparse]
  have hflag : ((Session.executor echo).parse s (decodeLine t)).hasFlag "d".toList = true := by
    rw [hparse]
    rfl
  refine Executor.runStages_last (refusal?_base64 hcommand) (isRegistered_base64 echo hs hcommand) ?_
  have hrun := run_base64 echo (t := encoded t) hs hcommand (by rw [hparse])
  rwa [hflag, if_pos rfl, decodeText_encoded] at hrun

/-- Run with one argument, `base64` prints something that a pipe takes to `base64 -d`, which prints the
lines of the argument. -/
theorem base64_undone (s : Session) (echo : Bool) (t : Text) (hs : s.commands = table) (ht : t ≠ [])
    (htoken : 6 ≤ s.config.limits.tokenLength) (hargs : 1 ≤ s.config.limits.args)
    (hoptions : 1 ≤ s.config.limits.options)
    (hencoded : (encoded t).length ≤ s.config.limits.tokenLength)
    (hline : (decodeLine t).length ≤ s.config.limits.inputLength) :
    let x := Session.executor echo
    let decoded : Output := ⟨Line.ofText t, .success⟩
    (∀ i : Invocation, i.command = "base64".toList → i.args = [t] → i.hasFlag "d".toList = false →
      ∃ output, x.run s i = (.ok output, s) ∧
        x.runStages (Line.joinTexts output.lines) ["base64 -d".toList] s = (decoded, s)) ∧
    ∀ stage, (parse s.config.limits stage).command = "base64".toList →
      (parse s.config.limits stage).args = [t] →
      (parse s.config.limits stage).hasFlag "d".toList = false →
        x.runPipe [stage, "base64 -d".toList] s = (decoded, s) := by
  intro x decoded
  have hdecode : x.runStages (Line.joinTexts (encodeText t).lines) ["base64 -d".toList] s =
      (decoded, s) := by
    rw [joinTexts_encodeText ht]
    exact runStages_encoded echo hs ht htoken hargs hoptions hencoded hline
  refine ⟨fun i hcommand hargs hflag => ⟨_, run_encode echo hs hcommand hargs hflag, hdecode⟩, ?_⟩
  intro stage hcommand hargs hflag
  have hfirst : x.parse s (Executor.stageLine stage []) = parse s.config.limits stage :=
    congrArg (x.parse s) (if_pos rfl)
  rw [← hfirst] at hcommand hargs hflag
  rw [← hdecode]
  exact Executor.runStages_next (refusal?_base64 hcommand) (isRegistered_base64 echo hs hcommand)
    (run_encode echo hs hcommand hargs hflag)

/-- Three lines, one of them empty, with a character of two bytes. -/
theorem base64_undone_threeLines :
    let s := Session.new {}
    let t := "né\n\nab c".toList
    s.commands = table ∧ t ≠ [] ∧ 6 ≤ s.config.limits.tokenLength ∧ 1 ≤ s.config.limits.args ∧
      1 ≤ s.config.limits.options ∧ (encoded t).length ≤ s.config.limits.tokenLength ∧
      (decodeLine t).length ≤ s.config.limits.inputLength ∧
      (Session.executor false).runPipe ["base64 'né\n\nab c'".toList, "base64 -d".toList] s =
        (⟨["né".toList, [], "ab c".toList].map Line.plain, .success⟩, s) := by
  intro s t
  have ht : t ≠ [] := by decide
  have hencoded : (encoded t).length ≤ s.config.limits.tokenLength := by decide +kernel
  have hline : (decodeLine t).length ≤ s.config.limits.inputLength := by decide +kernel
  refine ⟨rfl, ht, by decide, by decide, by decide, hencoded, hline, ?_⟩
  exact (base64_undone s false t rfl ht (by decide) (by decide) (by decide) hencoded hline).2 _
    (by decide +kernel) (by decide +kernel) (by decide +kernel)

end Builtin

end VirtualTerminal
