import Mathlib.Data.Bool.AllAny
import VirtualTerminal.Builtin.Memory
import VirtualTerminal.Proofs.Invocation.Within
import VirtualTerminal.Proofs.Shell.Aliases
import VirtualTerminal.Proofs.Token.LeftOut

/-!
# Listed aliases as input

The line that lists an alias has the form of one that defines it: what the alias stands for is put between
single quotes, and nothing is escaped. Read as input, the line defines the alias it lists exactly if the
alias is replayable (`Replayable.definesItself`, `DefinesItself.replayable`).
-/

namespace VirtualTerminal

open Hit Reading

/-! ## What a listed line says -/

namespace Shell

open Builtin

/-- Whether the line that lists an alias says the same when it is read as input. -/
structure Replayable (name expansion : Text) : Prop where
  name_not_quote : ∀ c ∈ name, Quote.isQuote c = false
  name_not_operator : ';' ∉ name ∧ '|' ∉ name ∧ ¬ ['&', '&'] <:+: name
  name_not_flag : name.head? ≠ some '-' ∨ name[1]?.any Char.isDigit = true
  not_single : '\'' ∉ expansion
  not_escaped : ¬ ['\\', '"'] <:+: expansion
  not_trailing : expansion.getLast? ≠ some '\\'
  fits : name.length + 1 + expansion.length ≤ ({} : Limits).tokenLength

theorem replayable_iff {name expansion : Text} : Replayable name expansion ↔
    (name.all fun c => decide (Quote.isQuote c = false)) = true ∧
      (';' ∉ name ∧ '|' ∉ name ∧ ¬ ['&', '&'] <:+: name) ∧
      (name.head? ≠ some '-' ∨ name[1]?.any Char.isDigit = true) ∧ '\'' ∉ expansion ∧
      ¬ ['\\', '"'] <:+: expansion ∧ expansion.getLast? ≠ some '\\' ∧
      name.length + 1 + expansion.length ≤ ({} : Limits).tokenLength :=
  ⟨fun h => ⟨List.all_iff_forall_prop.mpr h.name_not_quote, h.name_not_operator, h.name_not_flag,
      h.not_single, h.not_escaped, h.not_trailing, h.fits⟩,
    fun ⟨hquote, hoperator, hflag, hsingle, hescaped, htrailing, hfits⟩ =>
      ⟨List.all_iff_forall_prop.mp hquote, hoperator, hflag, hsingle, hescaped, htrailing, hfits⟩⟩

instance (name expansion : Text) : Decidable (Replayable name expansion) :=
  decidable_of_iff _ replayable_iff.symm

/-- Whether the line that lists an alias is, with the default limits, a command that defines the alias. -/
structure DefinesItself (name expansion : Text) : Prop where
  not_chain : Chain.isPresent (aliasLine name expansion).text = false
  not_pipe : Pipe.isPresent (aliasLine name expansion).text = false
  parse_eq : Invocation.parse {} (aliasLine name expansion).text =
    { command := "alias".toList, args := [name ++ '=' :: expansion],
      raw := (aliasLine name expansion).text }

variable {name expansion : Text}

theorem text_aliasLine (name expansion : Text) :
    (aliasLine name expansion).text =
      "alias".toList ++ ' ' :: (name ++ '=' :: '\'' :: (expansion ++ ['\''])) := by
  simp [aliasLine, Line.plain, Line.text, Line.runs]

theorem trim_text_aliasLine (name expansion : Text) :
    Text.trim (aliasLine name expansion).text = (aliasLine name expansion).text := by
  rw [text_aliasLine, Text.trim_eq_self_iff]
  constructor
  · intro c hc
    cases hc
    rfl
  · intro c hc
    simp [List.getLast?_append, List.getLast?_cons] at hc
    subst hc
    rfl

theorem tokens_text_aliasLine (name expansion : Text) :
    Text.tokens (aliasLine name expansion).text =
      "alias".toList :: Text.tokens (name ++ '=' :: '\'' :: (expansion ++ ['\''])) := by
  rw [text_aliasLine]
  exact Text.tokensFrom_append_blank (s := "alias".toList) (r := start) rfl (by decide) none _

/-- A listed line holds an operator exactly if the name does: what the alias stands for is quoted. -/
theorem free_text_aliasLine_iff (hname : ∀ c ∈ name, Quote.isQuote c = false)
    (hsingle : '\'' ∉ expansion) :
    Free search start (aliasLine name expansion).text [] ↔
      ';' ∉ name ∧ '|' ∉ name ∧ ¬ ['&', '&'] <:+: name := by
  have houtside : ((start.through "alias ".toList).through name).inside = none :=
    inside_through_of_not_quote (fun c hc => Text.ofChar?_eq_none (hname c hc)) _
  have hequals : (((start.through "alias ".toList).through name).after '=').inside = none :=
    (insideAfter_of_not_quote (c := '=') rfl _).trans houtside
  have hinside : (((start.through "alias ".toList).through name).through ['=', '\'']).inside =
      some .single :=
    Text.insideAfter_of_outside (q := .single) hequals fun heq =>
      absurd (Option.some.inj heq) (by decide)
  rw [text_aliasLine, show "alias".toList ++ ' ' :: (name ++ '=' :: '\'' :: (expansion ++ ['\''])) =
    "alias ".toList ++ (name ++ (['=', '\''] ++ (expansion ++ ['\'']))) from rfl,
    free_append, free_append, free_append, free_append,
    and_iff_right (free_of_not_operator (List.all_iff_forall_prop.mp (by decide)) _ _),
    free_unquoted_iff hname rfl (by simp), and_iff_left]
  exact ⟨free_of_not_operator (List.all_iff_forall_prop.mp (by decide)) _ _, free_of_inside hinside hsingle,
    free_of_not_operator (List.all_iff_forall_prop.mp (by decide)) _ _⟩

theorem isPositional_iff (name expansion : Text) :
    Invocation.IsPositional (name ++ '=' :: expansion) ↔
      name.head? ≠ some '-' ∨ name[1]?.any Char.isDigit = true := by
  rcases name with _ | ⟨c, _ | ⟨d, name⟩⟩
  · simp [Invocation.IsPositional]
  · simp [Invocation.IsPositional]
  · simp [Invocation.IsPositional]

theorem Replayable.definesItself (hblank : ∀ c ∈ name, isBlank c = false)
    (h : Replayable name expansion) : DefinesItself name expansion := by
  have hfree := (free_text_aliasLine_iff h.name_not_quote h.not_single).mpr h.name_not_operator
  obtain ⟨hchain, hpipe⟩ := free_shell_iff.mp hfree
  refine ⟨Chain.isPresent_eq_false_iff.mpr hchain, Pipe.isPresent_eq_false_iff.mpr hpipe, ?_⟩
  have hfits : name.length + 1 + expansion.length ≤ 1000 := h.fits
  have htokens := (Text.tokens_assigned_iff hblank).mpr
    ⟨h.name_not_quote, h.not_single, h.not_escaped, h.not_trailing⟩
  have hlength : ¬ ({} : Limits).inputLength < (aliasLine name expansion).text.length := by
    have hmost : ({} : Limits).inputLength = 10000 := rfl
    rw [text_aliasLine, hmost]
    simp
    omega
  have hkept : Invocation.keptTokens {} (Text.trim (aliasLine name expansion).text) =
      ["alias".toList, name ++ '=' :: expansion] := by
    rw [trim_text_aliasLine, Invocation.keptTokens, tokens_text_aliasLine, htokens,
      List.filter_cons_of_pos (by decide), List.filter_cons_of_pos, List.filter_nil]
    simp
    omega
  have hpart := Invocation.ofToken_of_isPositional ((isPositional_iff name expansion).mpr h.name_not_flag)
  have hlower : Text.lower "alias".toList = "alias".toList := by decide +kernel
  rw [Invocation.parse_eq_ofTokens hlength, hkept, Invocation.ofTokens, List.map_singleton, hpart, hlower]
  exact Invocation.checked_of_none _ rfl

theorem DefinesItself.replayable (hblank : ∀ c ∈ name, isBlank c = false)
    (h : DefinesItself name expansion) : Replayable name expansion := by
  have hwithin : Invocation.Within {} (aliasLine name expansion).text := by
    by_contra hnot
    obtain ⟨reason, hreason⟩ := Invocation.parse_of_not_within hnot
    rw [h.parse_eq] at hreason
    have hname : "alias".toList = Invocation.refusedName := congrArg Invocation.command hreason
    exact absurd hname (by decide)
  have hreads := Invocation.reads_of_within hwithin
  rw [h.parse_eq] at hreads
  -- every kept token after the name is an argument, as no option has been given
  have hlater : Invocation.laterTokens {} (aliasLine name expansion).text = [name ++ '=' :: expansion] := by
    refine (List.filter_eq_self.mpr fun token htoken => decide_eq_true ?_).symm.trans hreads.args.symm
    by_contra hnot
    obtain ⟨key, x, hmentions⟩ := Invocation.exists_mentions hnot
    exact (hreads.find?_eq_none key).mp rfl token htoken x hmentions
  have htokens : Text.tokens (name ++ '=' :: '\'' :: (expansion ++ ['\''])) =
      [name ++ '=' :: expansion] := by
    refine Text.tokens_eq_of_filter (n := 1000) ?_ ?_
    · unfold Invocation.laterTokens Invocation.keptTokens at hlater
      rw [trim_text_aliasLine, tokens_text_aliasLine, List.filter_cons_of_pos (by decide)] at hlater
      exact hlater
    · simp only [List.length_append, List.length_cons, List.length_nil]
      omega
  obtain ⟨hquote, hsingle, hescaped, htrailing⟩ := (Text.tokens_assigned_iff hblank).mp htokens
  have hfree := free_shell_iff.mpr ⟨Chain.isPresent_eq_false_iff.mp h.not_chain,
    Pipe.isPresent_eq_false_iff.mp h.not_pipe⟩
  have hmem : name ++ '=' :: expansion ∈
      (Invocation.laterTokens {} (aliasLine name expansion).text).filter (Invocation.IsPositional ·) := by
    rw [← hreads.args]
    exact List.mem_singleton_self _
  refine ⟨hquote, (free_text_aliasLine_iff hquote hsingle).mp hfree, ?_, hsingle, hescaped, htrailing, ?_⟩
  · exact (isPositional_iff name expansion).mp (of_decide_eq_true (List.mem_filter.mp hmem).2)
  · have hfits := hreads.length_arg _ (List.mem_singleton_self _)
    rw [List.length_append, List.length_cons] at hfits
    omega

end Shell

end VirtualTerminal
