import VirtualTerminal.Proofs.Session.Desk
import VirtualTerminal.Proofs.Shell.Replay

/-!
# Replaying the listed aliases

The aliases of a session, listed by `alias`, are submitted line by line to a new session. If all of them
are replayable, then the new session ends up with the same aliases (`listed_aliases_replayed`); each line
adds the alias that it lists, and changes nothing that the lines after it depend on.
-/

namespace VirtualTerminal

open Builtin

/-! ## Aliases that have been set -/

/-- What is known of a name and what it stands for once the alias has been set. -/
structure Shell.IsSet (name expansion : Text) : Prop where
  name_ne_nil : name ≠ []
  name_not_blank : ∀ c ∈ name, isBlank c = false
  no_equals : '=' ∉ name
  lower_eq : name.lower = name
  trim_eq : Text.trim expansion = expansion
  ne_nil : expansion ≠ []

namespace Builtin

variable {s s' : Shell} {name expansion : Text}

/-- A definition that is not refused sets an alias. -/
theorem isSet_of_defineAlias (h : defineAlias name expansion s = .ok s') (hname : '=' ∉ name) :
    s' = s.setAlias (Text.trim name) expansion ∧
      Shell.IsSet (Text.trim name).lower (Text.trim expansion) := by
  unfold defineAlias at h
  dsimp only at h
  split at h
  · cases h
  next hvalid =>
    split at h
    · cases h
    next hne =>
      obtain ⟨hnil, hblank⟩ := not_or.mp hvalid
      have hblank : ∀ c ∈ Text.trim name, isBlank c = false := fun c hc =>
        Bool.eq_false_iff.mpr fun hc' => hblank (List.any_eq_true.mpr ⟨c, hc, hc'⟩)
      cases h
      refine ⟨rfl, mt Text.lower_eq_nil_iff.mp hnil, Text.not_blank_of_mem_lowerAfter hblank, ?_,
        Text.lower_lower _, Text.trim_trim _, hne⟩
      intro hmem
      obtain ⟨w, v, -, -, heq⟩ := Text.exists_eq_trim name
      refine hname ?_
      rw [heq]
      exact List.mem_append_left _ (List.mem_append_right _ (Text.mem_of_mem_lowerAfter (by decide) hmem))

/-- What has been set can be set again. -/
theorem defineAlias_of_isSet (h : Shell.IsSet name expansion) (s : Shell) :
    defineAlias name expansion s = .ok { s with aliases := s.aliases.insert name expansion } := by
  have htrim : Text.trim name = name := Text.trim_eq_self_iff.mpr
    ⟨fun c hc => h.name_not_blank c (List.mem_of_head? hc),
      fun c hc => h.name_not_blank c (List.mem_of_getLast? hc)⟩
  have hblank : name.any isBlank = false :=
    List.any_eq_false.mpr fun c hc => by simp [h.name_not_blank c hc]
  unfold defineAlias
  rw [htrim, if_neg (by simp [h.name_ne_nil, hblank]), if_neg (by rw [h.trim_eq]; exact h.ne_nil),
    Shell.setAlias, h.lower_eq, h.trim_eq]

theorem everyAlias_aliasArgs (shown : List Line) (args : List Text) (hs : s.EveryAlias Shell.IsSet) :
    (aliasArgs shown args s).2.EveryAlias Shell.IsSet := by
  induction args generalizing shown s with
  | nil => exact hs
  | cons arg rest ih =>
    unfold aliasArgs
    split
    next name expansion hsplit =>
      split
      next s' hdefine =>
        obtain ⟨rfl, hset⟩ := isSet_of_defineAlias hdefine (Text.eq_of_splitOnce hsplit).2
        exact ih shown (hs.setAlias hset)
      · exact hs
    · split
      · exact ih _ hs
      · exact hs

theorem everyAlias_unaliasArgs (report : Output) (args : List Text) (hs : s.EveryAlias Shell.IsSet) :
    (unaliasArgs report args s).2.EveryAlias Shell.IsSet := by
  induction args generalizing report s with
  | nil => exact hs
  | cons name rest ih =>
    unfold unaliasArgs
    split
    · refine ih report fun key text hfind => hs key text ?_
      rw [Shell.unsetAlias, Table.find?_erase] at hfind
      split at hfind
      · cases hfind
      · exact hfind
    · exact ih _ hs

theorem ofAliases_isSet : Desk.OfAliases fun d => d.shell.EveryAlias Shell.IsSet where
  withDesk hd heq name expansion hfind := hd name expansion (heq ▸ hfind)

theorem isSet_aliasCommand : aliasCommand.body.Keeps fun d => d.shell.EveryAlias Shell.IsSet := by
  refine Handler.keeps_doing fun c d hd => ?_
  dsimp only
  split
  · exact hd
  · exact hd
  · exact everyAlias_aliasArgs _ _ hd

theorem isSet_unalias : unalias.body.Keeps fun d => d.shell.EveryAlias Shell.IsSet := by
  refine Handler.keeps_doing fun c d hd => ?_
  dsimp only
  split
  · exact hd
  · exact everyAlias_unaliasArgs _ _ hd

end Builtin

/-- Whatever a host does, all aliases of a session have been set. -/
theorem Life.isSet_after (config : Config) (events : List Event) :
    ((start config Builtin.table).after events).session.HasDesk config
      fun d => d.shell.EveryAlias Shell.IsSet :=
  Life.hasDesk_after Builtin.ofAliases_isSet.ofShell
    (Builtin.each_keeps_aliases Builtin.ofAliases_isSet Builtin.isSet_aliasCommand
      Builtin.isSet_unalias)
    (Shell.everyAlias_new _ _) events

/-! ## Running the command -/

namespace Session

/-- Whether a session has the built-in commands and the default limits, and `alias` is no alias. -/
structure TakesAliases (s : Session) : Prop where
  commands_eq : s.commands = Builtin.table
  limits_eq : s.config.limits = {}
  not_alias : s.shell.alias? "alias".toList = none

variable {s : Session} {line : Text} {echo : Bool}

/-- A line without operators that starts with the word `alias` is not expanded. -/
theorem TakesAliases.expandLine_eq (hs : s.TakesAliases) (hchain : Chain.isPresent line = false)
    (hpipe : Pipe.isPresent line = false)
    (hword : (Text.firstWord (Text.trimStart line)).1 = "alias".toList) :
    s.shell.expandLine line = line := by
  have hfree := Hit.free_shell_iff.mpr
    ⟨Chain.isPresent_eq_false_iff.mp hchain, Pipe.isPresent_eq_false_iff.mp hpipe⟩
  rw [Shell.expandLine_eq_weave, hfree.cut_eq, hfree.marks_eq, List.map_singleton, Hit.weave_singleton]
  exact Shell.expandAlias_of_alias?_eq_none (hword ▸ hs.not_alias)

/-- A line that is an invocation of `alias` does what the command does. -/
theorem TakesAliases.run_eq (hs : s.TakesAliases) (output : Output) (t : Terminal)
    (hchain : Chain.isPresent line = false) (hpipe : Pipe.isPresent line = false)
    (hword : (Text.firstWord (Text.trimStart line)).1 = "alias".toList)
    (hcommand : (Invocation.parse {} line).command = "alias".toList)
    (hbody : ∀ context : Context, context.invocation = Invocation.parse {} line →
      aliasCommand.body.run context s.toTerminal = (.ok output, t)) :
    s.run line echo = (output, (executor echo).finished { s with toTerminal := t } output) := by
  have hempty : (Invocation.parse {} line).isEmpty = false := by
    rw [Invocation.isEmpty, hcommand]
    rfl
  have hrefusal : (Invocation.parse {} line).refusal? = none := by
    rw [Invocation.refusal?, hcommand]
    rfl
  have hhas : Builtin.table.has "alias".toList = true := by decide +kernel
  have hget : Builtin.table.get? "alias".toList = some aliasCommand := rfl
  have hparse : (executor echo).parse s line = Invocation.parse {} line :=
    congrArg (Invocation.parse · line) hs.limits_eq
  have hregistered : (executor echo).isRegistered s "alias".toList = true := by
    show s.commands.has "alias".toList = true
    rw [hs.commands_eq, hhas]
  have hrun : (executor echo).run s (Invocation.parse {} line) =
      (.ok output, { s with toTerminal := t }) := by
    have hexecute : s.commands.execute s.config.prompt "alias".toList (Invocation.parse {} line)
        s.toTerminal = (.ok output, t) := by
      rw [hs.commands_eq, CommandTable.execute, hget]
      exact hbody _ rfl
    simp only [executor, hcommand, hexecute]
  unfold Session.run Executor.runLine Executor.runSingle Executor.runCommand
  rw [hs.expandLine_eq hchain hpipe hword, hchain, hpipe, hparse]
  simp only [Bool.false_eq_true, if_false, hempty, hrefusal, hcommand, hregistered, Bool.not_true, hrun]

/-- The lines that list the aliases. -/
theorem TakesAliases.run_alias (hs : s.TakesAliases) (hne : s.shell.aliases.entries ≠ []) :
    (s.run "alias".toList echo).1.lines =
      s.shell.aliases.entries.map fun e => aliasLine e.1 e.2 := by
  have hparse : Invocation.parse {} "alias".toList = { command := "alias".toList, raw := "alias".toList } := by
    decide +kernel
  rw [hs.run_eq (.success (s.shell.aliases.entries.map fun e => aliasLine e.1 e.2)) s.toTerminal
    (by decide +kernel) (by decide +kernel) (by decide) (by rw [hparse])]
  · rfl
  · intro context hcontext
    simp only [aliasCommand, Body.run, Handler.doing, hcontext, hparse]

/-- The line that lists a replayable alias defines it. -/
theorem TakesAliases.run_aliasLine (hs : s.TakesAliases) (echo : Bool) {name expansion : Text}
    (hset : Shell.IsSet name expansion) (h : Shell.DefinesItself name expansion) :
    (s.run (aliasLine name expansion).text echo) =
      (.success [], (executor echo).finished { s with
        shell := { s.shell with aliases := s.shell.aliases.insert name expansion } } (.success [])) := by
  refine hs.run_eq (.success []) { s.toTerminal with
    shell := { s.shell with aliases := s.shell.aliases.insert name expansion } } h.not_chain h.not_pipe
    ?_ (by rw [h.parse_eq]) ?_
  · rw [Shell.text_aliasLine]
    rfl
  · intro context hcontext
    simp only [aliasCommand, Body.run, Handler.doing, hcontext, h.parse_eq, aliasArgs,
      Text.splitOnce_append hset.no_equals, defineAlias_of_isSet hset]

/-! ## Lines one after the other -/

theorem aliases_finished (s : Session) (output : Output) :
    ((executor echo).finished s output).shell.aliases = s.shell.aliases := by
  unfold executor Session.clearIfRequested
  dsimp only
  split <;> split <;> rfl

theorem aliases_pushHistory (s : Shell) (line : Text) : (s.pushHistory line).aliases = s.aliases := by
  unfold Shell.pushHistory
  dsimp only
  split <;> rfl

theorem TakesAliases.typed (hs : s.TakesAliases) (line : Text) : (s.typed line).TakesAliases := by
  refine ⟨hs.commands_eq, hs.limits_eq, ?_⟩
  show (s.shell.pushHistory line).aliases.find? (Text.lower "alias".toList) = none
  rw [aliases_pushHistory]
  exact hs.not_alias

/-- A listed line that is submitted adds the alias that it lists. -/
theorem TakesAliases.submit_aliasLine (hs : s.TakesAliases) {name expansion : Text}
    (hset : Shell.IsSet name expansion) (h : Shell.DefinesItself name expansion)
    (hname : name ≠ "alias".toList) :
    (s.submit (aliasLine name expansion).text).1 = .success [] ∧
      (s.submit (aliasLine name expansion).text).2.TakesAliases ∧
      (s.submit (aliasLine name expansion).text).2.shell.aliases =
        s.shell.aliases.insert name expansion := by
  have hrun : s.submit (aliasLine name expansion).text = _ :=
    (hs.typed (aliasLine name expansion).text).run_aliasLine true hset h
  have haliases : (s.submit (aliasLine name expansion).text).2.shell.aliases =
      s.shell.aliases.insert name expansion := by
    rw [hrun, aliases_finished]
    show (s.shell.pushHistory (aliasLine name expansion).text).aliases.insert name expansion = _
    rw [aliases_pushHistory]
  have hfree : (s.submit (aliasLine name expansion).text).2.shell.alias? "alias".toList = none := by
    have hlower : Text.lower "alias".toList = "alias".toList := by decide +kernel
    have hnot := hs.not_alias
    rw [Shell.alias?, hlower] at hnot ⊢
    rw [haliases, Table.find?_insert, if_neg hname, hnot]
  refine ⟨by rw [hrun], ⟨?_, ?_, hfree⟩, haliases⟩
  · rw [hrun, commands_finished]
    exact hs.commands_eq
  · rw [hrun, config_finished]
    exact hs.limits_eq

/-- Submits lines one after the other, and gives their outputs. -/
def submitAll (s : Session) : List Text → List Output × Session
  | [] => ([], s)
  | line :: rest =>
    let (output, s) := s.submit line
    let (outputs, s) := s.submitAll rest
    (output :: outputs, s)

theorem submitAll_cons (s : Session) (line : Text) (rest : List Text) :
    s.submitAll (line :: rest) =
      ((s.submit line).1 :: ((s.submit line).2.submitAll rest).1,
        ((s.submit line).2.submitAll rest).2) := rfl

theorem TakesAliases.submitAll_aliasLines {entries : List (Text × Text)} (hs : s.TakesAliases)
    (h : ∀ e ∈ entries, Shell.IsSet e.1 e.2 ∧ Shell.DefinesItself e.1 e.2 ∧ e.1 ≠ "alias".toList) :
    (∀ output ∈ (s.submitAll (entries.map fun e => (aliasLine e.1 e.2).text)).1,
        output.isSuccess = true) ∧
      (s.submitAll (entries.map fun e => (aliasLine e.1 e.2).text)).2.shell.aliases =
        entries.foldl (fun t e => t.insert e.1 e.2) s.shell.aliases := by
  induction entries generalizing s with
  | nil => exact ⟨fun _ hmem => (nomatch hmem), rfl⟩
  | cons e rest ih =>
    obtain ⟨⟨hset, hdefines, hname⟩, hrest⟩ := List.forall_mem_cons.mp h
    obtain ⟨houtput, hnext, haliases⟩ := hs.submit_aliasLine hset hdefines hname
    obtain ⟨houtputs, hall⟩ := ih hnext hrest
    rw [haliases] at hall
    rw [List.map_cons, submitAll_cons]
    refine ⟨List.forall_mem_cons.mpr ⟨?_, houtputs⟩, hall⟩
    rw [houtput]
    rfl

end Session

/-- The lines that list the aliases of a session with the default limits, submitted to a new session,
succeed and give it the same aliases, if all aliases are replayable and none of them is named `alias`. An
alias that has been set is replayable exactly if the line that lists it is a command that defines it. -/
theorem listed_aliases_replayed (config fresh : Config) (events : List Event)
    (hconfig : config.limits = {}) (hfresh : fresh.limits = {}) :
    let s := ((Life.start config Builtin.table).after events).session
    let listed := (s.run "alias".toList).1.lines.map Line.text
    let replayed := (Session.new fresh).submitAll listed
    (s.shell.aliases.entries ≠ [] → s.shell.alias? "alias".toList = none →
      s.shell.EveryAlias Shell.Replayable →
        listed = s.shell.aliases.entries.map (fun e => (aliasLine e.1 e.2).text) ∧
          (∀ output ∈ replayed.1, output.isSuccess = true) ∧
          replayed.2.shell.aliases = s.shell.aliases) ∧
    s.shell.EveryAlias fun name expansion =>
      (Shell.DefinesItself name expansion ↔ Shell.Replayable name expansion) := by
  intro s listed replayed
  obtain ⟨hcommands, hconfigured, hset⟩ := Life.isSet_after config events
  refine ⟨fun hne hnot hreplayable => ?_, fun name expansion hfind => ?_⟩
  · have hs : s.TakesAliases := ⟨hcommands, by rw [hconfigured, hconfig], hnot⟩
    have hnew : (Session.new fresh).TakesAliases := ⟨rfl, hfresh, rfl⟩
    have hlisted : listed = s.shell.aliases.entries.map fun e => (aliasLine e.1 e.2).text := by
      show (s.run "alias".toList).1.lines.map Line.text = _
      rw [hs.run_alias hne, List.map_map]
      rfl
    have hentries : ∀ e ∈ s.shell.aliases.entries,
        Shell.IsSet e.1 e.2 ∧ Shell.DefinesItself e.1 e.2 ∧ e.1 ≠ "alias".toList := by
      intro e he
      have hfind : s.shell.aliases.find? e.1 = some e.2 := (Table.find?_eq_some_iff _ _ _).mpr he
      have hisSet := hset _ _ hfind
      refine ⟨hisSet, (hreplayable _ _ hfind).definesItself hisSet.name_not_blank, fun hname => ?_⟩
      rw [Shell.alias?, show Text.lower "alias".toList = "alias".toList by decide +kernel, ← hname,
        hfind] at hnot
      cases hnot
    obtain ⟨houtputs, haliases⟩ := hnew.submitAll_aliasLines hentries
    rw [← hlisted] at houtputs haliases
    exact ⟨hlisted, houtputs, haliases.trans (Table.ofList_entries _)⟩
  · have hblank := (hset name expansion hfind).name_not_blank
    exact ⟨fun h => h.replayable hblank, fun h => h.definesItself hblank⟩

/-- Two aliases that are replayed, one of which quotes an operator. -/
theorem listed_aliases_replayed_quoted :
    let events : List Event := [.submit "alias LL='ls -l' q='echo \"a;b\" | wc'".toList]
    let s := ((Life.start {} Builtin.table).after events).session
    let listed := (s.run "alias".toList).1.lines.map Line.text
    listed = ["alias ll='ls -l'", "alias q='echo \"a;b\" | wc'"].map String.toList ∧
      ((Session.new { home := "/".toList }).submitAll listed).2.shell.aliases = s.shell.aliases := by
  intro events
  dsimp only
  have hentries : ((Life.start {} Builtin.table).after events).session.shell.aliases.entries =
      [("ll".toList, "ls -l".toList), ("q".toList, "echo \"a;b\" | wc".toList)] := by
    decide +kernel
  have hreplayable : ((Life.start {} Builtin.table).after events).session.shell.EveryAlias
      Shell.Replayable := by
    intro name expansion hfind
    have hmem := Table.mem_of_lookup hfind
    rw [hentries] at hmem
    have heach : ∀ e ∈ [("ll".toList, "ls -l".toList), ("q".toList, "echo \"a;b\" | wc".toList)],
        Shell.Replayable e.1 e.2 := by
      decide +kernel
    exact heach _ hmem
  obtain ⟨hlisted, -, haliases⟩ := (listed_aliases_replayed {} { home := "/".toList } events rfl rfl).1
    (by rw [hentries]; exact List.cons_ne_nil _ _) (by decide +kernel) hreplayable
  refine ⟨hlisted.trans ?_, haliases⟩
  rw [hentries]
  decide +kernel

/-- A single quote in what an alias stands for is not escaped in the line that lists the alias. The new
session takes the line and sets an alias that stands for something else. -/
theorem not_replayed_of_single_quote :
    let s := ((Life.start {} Builtin.table).after [.submit "alias say=\"echo it's\"".toList]).session
    let listed := (s.run "alias".toList).1.lines.map Line.text
    let replayed := (Session.new {}).submitAll listed
    s.shell.aliases.entries = [("say".toList, "echo it's".toList)] ∧
      listed = ["alias say='echo it's'".toList] ∧
      (replayed.1.map Output.isSuccess = [true] ∧
        replayed.2.shell.aliases.entries = [("say".toList, "echo its".toList)]) := by
  decide +kernel

end VirtualTerminal
