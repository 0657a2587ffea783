import Mathlib.Data.List.Destutter
import Mathlib.Data.List.DropRight
import VirtualTerminal.Proofs.Chain.Segmentation
import VirtualTerminal.Shell

/-!
# The history is the recent past

The history knows only the lines that it still holds, and looks only at the last one of them before it
takes a new one. All the same it is what remains of the whole log of lines: the log since the history was
cleared last, in which each run of equal lines counts once, cut down to its last entries (`history_recent`).
-/

namespace VirtualTerminal

/-! ## Runs of equal entries -/

section Runs

variable {α : Type u} [DecidableEq α]

theorem getLast?_destutter' (a : α) (l : List α) :
    (l.destutter' (· ≠ ·) a).getLast? = (a :: l).getLast? := by
  induction l generalizing a with
  | nil => rfl
  | cons b l ih =>
    by_cases h : a = b
    · subst h
      rw [List.destutter'_cons_neg (h := not_not.mpr rfl), ih, List.getLast?_cons_cons]
    · rw [List.destutter'_cons_pos (h := h), List.getLast?_cons, ih, List.getLast?_cons_cons,
        List.getLast?_cons, Option.getD_some]

theorem getLast?_destutter (l : List α) : (l.destutter (· ≠ ·)).getLast? = l.getLast? := by
  cases l with
  | nil => rfl
  | cons a l => exact getLast?_destutter' a l

theorem destutter'_concat (a x : α) (l : List α) :
    (l ++ [x]).destutter' (· ≠ ·) a =
      if (a :: l).getLast? = some x then l.destutter' (· ≠ ·) a
      else l.destutter' (· ≠ ·) a ++ [x] := by
  induction l generalizing a with
  | nil => by_cases h : a = x <;> simp [h]
  | cons b l ih =>
    rw [List.getLast?_cons_cons, List.cons_append]
    by_cases h : a = b
    · subst h
      rw [List.destutter'_cons_neg (h := not_not.mpr rfl), List.destutter'_cons_neg (h := not_not.mpr rfl),
        ih]
    · rw [List.destutter'_cons_pos (h := h), List.destutter'_cons_pos (h := h), ih]
      split <;> rfl

/-- An entry at the end starts a run of its own, or it goes on with the last one. -/
theorem destutter_concat (l : List α) (x : α) :
    (l ++ [x]).destutter (· ≠ ·) =
      if l.getLast? = some x then l.destutter (· ≠ ·) else l.destutter (· ≠ ·) ++ [x] := by
  cases l with
  | nil => rfl
  | cons a l => exact destutter'_concat a x l

end Runs

/-! ## The last entries -/

section Last

variable {α : Type u}

theorem getLast?_rtake_succ (l : List α) (n : Nat) : (l.rtake (n + 1)).getLast? = l.getLast? := by
  unfold List.rtake
  rw [List.getLast?_drop]
  split
  next h =>
    rw [List.length_eq_zero_iff.mp (by omega : l.length = 0)]
    rfl
  next => rfl

/-- Entries that have gone already would go with the oldest ones. -/
theorem rtake_concat_rtake (l : List α) (x : α) (n : Nat) :
    (l.rtake n ++ [x]).rtake n = (l ++ [x]).rtake n := by
  cases n with
  | zero => rw [List.rtake_zero, List.rtake_zero]
  | succ n =>
    rw [List.rtake_concat_succ, List.rtake_concat_succ]
    unfold List.rtake
    rw [List.drop_drop, List.length_drop]
    congr 2
    omega

end Last

/-! ## The log -/

/-- What happens to a history: a line is entered, or the history is cleared. -/
inductive HistoryEvent where
  | enter (line : Text)
  | clear

namespace HistoryEvent

/-- The line that is entered. -/
def line? : HistoryEvent → Option Text
  | enter line => some line
  | clear => none

/-- The lines entered since the last time that the history was cleared. -/
def linesSinceClear (events : List HistoryEvent) : List Text :=
  (events.rtakeWhile (·.line?.isSome)).filterMap line?

/-- The log of these lines: trimmed, without the blank ones, and with one entry for each run of equal lines. -/
def log (events : List HistoryEvent) : List Text :=
  (Text.kept (linesSinceClear events)).destutter (· ≠ ·)

theorem linesSinceClear_enter (events : List HistoryEvent) (line : Text) :
    linesSinceClear (events ++ [enter line]) = linesSinceClear events ++ [line] := by
  unfold linesSinceClear
  rw [List.rtakeWhile_concat_pos _ _ _ rfl, List.filterMap_append]
  rfl

theorem linesSinceClear_clear (events : List HistoryEvent) :
    linesSinceClear (events ++ [clear]) = [] := by
  unfold linesSinceClear
  rw [List.rtakeWhile_concat_neg _ _ _ Bool.false_ne_true]
  rfl

end HistoryEvent

/-! ## The history -/

namespace Shell

open HistoryEvent

/-- The shell after an event of the history. -/
def after (s : Shell) : HistoryEvent → Shell
  | .enter line => s.pushHistory line
  | .clear => s.clearHistory

/-- Whether a shell keeps the last entries of a log, up to a limit. -/
structure Recalls (s : Shell) (limit : Nat) (log : List Text) : Prop where
  limit_eq : s.historyLimit = limit
  history_eq : s.history = log.rtake limit

variable {s : Shell} {limit : Nat} {events : List HistoryEvent}

/-- If the limit leaves room for an entry, the last one is the last line of the log. -/
theorem Recalls.getLast?_history {lines : List Text}
    (h : s.Recalls (limit + 1) (lines.destutter (· ≠ ·))) : s.history.getLast? = lines.getLast? := by
  rw [h.history_eq, getLast?_rtake_succ, getLast?_destutter]

/-- A line is compared with the last entry that is left. If the limit is zero none is left, but then it
does not matter what is compared. -/
theorem Recalls.enter {lines : List Text} (h : s.Recalls limit (lines.destutter (· ≠ ·))) (line : Text) :
    (s.pushHistory line).Recalls limit
      ((lines ++ if Text.trim line = [] then [] else [Text.trim line]).destutter (· ≠ ·)) := by
  unfold Shell.pushHistory
  dsimp only
  by_cases hblank : Text.trim line = []
  · rw [if_pos (.inl hblank), if_pos hblank, List.append_nil]
    exact h
  rw [if_neg hblank, destutter_concat]
  by_cases hrepeated : s.history.getLast? = some (Text.trim line)
  · have hlast : lines.getLast? = some (Text.trim line) := by
      cases limit with
      | zero =>
        rw [h.history_eq, List.rtake_zero] at hrepeated
        cases hrepeated
      | succ limit => rwa [h.getLast?_history] at hrepeated
    rw [if_pos (.inr hrepeated), if_pos hlast]
    exact h
  · rw [if_neg (not_or.mpr ⟨hblank, hrepeated⟩)]
    refine ⟨h.limit_eq, ?_⟩
    show (s.history ++ [Text.trim line]).rtake s.historyLimit = _
    rw [h.limit_eq, h.history_eq, rtake_concat_rtake]
    split
    next hlast =>
      cases limit with
      | zero => rw [List.rtake_zero, List.rtake_zero]
      | succ limit => exact absurd (h.getLast?_history.trans hlast) hrepeated
    next => rfl

theorem Recalls.pushHistory (h : s.Recalls limit (log events)) (line : Text) :
    (s.pushHistory line).Recalls limit (log (events ++ [.enter line])) := by
  have hkept : Text.kept (linesSinceClear (events ++ [.enter line])) =
      Text.kept (linesSinceClear events) ++ if Text.trim line = [] then [] else [Text.trim line] := by
    rw [linesSinceClear_enter, Text.kept_append, Text.kept_cons, Text.kept_nil, List.append_nil]
  have hentered := h.enter line
  rwa [← hkept] at hentered

theorem Recalls.after (h : s.Recalls limit (log events)) (e : HistoryEvent) :
    (s.after e).Recalls limit (log (events ++ [e])) := by
  cases e with
  | enter line => exact h.pushHistory line
  | clear =>
    refine ⟨h.limit_eq, ?_⟩
    unfold log
    rw [linesSinceClear_clear]
    exact (List.rtake_nil _).symm

theorem recalls_foldl (home : Text) (limit : Nat) (events : List HistoryEvent) :
    (events.foldl Shell.after (new home limit)).Recalls limit (log events) := by
  induction events using List.reverseRecOn with
  | nil => exact ⟨rfl, (List.rtake_nil _).symm⟩
  | append_singleton events e ih =>
    rw [List.foldl_append]
    exact ih.after e

/-- The history holds the last entries of its log, as many as the limit allows. So it is never longer than
that, and holds no blank or untrimmed entry and no two equal ones next to each other. -/
theorem history_recent (home : Text) (limit : Nat) (events : List HistoryEvent) :
    let history := (events.foldl Shell.after (new home limit)).history
    history = (log events).rtake limit ∧ history.length ≤ limit ∧
      (∀ line ∈ history, line ≠ [] ∧ Text.trim line = line) ∧ history.IsChain (· ≠ ·) := by
  intro history
  have hhistory : history = (log events).rtake limit := (recalls_foldl home limit events).history_eq
  have hsuffix : history <:+ log events := hhistory ▸ List.drop_suffix _ _
  refine ⟨hhistory, ?_, fun line hline => ?_, ?_⟩
  · rw [hhistory, List.rtake, List.length_drop]
    omega
  · have hmem : line ∈ Text.kept (linesSinceClear events) :=
      (List.destutter_sublist _ _).subset (hsuffix.subset hline)
    exact ⟨of_decide_eq_true (List.mem_filter.mp hmem).2, Text.trim_of_mem_kept hmem⟩
  · exact (List.isChain_destutter _ _).suffix hsuffix

/-- A line that is entered again counts anew once another one has been entered, also if the limit leaves
room for one line only. -/
example :
    let events := ["ls", " ls ", "pwd", " ", "pwd", "ls"].map fun line => HistoryEvent.enter line.toList
    log events = ["ls", "pwd", "ls"].map String.toList ∧
      (events.foldl Shell.after (new [] 1)).history = ["ls".toList] := by
  decide

end Shell

end VirtualTerminal
