import VirtualTerminal.Proofs.Executor.Trace

/-!
# Chains as expressions

The segments of a chain and the operators between them are an expression nested to the left, whose
evaluation runs the right side of an operator only where the outcome of the left side asks for it.
Running the segments one after the other, with the outcome of the last one that ran as the only
memory, is this evaluation (`runChain_eq_evaluate`).
-/

namespace VirtualTerminal

/-- An expression over segments. -/
inductive ChainExpr where
  | segment (command : Text)
  /-- The right side runs only if the left side succeeds. -/
  | and (left right : ChainExpr)
  /-- The right side runs only if the left side fails. -/
  | or (left right : ChainExpr)
  /-- Both sides run. -/
  | andThen (left right : ChainExpr)
  deriving DecidableEq, Repr

namespace ChainExpr

/-- Two expressions with an operator between them; without an operator both of them run. -/
def join : Option ChainOperator → ChainExpr → ChainExpr → ChainExpr
  | some .and => and
  | some .or => or
  | some .andThen => andThen
  | none => andThen

/-- An expression with further segments nested to its right, the first one after `operator`. -/
def nest (left : ChainExpr) (operator : Option ChainOperator) : List Segment → ChainExpr
  | [] => left
  | s :: rest => nest (join operator left (.segment s.command)) s.operator rest

/-- The expression `((s₁ op₁ s₂) op₂ s₃) …` of a chain that has segments. -/
def ofSegments? : List Segment → Option ChainExpr
  | [] => none
  | s :: rest => some (nest (.segment s.command) s.operator rest)

end ChainExpr

/-! ## Evaluation -/

/-- A segment that ran: the state that it started from and its output. -/
structure RanSegment (σ : Type u) where
  command : Text
  before : σ
  output : Output

/-- What an evaluation comes to: the segments that ran, in order, whether the expression succeeded,
and the state in the end. -/
structure Evaluation (σ : Type u) where
  ran : List (RanSegment σ)
  succeeded : Bool
  state : σ

/-- The lines of outputs one after the other, with the status of the last of them; a success if there
are none. -/
def Output.joined (outputs : List Output) : Output :=
  ⟨outputs.flatMap Output.lines, outputs.getLast?.elim .success Output.status⟩

/-- The output of an evaluation: that of the segments that ran. -/
def Evaluation.output {σ : Type u} (v : Evaluation σ) : Output :=
  Output.joined (v.ran.map RanSegment.output)

/-- The evaluation of a right side after that of the left side. -/
def Evaluation.andThen {σ : Type u} (left : Evaluation σ) (right : σ → Evaluation σ) :
    Evaluation σ :=
  let r := right left.state
  ⟨left.ran ++ r.ran, r.succeeded, r.state⟩

namespace ChainExpr

variable {σ : Type u} (x : Executor σ)

/-- The evaluation of an expression. A side that does not run leaves the outcome of the other. -/
def eval : ChainExpr → σ → Evaluation σ
  | segment command, s =>
    let (output, t) := x.runSegment command s
    ⟨[⟨command, s, output⟩], output.isSuccess, x.finished t output⟩
  | and left right, s =>
    let l := left.eval s
    if l.succeeded then l.andThen right.eval else l
  | or left right, s =>
    let l := left.eval s
    if l.succeeded then l else l.andThen right.eval
  | andThen left right, s => (left.eval s).andThen right.eval

theorem eval_join (operator : Option ChainOperator) (left right : ChainExpr) (s : σ) :
    (join operator left right).eval x s =
      if (operator.getD .andThen).admits (left.eval x s).succeeded then
        (left.eval x s).andThen (right.eval x)
      else left.eval x s := by
  rcases operator with _ | _ | _ | _
  · rfl
  · rfl
  · cases h : (left.eval x s).succeeded <;> simp [join, eval, ChainOperator.admits, h]
  · rfl

end ChainExpr

/-- The evaluation of a chain; a chain without segments succeeds. -/
def Chain.evaluate {σ : Type u} (x : Executor σ) (segments : List Segment) (s : σ) : Evaluation σ :=
  match ChainExpr.ofSegments? segments with
  | none => ⟨[], true, s⟩
  | some e => e.eval x s

/-! ## The segments that run -/

section Runs

variable {σ : Type u} (x : Executor σ)

/-- Segments run one after the other: each starts from the state that the one before has left once
its output was taken note of. -/
inductive Executor.Runs : σ → List (RanSegment σ) → σ → Prop where
  | nil (s : σ) : Runs s [] s
  | cons {command : Text} {s t u : σ} {output : Output} {ran : List (RanSegment σ)}
      (segment : x.runSegment command s = (output, t))
      (rest : Runs (x.finished t output) ran u) : Runs s (⟨command, s, output⟩ :: ran) u

variable {x}

theorem Executor.Runs.append {s t u : σ} {xs ys : List (RanSegment σ)} (hxs : x.Runs s xs t)
    (hys : x.Runs t ys u) : x.Runs s (xs ++ ys) u := by
  induction hxs with
  | nil => exact hys
  | cons segment _ ih => exact .cons segment (ih hys)

/-- Whether an evaluation from a state ran its segments one after the other and ended with the
outcome of the last one. -/
structure Evaluation.Faithful (x : Executor σ) (s : σ) (v : Evaluation σ) : Prop where
  runs : x.Runs s v.ran v.state
  outcome : ∃ r, v.ran.getLast? = some r ∧ v.succeeded = r.output.isSuccess

theorem Evaluation.Faithful.andThen {s : σ} {left : Evaluation σ} {right : σ → Evaluation σ}
    (hl : left.Faithful x s) (hr : ∀ t, (right t).Faithful x t) :
    (left.andThen right).Faithful x s := by
  obtain ⟨r, hlast, hok⟩ := (hr left.state).outcome
  refine ⟨hl.runs.append (hr left.state).runs, r, ?_, hok⟩
  unfold Evaluation.andThen
  rw [List.getLast?_append, hlast]
  rfl

theorem ChainExpr.faithful_eval (e : ChainExpr) (s : σ) : (e.eval x s).Faithful x s := by
  induction e generalizing s with
  | segment command => exact ⟨.cons rfl (.nil _), _, rfl, rfl⟩
  | and left right hleft hright =>
    show Evaluation.Faithful x s (if (left.eval x s).succeeded then _ else _)
    split
    · exact (hleft s).andThen hright
    · exact hleft s
  | or left right hleft hright =>
    show Evaluation.Faithful x s (if (left.eval x s).succeeded then _ else _)
    split
    · exact hleft s
    · exact (hleft s).andThen hright
  | andThen left right hleft hright => exact (hleft s).andThen hright

theorem Chain.runs_evaluate (segments : List Segment) (s : σ) :
    x.Runs s (Chain.evaluate x segments s).ran (Chain.evaluate x segments s).state := by
  unfold Chain.evaluate
  split
  · exact .nil s
  · exact (ChainExpr.faithful_eval _ s).runs

end Runs

/-! ## Running segment by segment -/

section Loop

variable {σ : Type u} (x : Executor σ)

theorem ran_eval_segment (command : Text) (s : σ) :
    ((ChainExpr.segment command).eval x s).ran =
      [⟨command, s, (x.runSegment command s).1⟩] := rfl

/-- Running further segments after an expression is evaluating the expression nested with them. -/
theorem runSegments_eq_eval_nest (segments : List Segment) :
    ∀ (e : ChainExpr) (operator : Option ChainOperator) (s : σ),
      ∃ more, ((e.nest operator segments).eval x s).ran = (e.eval x s).ran ++ more ∧
        x.runSegments (operator.getD .andThen) (e.eval x s).succeeded segments (e.eval x s).state =
          (more.flatMap (·.output.lines), ((e.nest operator segments).eval x s).succeeded,
            ((e.nest operator segments).eval x s).state) := by
  induction segments with
  | nil => intro e operator s; exact ⟨[], (List.append_nil _).symm, rfl⟩
  | cons segment rest ih =>
    intro e operator s
    obtain ⟨more, hran, hrun⟩ := ih (.join operator e (.segment segment.command)) segment.operator s
    rw [ChainExpr.nest, hran]
    rw [ChainExpr.eval_join] at hran hrun ⊢
    rw [Executor.runSegments]
    by_cases hgate : (operator.getD .andThen).admits (e.eval x s).succeeded
    · rw [if_pos hgate] at hrun ⊢
      rw [if_pos hgate]
      refine ⟨_ :: more, List.append_assoc _ _ _, ?_⟩
      simp only [List.flatMap_cons]
      exact congrArg (fun r : List Line × Bool × σ => (_ ++ r.1, r.2)) hrun
    · rw [if_neg hgate] at hrun ⊢
      rw [if_neg hgate]
      exact ⟨more, rfl, hrun⟩

theorem status_eq_of_isSuccess (o : Output) :
    (if o.isSuccess then Status.success else Status.failure) = o.status := by
  unfold Output.isSuccess
  cases o.status <;> rfl

theorem runChain_eq_output_evaluate (segments : List Segment) (s : σ) :
    x.runChain segments s =
      ((Chain.evaluate x segments s).output, (Chain.evaluate x segments s).state) := by
  cases segments with
  | nil => rfl
  | cons segment rest =>
    obtain ⟨more, hran, hrun⟩ :=
      runSegments_eq_eval_nest x rest (.segment segment.command) segment.operator s
    obtain ⟨r, hlast, hok⟩ := (ChainExpr.faithful_eval (x := x)
      (ChainExpr.nest (.segment segment.command) segment.operator rest) s).outcome
    have hloop : x.runSegments .andThen true (segment :: rest) s = _ :=
      congrArg (fun r : List Line × Bool × σ =>
        ((x.runSegment segment.command s).1.lines ++ r.1, r.2)) hrun
    unfold Executor.runChain Chain.evaluate ChainExpr.ofSegments? Evaluation.output Output.joined
    simp only [hloop, List.getLast?_map, hlast, hok, status_eq_of_isSuccess, Option.map_some,
      Option.elim_some, List.flatMap_map]
    rw [hran, List.flatMap_append, ran_eval_segment, List.flatMap_cons, List.flatMap_nil,
      List.append_nil]

/-- Running further segments picks up the gate and the outcome that the ones before have left. -/
theorem runSegments_append (xs : List Segment) (last : Text) (operator : Option ChainOperator)
    (ys : List Segment) :
    ∀ (gate : ChainOperator) (succeeded : Bool) (s : σ),
      x.runSegments gate succeeded (xs ++ ⟨last, operator⟩ :: ys) s =
        let first := x.runSegments gate succeeded (xs ++ [⟨last, operator⟩]) s
        let second := x.runSegments (operator.getD .andThen) first.2.1 ys first.2.2
        (first.1 ++ second.1, second.2) := by
  induction xs with
  | nil =>
    intro gate succeeded s
    simp only [List.nil_append, Executor.runSegments]
    split <;> simp
  | cons segment xs ih =>
    intro gate succeeded s
    simp only [List.cons_append, Executor.runSegments]
    split
    · simp only [ih, List.append_assoc]
    · simp only [ih]

/-- After an operator that admits every outcome the outcome before does not matter. -/
theorem runSegments_andThen_cons (succeeded : Bool) (segment : Segment) (rest : List Segment)
    (s : σ) :
    x.runSegments .andThen succeeded (segment :: rest) s =
      x.runSegments .andThen true (segment :: rest) s := rfl

/-- Segments after an operator that admits every outcome run as a chain of their own. -/
theorem runChain_append (xs : List Segment) (last : Text) (ys : List Segment) (s : σ) :
    x.runChain (xs ++ ⟨last, some .andThen⟩ :: ys) s =
      let first := x.runChain (xs ++ [⟨last, some .andThen⟩]) s
      let second := x.runChain ys first.2
      (⟨first.1.lines ++ second.1.lines, if ys = [] then first.1.status else second.1.status⟩,
        second.2) := by
  unfold Executor.runChain
  rw [runSegments_append]
  cases ys with
  | nil =>
    simp only [Executor.runSegments, List.append_nil, if_true]
    rfl
  | cons segment rest =>
    simp only [Option.getD_some, runSegments_andThen_cons x _ segment rest]
    rfl

end Loop

/-! ## What the executor is asked for -/

/-- What an executor is asked for that may change its state. -/
inductive Call where
  | run (i : Invocation)
  | finished (output : Output)

section Calls

variable {σ : Type u} (x : Executor σ)

/-- An executor that also keeps a record of what it is asked for. -/
def Executor.recording : Executor (σ × List Call) where
  parse s := x.parse s.1
  isRegistered s := x.isRegistered s.1
  run s i := ((x.run s.1 i).1, (x.run s.1 i).2, s.2 ++ [.run i])
  finished s output := (x.finished s.1 output, s.2 ++ [.finished output])

/-- The invocation that an executor is asked to run. -/
def Call.invocation? : Call → Option Invocation
  | run i => some i
  | finished _ => none

/-- The invocations that running a segment asks the executor for. -/
def Executor.invocationsOf (command : Text) (s : σ) : List Invocation :=
  (x.recording.runSegment command (s, [])).2.2.filterMap Call.invocation?

theorem recording_eq_noting :
    x.recording = x.noting (fun r => .run r.invocation) fun output => [.finished output] := rfl

theorem invocationsOf_eq (command : Text) (s : σ) :
    x.invocationsOf command s = (x.commandsOf command s).map RanCommand.invocation := by
  unfold Executor.invocationsOf
  rw [recording_eq_noting, Executor.noting_runSegment, List.nil_append, List.filterMap_map]
  exact congrFun List.filterMap_eq_map _

theorem recording_runSegment (command : Text) (s : σ) (log : List Call) :
    x.recording.runSegment command (s, log) =
      ((x.runSegment command s).1, (x.runSegment command s).2,
        log ++ (x.invocationsOf command s).map .run) := by
  rw [recording_eq_noting, Executor.noting_runSegment, invocationsOf_eq, List.map_map]
  rfl

/-- What running segments asks for: for each of them its invocations, and then to take note of its
output. -/
def callsOf (ran : List (RanSegment σ)) : List Call :=
  ran.flatMap fun r => (x.invocationsOf r.command r.before).map .run ++ [.finished r.output]

/-- Whether an evaluation by a recording executor, whose record was `log`, is another evaluation with
what that one asks for added to the record. -/
structure Evaluation.Mirrors (log : List Call) (v : Evaluation (σ × List Call))
    (w : Evaluation σ) : Prop where
  outputs : v.ran.map RanSegment.output = w.ran.map RanSegment.output
  succeeded : v.succeeded = w.succeeded
  state : v.state = (w.state, log ++ callsOf x w.ran)

variable {x}

theorem Evaluation.Mirrors.andThen {log : List Call} {v : Evaluation (σ × List Call)}
    {w : Evaluation σ} {f : σ × List Call → Evaluation (σ × List Call)} {g : σ → Evaluation σ}
    (h : v.Mirrors x log w) (hfg : ∀ s log, (f (s, log)).Mirrors x log (g s)) :
    (v.andThen f).Mirrors x log (w.andThen g) := by
  have hright := hfg w.state (log ++ callsOf x w.ran)
  rw [← h.state] at hright
  refine ⟨?_, hright.succeeded, ?_⟩
  · show (v.ran ++ (f v.state).ran).map _ = (w.ran ++ (g w.state).ran).map _
    rw [List.map_append, List.map_append, h.outputs, hright.outputs]
  · show (f v.state).state = ((g w.state).state, log ++ callsOf x (w.ran ++ (g w.state).ran))
    rw [hright.state]
    unfold callsOf
    rw [List.flatMap_append, List.append_assoc]

variable (x)

/-- A recording executor runs the same segments and records what they ask for. -/
theorem mirrors_eval_recording (e : ChainExpr) (s : σ) (log : List Call) :
    (e.eval x.recording (s, log)).Mirrors x log (e.eval x s) := by
  induction e generalizing s log with
  | segment command =>
    have hrun := recording_runSegment x command s log
    refine ⟨?_, ?_, ?_⟩
    · show [(x.recording.runSegment command (s, log)).1] = [(x.runSegment command s).1]
      rw [hrun]
    · show (x.recording.runSegment command (s, log)).1.isSuccess = _
      rw [hrun]
      rfl
    · show x.recording.finished (x.recording.runSegment command (s, log)).2
        (x.recording.runSegment command (s, log)).1 = _
      rw [hrun]
      simp [Executor.recording, callsOf, ChainExpr.eval]
  | and left right hleft hright =>
    show Evaluation.Mirrors x log (if (left.eval x.recording (s, log)).succeeded then _ else _)
      (if (left.eval x s).succeeded then _ else _)
    rw [(hleft s log).succeeded]
    split
    · exact (hleft s log).andThen hright
    · exact hleft s log
  | or left right hleft hright =>
    show Evaluation.Mirrors x log (if (left.eval x.recording (s, log)).succeeded then _ else _)
      (if (left.eval x s).succeeded then _ else _)
    rw [(hleft s log).succeeded]
    split
    · exact hleft s log
    · exact (hleft s log).andThen hright
  | andThen left right hleft hright => exact (hleft s log).andThen hright

theorem mirrors_evaluate_recording (segments : List Segment) (s : σ) (log : List Call) :
    (Chain.evaluate x.recording segments (s, log)).Mirrors x log (Chain.evaluate x segments s) := by
  unfold Chain.evaluate
  split
  · exact ⟨rfl, rfl, by simp [callsOf]⟩
  · exact mirrors_eval_recording x _ s log

/-- A recording executor gives the output of a chain and records what the segments that ran ask
for. -/
theorem runChain_recording (segments : List Segment) (s : σ) :
    x.recording.runChain segments (s, []) =
      ((x.runChain segments s).1, (Chain.evaluate x segments s).state,
        callsOf x (Chain.evaluate x segments s).ran) := by
  have h := mirrors_evaluate_recording x segments s []
  rw [runChain_eq_output_evaluate, runChain_eq_output_evaluate, h.state]
  unfold Evaluation.output
  rw [h.outputs]
  rfl

end Calls

/-! ## The chain is the expression -/

/-- Running the segments of a chain one after the other is evaluating the expression that the
operators nest to the left: the same segments run in the same order from the same states, each is
reported once, before the next one starts, the lines are those of the segments that ran, and the
status is that of the last of them. After an operator that admits every outcome the rest runs as a
chain of its own. -/
theorem runChain_eq_evaluate {σ : Type u} (x : Executor σ) :
    (∀ segments s,
      let v := Chain.evaluate x segments s
      x.runChain segments s = (Output.joined (v.ran.map RanSegment.output), v.state) ∧
        x.Runs s v.ran v.state ∧
        x.recording.runChain segments (s, []) =
          ((x.runChain segments s).1, v.state, callsOf x v.ran)) ∧
    ∀ xs last ys s,
      x.runChain (xs ++ ⟨last, some .andThen⟩ :: ys) s =
        let first := x.runChain (xs ++ [⟨last, some .andThen⟩]) s
        let second := x.runChain ys first.2
        (⟨first.1.lines ++ second.1.lines, if ys = [] then first.1.status else second.1.status⟩,
          second.2) := by
  constructor
  · intro segments s v
    exact ⟨runChain_eq_output_evaluate x segments s, Chain.runs_evaluate segments s,
      runChain_recording x segments s⟩
  · exact runChain_append x

end VirtualTerminal
