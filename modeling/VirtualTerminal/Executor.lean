import VirtualTerminal.Chain
import VirtualTerminal.Invocation
import VirtualTerminal.Output

/-!
# Running lines

A line runs as a chain, as a pipeline or as a single command. What a command does is left to an
executor, which also keeps all state; this module says which commands run, on which lines, and what
becomes of their outputs.
-/

namespace VirtualTerminal

/-- What it takes to run commands over states `σ`. -/
structure Executor (σ : Type u) where
  /-- The invocation that a piece of a line asks for. -/
  parse : σ → Text → Invocation
  /-- Whether a name is that of a command. -/
  isRegistered : σ → Text → Bool
  /-- Runs the command of an invocation. -/
  run : σ → Invocation → Except Error Output × σ
  /-- Takes note of the output of a top-level segment before the next one starts. -/
  finished : σ → Output → σ

namespace Executor

variable {σ : Type u} (x : Executor σ)

/-- The output that reports a name without a command. -/
def unknownCommand (name : Text) : Output :=
  .error ("command not found: ".toList ++ name)

/-- Runs the command of a line without operators; `report` words its error. -/
def runCommand (report : Text → Error → Text) (line : Text) (s : σ) : Output × σ :=
  let i := x.parse s line
  if i.isEmpty then (.nothing, s)
  else
    match i.refusal? with
    | some reason => (.error reason, s)
    | none =>
      if !x.isRegistered s i.command then (unknownCommand i.command, s)
      else
        match x.run s i with
        | (.ok output, s) => (output, s)
        | (.error e, s) => (.error (report i.command e), s)

/-- Runs a line without operators. -/
def runSingle (line : Text) (s : σ) : Output × σ :=
  x.runCommand
    (fun name e => "error executing ".toList ++ name ++ ": ".toList ++ e.message) line s

/-! ## Pipelines -/

/-- The line of a stage that the text `carried` goes into, as one more argument in double
quotes. -/
def stageLine (stage carried : Text) : Text :=
  if carried = [] then stage else stage ++ " \"".toList ++ Text.escapeQuotes .double carried ++ ['"']

/-- Runs the stages of a pipeline, the text `carried` going into the first. A name without a
command and an error end the pipeline; a failure does not. -/
def runStages (carried : Text) : List Text → σ → Output × σ
  | [], s => (.nothing, s)
  | stage :: rest, s =>
    let i := x.parse s (stageLine stage carried)
    match i.refusal? with
    | some reason => (.error reason, s)
    | none =>
      if !x.isRegistered s i.command then
        (.error ("pipe: ".toList ++ i.command ++ ": command not found".toList), s)
      else
        match x.run s i with
        | (.error _, s) => (.error ("pipe: error executing ".toList ++ i.command), s)
        | (.ok output, s) =>
          match rest with
          | [] => (output, s)
          | _ :: _ => runStages (Line.joinTexts output.lines) rest s

/-- Runs a pipeline. -/
def runPipe (stages : List Text) (s : σ) : Output × σ :=
  x.runStages [] stages s

/-! ## Chains -/

/-- Runs a segment of a chain, which may be a pipeline. -/
def runSegment (segment : Text) (s : σ) : Output × σ :=
  if Pipe.isPresent segment then x.runPipe (Pipe.stages segment) s
  else x.runCommand (fun name _ => "chain: error executing ".toList ++ name) segment s

/-- Runs the segments of a chain after the operator `gate`, given whether the last segment that ran
succeeded. -/
def runSegments (gate : ChainOperator) (succeeded : Bool) : List Segment → σ →
    List Line × Bool × σ
  | [], s => ([], succeeded, s)
  | segment :: rest, s =>
    let following := segment.operator.getD .andThen
    if gate.admits succeeded then
      let (output, s) := x.runSegment segment.command s
      let s := x.finished s output
      let (lines, succeeded, s) := runSegments following output.isSuccess rest s
      (output.lines ++ lines, succeeded, s)
    else runSegments following succeeded rest s

/-- Runs a chain. Its status is that of the last segment that ran. -/
def runChain (segments : List Segment) (s : σ) : Output × σ :=
  let (lines, succeeded, s) := x.runSegments .andThen true segments s
  (⟨lines, if succeeded then .success else .failure⟩, s)

/-! ## Lines -/

/-- Runs a whole line. -/
def runLine (line : Text) (s : σ) : Output × σ :=
  if Chain.isPresent line then x.runChain (Chain.segments line) s
  else
    let (output, s) :=
      if Pipe.isPresent line then x.runPipe (Pipe.stages line) s else x.runSingle line s
    (output, x.finished s output)

end Executor

end VirtualTerminal
