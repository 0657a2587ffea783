import VirtualTerminal.Builtin
import VirtualTerminal.Completion
import VirtualTerminal.Executor
import VirtualTerminal.FileTree.Seed
import VirtualTerminal.Invocation.Parse

/-!
# Sessions

A session is all that the terminal of one visitor consists of. A host submits lines to it, moves its
clock, and shows its transcript.
-/

namespace VirtualTerminal

/-- The terminal of one visitor: its settings and commands, which stay the same, and all that the
commands change. -/
structure Session extends Terminal where
  config : Config
  commands : CommandTable Body

/-- The terminal of a new session. -/
def Terminal.new (config : Config) : Terminal :=
  { files := Seed.tree config.home
    shell := Shell.new config.home config.historyLimit
    stage := Animation.Stage.new config.pace }

namespace Session

/-- A new session. -/
def new (config : Config) (commands : CommandTable Body := Builtin.table) : Session :=
  { toTerminal := Terminal.new config, config := config, commands := commands }

/-- All that the session shows. -/
def transcript (s : Session) : Transcript :=
  s.stage.transcript

/-! ## The prompt -/

/-- The prompt: user, host and working directory. -/
def prompt (s : Session) : Text :=
  let p := s.config.prompt
  p.user ++ '@' :: p.host ++ ':' :: Path.display s.shell.cwd s.shell.home ++ p.symbol ++ [' ']

/-- The line that repeats the prompt and what was typed after it. -/
def promptLine (s : Session) (line : Text) : Line :=
  { Line.parts [⟨s.prompt, some .green⟩, ⟨line, none⟩] with isCommand := true }

/-! ## Running lines -/

/-- Adds lines to the transcript. -/
def write (s : Session) (lines : List Line) : Session :=
  { s with stage := { s.stage with transcript := s.stage.transcript.extend lines } }

/-- Empties the screen if a command has asked for it. -/
def clearIfRequested (s : Session) : Session :=
  if s.shell.clearRequested then
    { s with shell := { s.shell with clearRequested := false }, stage := s.stage.clear }
  else s

/-- How a session runs commands. If it echoes, the output of each segment is added to the
transcript. -/
def executor (echo : Bool) : Executor Session where
  parse s := Invocation.parse s.config.limits
  isRegistered s := s.commands.has
  run s i :=
    let (result, t) := s.commands.execute s.config.prompt i.command i s.toTerminal
    (result, { s with toTerminal := t })
  finished s output :=
    let s := s.clearIfRequested
    if echo then s.write output.lines else s

/-- Runs a line after replacing its aliases. -/
def run (s : Session) (line : Text) (echo : Bool := false) : Output × Session :=
  (executor echo).runLine (s.shell.expandLine line) s

/-- Runs a line as if it had been typed: the line and its output go to the transcript, and the line
into the history. -/
def submit (s : Session) (line : Text) : Output × Session :=
  let s := s.write [s.promptLine line]
  { s with shell := s.shell.pushHistory line }.run line true

/-! ## The clock -/

/-- Moves the clock; gives the number of timers that fired. -/
def tick (s : Session) (now : Nat) : Nat × Session :=
  let (n, stage) := s.stage.advanceTo now
  (n, { s with stage := stage })

/-- Makes the session as it was in the beginning, but for its clock. -/
def reset (s : Session) : Session :=
  { s with
    files := Seed.tree s.config.home
    shell := Shell.new s.config.home s.config.historyLimit
    stage := s.stage.reset }

/-- Gives the screen back to the session. -/
def endTakeover (s : Session) : Session :=
  { s with shell := { s.shell with takeover := none } }

/-! ## Completion -/

/-- The part of a line after its last operator. -/
def lastPiece (line : Text) : Text :=
  let start := (Pattern.hits Shell.operators line).getLast?.elim 0 Hit.stop
  Text.trimStart (line.drop start)

/-- The paths that a word may be completed to. A name that starts with a dot is offered only if the
word asks for one. -/
def completePath (s : Session) (word : Text) : List Text :=
  let (lead, start) :=
    match Text.splitLast '/' word with
    | some (dir, start) => (dir ++ ['/'], start)
    | none => ([], word)
  let dir := if lead = [] then s.shell.cwd else Path.resolve s.shell.cwd lead s.shell.home
  match s.files.list dir with
  | .error _ => []
  | .ok entries =>
    let offered := entries.filter fun e =>
      start.isPrefixOf e.name && (start.head? = some '.' || e.name.head? ≠ some '.')
    offered.map fun e => lead ++ e.name ++ if e.isDir then ['/'] else []

/-- What the last word of a line may be completed to: the name of a command or an alias if it is
the first word of its piece, and a path otherwise. -/
def complete (s : Session) (line : Text) : List Text :=
  let piece := lastPiece line
  match Text.splitLastBlank piece with
  | none => Completion.complete piece (s.commands.visibleNames ++ s.shell.aliases.keys)
  | some (_, word) => s.completePath word

end Session

end VirtualTerminal
