import VirtualTerminal.Config.File
import VirtualTerminal.Host

/-!
# The command line

Reads lines and prints what a host answers. The clock of the session is that of the machine, and an
animation is repainted in place until it stops.
-/

namespace VirtualTerminal.Console

/-- Prints a text at once. -/
def put (s : Text) : IO Unit := do
  let out ← IO.getStdout
  out.putStr (String.ofList s)
  out.flush

/-- What is found at a path. -/
def readConfigFile (path : String) : IO ConfigFile := do
  try
    return .bytes (← IO.FS.readBinFile path).toList
  catch
    | .noFileOrDirectory .. => return .missing
    | _ => return .unreadable

/-- The milliseconds since `started`. -/
def elapsed (started : Nat) : IO Nat := do
  return (← IO.monoMsNow) - started

/-- Moves the clock of the session to that of the machine. -/
def tick (started : Nat) (h : Host) : IO Host := do
  return { h with session := (h.session.tick (← elapsed started)).2 }

/-- The longest wait for the next picture, in milliseconds. -/
def longestWait : Nat := 250

/-- Paints an animation over the `painted` lines of its last picture until it stops, and gives its
last picture. -/
partial def play (started : Nat) (id : Text) (painted : Nat) (h : Host) : IO (List Line × Host) := do
  let picture := (h.session.transcript.region? id).getD []
  unless h.json do put (Host.goBack painted ++ h.print picture)
  match h.session.stage.registry.isActive id, h.session.stage.timers.nextDue? with
  | true, some due =>
    IO.sleep (min (due - (← elapsed started)) longestWait).toUInt32
    play started id picture.length (← tick started h)
  | _, _ => return (picture, h)

/-- Prints an entry of the transcript, or collects its lines if they are printed as JSON. -/
def showEntry (started : Nat) (collected : List Line) (h : Host) : Entry → IO (List Line × Host)
  | .line l => do
    if h.json then return (collected ++ [l], h)
    put (h.print [l])
    return (collected, h)
  | .region id _ => do
    let (picture, h) ← play started id 0 h
    return (collected ++ picture, h)

/-- Submits a line and prints what comes of it. -/
def answer (started : Nat) (line : Text) (h : Host) : IO Host := do
  let (lead, entries, h) := h.submit line
  put lead
  let (collected, h) ← entries.foldlM (fun (ls, h) e => showEntry started ls h e) ([], h)
  if h.json then put (h.print collected)
  return h.endTakeover

/-- Reads and answers lines until the input ends or a line says so. -/
partial def converse (started : Nat) (h : Host) : IO Unit := do
  put h.prompt
  let line := (← (← IO.getStdin).getLine).toList
  unless line = [] do
    let line := Host.chop line
    unless Host.isExit line do
      converse started (← answer started line (← tick started h))

end VirtualTerminal.Console

open VirtualTerminal in
/-- Runs a session on the standard input and output. With the argument `--json`, lines are printed
as JSON. -/
def main (args : List String) : IO UInt32 := do
  let path := (← IO.getEnv "TERMFOLIO_CONFIG").getD "termfolio.toml"
  match ConfigFile.load (← Console.readConfigFile path) with
  | .error e =>
    IO.eprintln ("Error: loading " ++ path ++ ": " ++ String.ofList e.message)
    return 1
  | .ok config =>
    let colors := Host.wantsColors (← IO.getEnv "CLICOLOR_FORCE") (← IO.getEnv "NO_COLOR")
      (← IO.getEnv "CLICOLOR") (← (← IO.getStdout).isTty)
    Console.converse (← IO.monoMsNow)
      { session := Session.new config, json := args.contains "--json", colors := colors }
    return 0
