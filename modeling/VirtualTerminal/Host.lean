import VirtualTerminal.Line.Ansi
import VirtualTerminal.Line.Json
import VirtualTerminal.Session

/-!
# The command line host

A host submits the lines that it reads to a session and prints what each of them has added to the
transcript, as text or as one JSON array.
-/

namespace VirtualTerminal

/-- A session and how its lines are printed. -/
structure Host where
  session : Session
  /-- Whether lines are printed as JSON. -/
  json : Bool
  /-- Whether printed text has colours. -/
  colors : Bool

namespace Host

/-! ## Input -/

/-- A line as it is submitted: without the characters that end it. -/
def chop (line : Text) : Text :=
  (line.reverse.dropWhile fun c => c = '\n' || c = '\r').reverse

/-- The lines of an input. What follows the last line feed is a line of its own unless it is
empty. -/
def inputLines (input : Text) : List Text :=
  let pieces := Text.split '\n' input
  (if pieces.getLast? = some [] then pieces.dropLast else pieces).map chop

/-- Whether a line ends the conversation. -/
def isExit (line : Text) : Bool :=
  let word := Text.trim line
  word = "exit".toList || word = "quit".toList

/-! ## Output -/

/-- What is printed before a line is read. -/
def prompt (h : Host) : Text :=
  if h.json then [] else h.session.prompt

/-- Whether printed text has colours, given what the environment says about it. A demand for colours
goes before a demand for none, and that before what the output is. -/
def wantsColors (forced refused allowed : Option String) (isTerminal : Bool) : Bool :=
  if forced.any (· ≠ "0") then true
  else if refused.isSome then false
  else isTerminal && allowed.all (· ≠ "0")

/-- What empties the screen. -/
def clearScreen : Text :=
  "\x1b[2J\x1b[H".toList

/-- What goes back to the first of the lines printed last and wipes them. -/
def goBack (count : Nat) : Text :=
  if count = 0 then [] else "\x1b[".toList ++ Text.ofNat count ++ "A\x1b[J".toList

/-- The position of the first entry that a submission has written after its prompt line, given the
number of entries before it. A transcript that has been emptied is new from the start. -/
def firstNew (before : Nat) (t : Transcript) : Nat :=
  match t[before]? with
  | some (.line l) => if l.isCommand then before + 1 else 0
  | _ => 0

/-- Lines as they are printed. -/
def print (h : Host) (lines : List Line) : Text :=
  if h.json then Line.renderJson lines ++ ['\n']
  else lines.flatMap fun l => l.render h.colors ++ ['\n']

/-- What is printed first after a submission, the entries to print after it, and the host to go on
with. -/
def submit (h : Host) (line : Text) : Text × List Entry × Host :=
  let (_, session) := h.session.submit line
  let first := firstNew h.session.transcript.length session.transcript
  let lead := if first = 0 ∧ !h.json then clearScreen else []
  (lead, session.transcript.drop first, { h with session := session })

/-- The host without a takeover of its screen: it has no screen to give away. -/
def endTakeover (h : Host) : Host :=
  { h with session := h.session.endTakeover }

/-- What is printed for a line, each animation as it stands, and the host to go on with. -/
def answer (h : Host) (line : Text) : Text × Host :=
  let (lead, entries, h) := h.submit line
  (lead ++ h.print (entries.flatMap Entry.lines), h.endTakeover)

/-- All that is printed while lines are read, up to one that ends the conversation. The clock stands
still. -/
def converse (h : Host) : List Text → Text
  | [] => h.prompt
  | line :: rest =>
    h.prompt ++
      if isExit line then []
      else
        let (text, next) := h.answer line
        text ++ converse next rest

end Host

end VirtualTerminal
