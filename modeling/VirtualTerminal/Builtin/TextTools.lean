import VirtualTerminal.Base64
import VirtualTerminal.Command.Body
import VirtualTerminal.Text.Utf8

/-!
# Text tools

Each tool takes its input from the arguments, which is where a pipeline puts the text of the stage
before.
-/

namespace VirtualTerminal.Builtin

/-- Prints its arguments. -/
def echo : Command Body where
  name := "echo".toList
  description := "Print arguments".toList
  usage := "echo [text...]".toList
  category := .system
  body := .handler <| .showing fun c _ =>
    match Text.join [' '] c.invocation.args with
    | [] => .success [.blank]
    | s => .text s

/-! ## Base64 -/

/-- Encodes a text. -/
def encodeText (s : Text) : Output :=
  .text (Base64.encode (Text.encode s))

/-- Decodes a text, blanks left out. -/
def decodeText (s : Text) : Output :=
  match Base64.decode (Text.encode (s.filter (!isBlank ·))) with
  | .ok bytes => .text (Text.decodeLossy bytes)
  | .error fault => .error ("base64: invalid input: ".toList ++ fault.message)

/-- Encodes or decodes its arguments. -/
def base64 : Command Body where
  name := "base64".toList
  description := "Encode or decode base64".toList
  usage := "base64 [-d] <text>".toList
  category := .devtools
  body := .handler <| .showing fun c _ =>
    if c.invocation.args = [] then .usage "base64 [-d] <text>".toList
    else
      let input := Text.join [' '] c.invocation.args
      if c.invocation.hasFlag "d".toList then decodeText input else encodeText input

/-! ## Counts -/

/-- The counts of a text with the flags that ask for them: lines, words and characters. -/
def counts (s : Text) : List (Text × Nat) :=
  [("l".toList, (Text.lines s).length), ("w".toList, (Text.words s).length),
    ("c".toList, s.length)]

/-- Counts the lines, words and characters of its arguments. -/
def wc : Command Body where
  name := "wc".toList
  description := "Count lines, words, and characters".toList
  usage := "wc [-l] [-w] [-c] <text>".toList
  category := .devtools
  body := .handler <| .showing fun c _ =>
    let all := counts (Text.join [' '] c.invocation.args)
    let shown :=
      if c.invocation.hasAny (all.map (·.1)) then all.filter fun n => c.invocation.hasFlag n.1
      else all
    .text (shown.flatMap fun n => Text.padLeft 7 (Text.ofNat n.2))

/-! ## Matching lines -/

/-- The runs of a line from a position on: its matches in yellow, and what stands between them. -/
def markedRuns (line : Text) (start : Nat) : List Span → List Run
  | [] => if start < line.length then [⟨Text.slice line start line.length, none⟩] else []
  | m :: rest =>
    (if start < m.start then [⟨Text.slice line start m.start, none⟩] else []) ++
      ⟨Text.slice line m.start m.stop, some .yellow⟩ :: markedRuns line m.stop rest

/-- A line with its matches in yellow; matches of nothing are passed over. -/
def highlight (x : Searcher) (line : Text) : Line :=
  .parts (markedRuns line 0 ((x.spans line).filter (!·.isEmpty)))

/-- The lines of a text that match, with the matches marked, or the other ones if `inverted`. It is
a failure if there are none. -/
def matchingLines (x : Searcher) (inverted : Bool) (s : Text) : Output :=
  match (Text.lines s).filter (x.isMatch · != inverted) with
  | [] => .failure []
  | found => .success (found.map (if inverted then .plain else highlight x))

/-- Prints the lines of its arguments that match a pattern. -/
def grep : Command Body where
  name := "grep".toList
  description := "Print lines matching a pattern".toList
  usage := "grep [-i] [-v] <pattern> <text>".toList
  category := .devtools
  body := .handler <| .showing fun c _ =>
    match c.invocation.args with
    | pattern :: texts@(_ :: _) =>
      match Regex.compile pattern (c.invocation.hasFlag "i".toList) with
      | .error reason => .error ("grep: invalid pattern: ".toList ++ reason)
      | .ok re =>
        matchingLines re.searcher (c.invocation.hasFlag "v".toList) (Text.join [' '] texts)
    | _ => .usage "grep [-i] [-v] <pattern> <text>".toList

end VirtualTerminal.Builtin
