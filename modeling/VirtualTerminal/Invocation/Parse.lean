import VirtualTerminal.Invocation
import VirtualTerminal.Token
import VirtualTerminal.Text.Lowercase

/-!
# From a line to an invocation

The first token of a line is the command name. Every later token is an option `--key=value`, a long
flag `--name`, a group of short flags `-abc`, or else a positional argument; a dash before a digit
starts an argument, so that negative numbers can be given. Reading a line never fails: a line that
breaks a limit is refused as a whole.
-/

namespace VirtualTerminal.Invocation

/-- What a token after the command name means. -/
inductive Part where
  | arg (text : Text)
  | flags (names : List Text)
  | option (key value : Text)
  deriving DecidableEq, Repr

/-- What a token after the command name means. -/
def Part.ofToken (token : Text) : Part :=
  match token with
  | '-' :: '-' :: long =>
    match Text.splitOnce '=' long with
    | some (key, value) => .option key value
    | none => if long = [] then .arg token else .flags [long]
  | '-' :: c :: rest => if c.isDigit then .arg token else .flags ((c :: rest).map ([·]))
  | _ => .arg token

/-- Why an option key is refused. -/
def keyRefusal? (limits : Limits) (key : Text) : Option Text :=
  if key = [] then some "Invalid option: empty key".toList
  else if limits.keyLength < key.length then
    some ("Option key too long (max ".toList ++ Text.ofNat limits.keyLength ++
      " characters)".toList)
  else none

/-- The invocation with one more part, or why it is refused. -/
def add (limits : Limits) (i : Invocation) : Part → Except Text Invocation
  | .arg text => .ok { i with args := i.args ++ [text] }
  | .flags names =>
    .ok { i with
      flags := i.flags ++ names
      options := names.foldl (fun t name => t.insert name .flag) i.options }
  | .option key value =>
    match keyRefusal? limits key with
    | some reason => .error reason
    | none => .ok { i with options := i.options.insert key (.value value) }

/-- Why an invocation with all its parts is refused. -/
def countRefusal? (limits : Limits) (i : Invocation) : Option Text :=
  if limits.args < i.args.length then
    some ("Too many arguments (max ".toList ++ Text.ofNat limits.args ++ ")".toList)
  else if limits.options < i.options.size then
    some ("Too many options (max ".toList ++ Text.ofNat limits.options ++ ")".toList)
  else none

/-- The invocation that a line asks for. -/
def parse (limits : Limits) (line : Text) : Invocation :=
  if limits.inputLength < line.length then
    refused (line.take limits.inputLength)
      ("Input too long (max ".toList ++ Text.ofNat limits.inputLength ++ " characters)".toList)
  else
    match (Text.tokens (Text.trim line)).filter (·.length ≤ limits.tokenLength) with
    | [] => { raw := line }
    | name :: rest =>
      match (rest.map Part.ofToken).foldlM (add limits) { command := name.lower, raw := line } with
      | .error reason => refused line reason
      | .ok i =>
        match countRefusal? limits i with
        | some reason => refused line reason
        | none => i

end VirtualTerminal.Invocation
