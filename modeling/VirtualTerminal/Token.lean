import VirtualTerminal.Quote
import VirtualTerminal.Text.Blank

/-!
# Tokens

An input line is cut into tokens at the blanks outside of quoted spans. A quote that opens or
closes a span is left out of its token, and so is a backslash right before any quote character. A
span without characters still makes a token, which is then empty.
-/

namespace VirtualTerminal.Text

/-- The tokens of what follows a reading, of which `current` is the token begun before it. -/
def tokensFrom (r : Reading) (current : Option Text) : Text → List Text
  | [] => current.toList
  | c :: rest =>
    if r.toggles c then tokensFrom (r.after c) (some (current.getD [])) rest
    else if isBlank c && (r.insideAfter c).isNone then
      current.toList ++ tokensFrom (r.after c) none rest
    else if c = '\\' && (rest.head?.any Quote.isQuote) then
      tokensFrom (r.after c) (some (current.getD [])) rest
    else tokensFrom (r.after c) (some (current.getD [] ++ [c])) rest

/-- The tokens of a line. -/
def tokens (line : Text) : List Text :=
  tokensFrom Reading.start none line

end VirtualTerminal.Text
