import VirtualTerminal.Regex.Program
import VirtualTerminal.Text.Search

/-!
# Regular expressions

A regular expression is compiled from its source once and then asked for matches. Of several
matches at a position the one that the earlier alternatives and the greedier repetitions lead to is
preferred, whether it is the longest or not.
-/

namespace VirtualTerminal

/-- A compiled regular expression. -/
structure Regex where
  source : Text
  program : Regex.Program

namespace Regex

/-- The most that a compiled expression may weigh. The limit proper counts the bytes of a compiled
program, of which the weight is only an estimate, so an expression near the limit may be judged
otherwise than by its bytes; `(a{1000}){100}` is already refused here. -/
def weightLimit : Nat := 327680

/-- The regular expression with a source, or the message that tells why there is none. -/
def compile (source : Text) (caseInsensitive : Bool := false) : Except Text Regex :=
  match Tree.parse source with
  | .error fault => .error (fault.message source)
  | .ok tree =>
    match tree.toExpr { caseInsensitive := caseInsensitive } with
    | .error fault => .error (fault.message source)
    | .ok (e, _) =>
      if weightLimit < e.weight then
        .error "Compiled regex exceeds size limit of 10485760 bytes.".toList
      else .ok ⟨source, Program.ofExpr e⟩

/-- The length in characters of the match at the start of a text that comes after `previous`. -/
def matchLength? (re : Regex) (previous : Option Char) (s : Text) : Option Nat :=
  re.program.matchLength? previous s

/-- The search with a regular expression. -/
def searcher (re : Regex) : Searcher :=
  Matcher.searcher re.matchLength?

end Regex

end VirtualTerminal
