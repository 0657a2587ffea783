import VirtualTerminal.Regex.CharSet
import VirtualTerminal.Regex.Fault
import VirtualTerminal.Unicode.ScriptTable

/-!
# Named properties

The sets that `\p` names: general categories, scripts and a few properties. Names are compared
without regard to case, spaces, dashes and low lines, and a leading `is` is dropped.
-/

namespace VirtualTerminal.Regex

open Unicode

/-- The form in which names are compared. -/
def normalName (name : Text) : Text :=
  let isLed := (name.take 2).map Char.toLower == ['i', 's']
  let body := if isLed then name.drop 2 else name
  let kept := (body.filter fun c => c ≠ ' ' && c ≠ '_' && c ≠ '-' && c.toNat < 0x80).map Char.toLower
  if isLed && kept == ['c'] then "isc".toList else kept

/-- The general category with a normal name. -/
def category? (name : String) : Option CharSet :=
  match name with
  | "any" => some .all
  | "ascii" => some (.ranges [(0, 0x7F)])
  | "assigned" => some .assigned
  | "l" | "letter" => some .letters
  | "lc" | "casedletter" => some .casedLetters
  | "lu" | "uppercaseletter" => some .uppercaseLetters
  | "ll" | "lowercaseletter" => some .lowercaseLetters
  | "lt" | "titlecaseletter" => some (.ranges titlecaseLetter)
  | "lm" | "modifierletter" => some (.ranges modifierLetter)
  | "lo" | "otherletter" => some (.ranges otherLetter)
  | "m" | "mark" | "combiningmark" => some .marks
  | "mn" | "nonspacingmark" => some (.ranges nonspacingMark)
  | "mc" | "spacingmark" => some (.ranges spacingMark)
  | "me" | "enclosingmark" => some (.ranges enclosingMark)
  | "n" | "number" => some .numbers
  | "nd" | "decimalnumber" | "digit" => some (.ranges decimalNumber)
  | "nl" | "letternumber" => some (.ranges letterNumber)
  | "no" | "othernumber" => some (.ranges otherNumber)
  | "p" | "punctuation" | "punct" => some .punctuation
  | "pc" | "connectorpunctuation" => some (.ranges connectorPunctuation)
  | "pd" | "dashpunctuation" => some (.ranges dashPunctuation)
  | "ps" | "openpunctuation" => some (.ranges openPunctuation)
  | "pe" | "closepunctuation" => some (.ranges closePunctuation)
  | "pi" | "initialpunctuation" => some (.ranges initialPunctuation)
  | "pf" | "finalpunctuation" => some (.ranges finalPunctuation)
  | "po" | "otherpunctuation" => some (.ranges otherPunctuation)
  | "s" | "symbol" => some .symbols
  | "sm" | "mathsymbol" => some (.ranges mathSymbol)
  | "sc" | "currencysymbol" => some (.ranges currencySymbol)
  | "sk" | "modifiersymbol" => some (.ranges modifierSymbol)
  | "so" | "othersymbol" => some (.ranges otherSymbol)
  | "z" | "separator" => some .separators
  | "zs" | "spaceseparator" => some (.ranges spaceSeparator)
  | "zl" | "lineseparator" => some (.ranges lineSeparator)
  | "zp" | "paragraphseparator" => some (.ranges paragraphSeparator)
  | "c" | "other" =>
    some (.unions [.ranges control, .ranges format, .ranges privateUse, .compl .assigned])
  | "cc" | "control" | "cntrl" => some (.ranges control)
  | "cf" | "format" => some (.ranges format)
  | "cn" | "unassigned" => some (.compl .assigned)
  | "co" | "privateuse" => some (.ranges privateUse)
  | _ => none

/-- The property with a normal name that holds of a character or not. -/
def property? (name : String) : Option CharSet :=
  match name with
  | "alphabetic" | "alpha" => some .alphabetic
  | "lowercase" | "lower" => some .lowercase
  | "uppercase" | "upper" => some .uppercase
  | "cased" => some (.union .lowercase (.union .uppercase (.ranges titlecaseLetter)))
  | "caseignorable" | "ci" =>
    some (.unions [.ranges nonspacingMark, .ranges enclosingMark, .ranges format,
      .ranges modifierLetter, .ranges modifierSymbol, .ranges midWord])
  | "whitespace" | "wspace" | "space" => some .blanks
  | "joincontrol" | "joinc" => some (.ranges [(0x200C, 0x200D)])
  | "emoji" => some (.ranges emoji)
  | "emojipresentation" | "epres" => some (.ranges emojiPresentation)
  | "extendedpictographic" | "extpict" => some (.ranges pictographic)
  | "asciihexdigit" | "ahex" => some (.ranges [(0x30, 0x39), (0x41, 0x46), (0x61, 0x66)])
  | "hexdigit" | "hex" =>
    some (.ranges [(0x30, 0x39), (0x41, 0x46), (0x61, 0x66), (0xFF10, 0xFF19), (0xFF21, 0xFF26),
      (0xFF41, 0xFF46)])
  | _ => none

/-- The script with a normal name. -/
def script? (name : String) : Option CharSet :=
  (scripts.find? fun (names, _) => names.contains name).map fun (_, rs) => .ranges rs

/-- The set that a single name stands for. -/
def named? (name : Text) : Option CharSet :=
  let n := String.ofList (normalName name)
  ((property? n).orElse fun _ => category? n).orElse fun _ => script? n

/-- The set of the characters for which a property has a value. -/
def valued? (property value : Text) : Except Cause CharSet :=
  let v := String.ofList (normalName value)
  let found (s : Option CharSet) : Except Cause CharSet :=
    match s with
    | some set => .ok set
    | none => .error .propertyValueUnknown
  match String.ofList (normalName property) with
  | "gc" | "generalcategory" => found (category? v)
  | "sc" | "script" => found (script? v)
  | p => if (property? p).isSome then .error .propertyValueUnknown else .error .propertyUnknown

end VirtualTerminal.Regex
