import VirtualTerminal.Command.Body
import VirtualTerminal.Text.Decimal

/-!
# Animated commands

Digital rain and a busy spinner, each for some seconds.
-/

namespace VirtualTerminal.Builtin

/-- The most seconds that an effect runs. -/
def mostSeconds : Nat := 60

/-- The milliseconds that an effect runs: as many seconds as the option says, or as `default` says
if the option is missing or no number, but at least one and at most `mostSeconds`. -/
def duration (default : Nat) (i : Invocation) : Nat :=
  let seconds := ((i.value? "seconds".toList).bind (Text.toNat? 0x10000000000000000)).getD default
  1000 * min (max seconds 1) mostSeconds

/-! ## Digital rain -/

/-- Scatters the bits of a word. -/
def mix (x : UInt64) : UInt64 :=
  let x := x + 0x9E3779B97F4A7C15
  let x := (x ^^^ (x >>> 30)) * 0xBF58476D1CE4E5B9
  let x := (x ^^^ (x >>> 27)) * 0x94D049BB133111EB
  x ^^^ (x >>> 31)

/-- The columns of the rain. -/
def rainWidth : Nat := 48

/-- The rows of the rain. -/
def rainHeight : Nat := 10

/-- The length of the trail above a drop. -/
def rainTrail : Nat := 6

/-- The characters that the rain consists of. -/
def rainGlyphs : Array Char :=
  "0123456789ABCDEFZ:.=*+-<>|".toList.toArray

/-- The row that the drop of a column has come to. Each column has a speed of its own. -/
def rainHead (elapsed col : UInt64) : UInt64 :=
  let seed := mix col
  (elapsed / (40 + seed % 80) + seed) % (rainHeight + rainTrail).toUInt64

/-- The character of the rain at a row and a column whose drop has come to the row `head`. -/
def rainGlyph (elapsed row col head : UInt64) : Char :=
  if head < row || rainTrail.toUInt64 < head - row then ' '
  else
    let pick := mix (col ^^^ (row <<< 16) ^^^ ((elapsed / 150) <<< 32))
    rainGlyphs.getD (pick % rainGlyphs.size.toUInt64).toNat ' '

/-- The rain at a time. -/
def rain (elapsed : Nat) : List Line :=
  let time := elapsed.toUInt64
  let heads := (List.range rainWidth).map fun col => (col.toUInt64, rainHead time col.toUInt64)
  (List.range rainHeight).map fun row =>
    { Line.colored .green (heads.map fun (col, head) => rainGlyph time row.toUInt64 col head) with
      styleClass := some "matrix".toList }

/-- Shows digital rain for a while. -/
def matrix : Command Body where
  name := "matrix".toList
  description := "Digital rain".toList
  usage := "matrix [--seconds=N]".toList
  category := .effects
  body := .animation "matrix".toList
    { start := fun _ => ([.continuous (fun _ elapsed => rain elapsed) none], none)
      duration? := fun i => some (duration 5 i) }

/-! ## A busy spinner -/

/-- The marks that a spinner shows in turn. -/
def spinnerMarks : List Char :=
  ['|', '/', '-', '\\']

/-- The message of a spinner. -/
def spinnerMessage (i : Invocation) : Text :=
  if i.args = [] then "working".toList else Text.join [' '] i.args

/-- A picture of a spinner. -/
def spinnerPicture (message : Text) (mark : Char) : List Line :=
  [.parts [⟨[mark], some .cyan⟩, ⟨' ' :: message ++ "...".toList, none⟩]]

/-- What a spinner shows in the end. -/
def spinnerEnd (message : Text) : List Line :=
  [.parts [⟨"done".toList, some .green⟩, ⟨' ' :: message, none⟩]]

/-- Shows a spinner for a while. -/
def spinner : Command Body where
  name := "spinner".toList
  description := "Show a busy spinner".toList
  usage := "spinner [message...] [--seconds=N]".toList
  category := .effects
  body := .animation "spinner".toList
    { start := fun scene =>
        let message := spinnerMessage scene.invocation
        ([.frames (spinnerMarks.map (spinnerPicture message)) 100,
          .finishAfter (duration 3 scene.invocation) (some (spinnerEnd message))], none) }

end VirtualTerminal.Builtin
