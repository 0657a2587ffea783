import VirtualTerminal.Transcript

/-!
# Operations on a transcript

Whoever holds a transcript adds lines to it, keeps regions in it by their ids, and may ask for a region
or clear the whole. An operation has an answer.
-/

namespace VirtualTerminal.Transcript

/-- An operation on a transcript. -/
inductive Op where
  | push (l : Line)
  | extend (ls : List Line)
  | openRegion (id : Text)
  | updateRegion (id : Text) (ls : List Line)
  | removeRegion (id : Text)
  | hasRegion (id : Text)
  | region (id : Text)
  | clear
  deriving DecidableEq, Repr

/-- The answer to an operation. -/
inductive Reply where
  | nothing
  | flag (b : Bool)
  | lines (ls : Option (List Line))
  deriving DecidableEq, Repr

/-- Performs an operation. An update tells whether it has found its region, and a removal whether the
transcript has become shorter. -/
def Op.perform (t : Transcript) : Op → Reply × Transcript
  | push l => (.nothing, t.push l)
  | extend ls => (.nothing, t.extend ls)
  | openRegion id => (.nothing, t.openRegion id)
  | updateRegion id ls => (.flag (t.find? (·.isRegion id)).isSome, Transcript.updateRegion id ls t)
  | removeRegion id =>
    let rest := t.removeRegion id
    (.flag (rest.length != t.length), rest)
  | hasRegion id => (.flag (t.hasRegion id), t)
  | region id => (.lines (t.region? id), t)
  | clear => (.nothing, [])

end VirtualTerminal.Transcript
