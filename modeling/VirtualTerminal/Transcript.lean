import VirtualTerminal.Line

/-!
# The transcript

What a session shows: lines that never change, and regions that animations repaint. A region is
known by an id, and at most one region has an id.
-/

namespace VirtualTerminal

/-- An entry of a transcript. -/
inductive Entry where
  | line (l : Line)
  | region (id : Text) (lines : List Line)
  deriving DecidableEq, Repr

namespace Entry

/-- Whether an entry is the region with an id. -/
def isRegion (id : Text) : Entry → Bool
  | line _ => false
  | region i _ => i = id

/-- The lines that an entry shows. -/
def lines : Entry → List Line
  | line l => [l]
  | region _ ls => ls

end Entry

/-- All that a session shows, the oldest entry first. -/
abbrev Transcript := List Entry

namespace Transcript

/-- Adds lines that never change. -/
def extend (t : Transcript) (lines : List Line) : Transcript :=
  t ++ lines.map .line

/-- Adds a line that never changes. -/
def push (t : Transcript) (l : Line) : Transcript :=
  t ++ [.line l]

/-- Whether there is a region with an id. -/
def hasRegion (t : Transcript) (id : Text) : Bool :=
  t.any (·.isRegion id)

/-- Adds a region that shows nothing yet, unless there is one with the id. -/
def openRegion (t : Transcript) (id : Text) : Transcript :=
  if t.hasRegion id then t else t ++ [.region id []]

/-- Replaces the lines of the first region with an id. -/
def updateRegion (id : Text) (lines : List Line) : Transcript → Transcript
  | [] => []
  | e :: rest =>
    if e.isRegion id then .region id lines :: rest else e :: updateRegion id lines rest

/-- Removes the regions with an id. -/
def removeRegion (t : Transcript) (id : Text) : Transcript :=
  t.filter (!·.isRegion id)

/-- The lines of the first region with an id. -/
def region? (t : Transcript) (id : Text) : Option (List Line) :=
  (t.find? (·.isRegion id)).map Entry.lines

/-- All lines shown. -/
def lines (t : Transcript) : List Line :=
  t.flatMap Entry.lines

/-! ## Regions -/

@[simp] theorem length_updateRegion (id : Text) (ls : List Line) (t : Transcript) :
    (updateRegion id ls t).length = t.length := by
  induction t with
  | nil => rfl
  | cons e t ih => by_cases h : e.isRegion id <;> simp [updateRegion, h, ih]

end Transcript

end VirtualTerminal
