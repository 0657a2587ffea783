import VirtualTerminal.Json
import VirtualTerminal.Line

/-!
# Lines as JSON

A line is written as an object that leaves out what is absent. Reading takes such objects with any
further fields, as long as none of their own stands there twice, and also arrays that hold the fields
of an object in their order.
-/

namespace VirtualTerminal

/-- The field of an object whose value may be absent. -/
def JsonValue.optional (name : String) : Option JsonValue → List (Text × JsonValue)
  | none => []
  | some v => [(name.toList, v)]

namespace Run

/-- The fields of a run. -/
def toFields (r : Run) : List (Text × JsonValue) :=
  ("text".toList, .string r.text) :: JsonValue.optional "color" (r.color.map fun c => .string c.name)

/-- The JSON form of a run. -/
def toJson (r : Run) : JsonValue :=
  .object r.toFields

end Run

/-- The JSON form of what a line shows. -/
def Content.toJson : Content → JsonValue
  | text run => .object (("kind".toList, .string "text".toList) :: run.toFields)
  | parts runs =>
    .object [("kind".toList, .string "parts".toList), ("parts".toList, .array (runs.map Run.toJson))]
  | blank => .object [("kind".toList, .string "empty".toList)]

namespace Line

/-- The JSON form of a line. -/
def toJson (l : Line) : JsonValue :=
  .object (("content".toList, l.content.toJson) :: JsonValue.optional "url" (l.url.map .string) ++
    (if l.isCommand then [("is_command".toList, .bool true)] else []) ++
    JsonValue.optional "class" (l.styleClass.map .string))

/-- The JSON text of a list of lines. -/
def renderJson (lines : List Line) : Text :=
  (JsonValue.array (lines.map toJson)).render

end Line

/-! ## Reading -/

open JsonValue (field?)

/-- Reads a value that may be absent or null. -/
def JsonValue.readOption (read : JsonValue → Option α) : Option JsonValue → Option (Option α)
  | none | some .null => some none
  | some v => (read v).map some

/-- The colour that a value names, as a string or as the only field of an object that has nothing
in it. -/
def Color.ofJson? : JsonValue → Option Color
  | .string s => ofName? s
  | .object [(k, .null)] | .object [(k, .object [])] => ofName? k
  | _ => none

/-- The run with a text and a colour, both still to be read. -/
def Run.ofValues? (text color : Option JsonValue) : Option Run := do
  return { text := ← (← text).string?, color := ← JsonValue.readOption Color.ofJson? color }

/-- The run that a value holds; none if its text or its colour stands there twice. -/
def Run.ofJson? : JsonValue → Option Run
  | .object fields => do ofValues? (← field? "text".toList fields) (← field? "color".toList fields)
  | .array [text] => ofValues? (some text) none
  | .array [text, color] => ofValues? (some text) (some color)
  | _ => none

/-- The runs that a value holds. -/
def Run.listOfJson? : JsonValue → Option (List Run)
  | .array items => items.mapM Run.ofJson?
  | _ => none

/-- What a line of a kind shows, with the other fields still to be read. -/
def Content.ofFields? (kind : Text) (fields : List (Text × JsonValue)) : Option Content :=
  if kind = "text".toList then (Run.ofJson? (.object fields)).map .text
  else if kind = "parts".toList then do
    return .parts (← Run.listOfJson? (← (← field? "parts".toList fields)))
  else if kind = "empty".toList then some .blank
  else none

/-- What a line of a kind shows, with the other fields still to be read in their order. -/
def Content.ofItems? (kind : Text) (items : List JsonValue) : Option Content :=
  if kind = "text".toList then
    match items with
    | [t] => (Run.ofValues? (some t) none).map .text
    | [t, color] => (Run.ofValues? (some t) (some color)).map .text
    | _ => none
  else if kind = "parts".toList then
    match items with
    | [v] => (Run.listOfJson? v).map .parts
    | _ => none
  else if kind = "empty".toList ∧ items.isEmpty then some .blank
  else none

/-- What a line shows according to a value; none if a field that is read of it stands there twice. -/
def Content.ofJson? : JsonValue → Option Content
  | .object fields => do ofFields? (← (← (← field? "kind".toList fields)).string?) fields
  | .array (kind :: items) => do ofItems? (← kind.string?) items
  | _ => none

/-- The line with the given fields, all of them still to be read. -/
def Line.ofValues? (content url isCommand styleClass : Option JsonValue) : Option Line := do
  return {
    content := ← Content.ofJson? (← content)
    url := ← JsonValue.readOption JsonValue.string? url
    isCommand := ← match isCommand with
      | none => some false
      | some v => v.bool?
    styleClass := ← JsonValue.readOption JsonValue.string? styleClass }

/-- The line that a value holds; none if one of its fields stands there twice. -/
def Line.ofJson? : JsonValue → Option Line
  | .object fields => do
    ofValues? (← field? "content".toList fields) (← field? "url".toList fields)
      (← field? "is_command".toList fields) (← field? "class".toList fields)
  | .array items =>
    if items.length ≤ 4 then ofValues? items[0]? items[1]? items[2]? items[3]? else none
  | _ => none

/-- The lines that a value holds. -/
def Line.listOfJson? : JsonValue → Option (List Line)
  | .array items => items.mapM Line.ofJson?
  | _ => none

end VirtualTerminal
