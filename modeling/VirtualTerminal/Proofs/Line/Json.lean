import VirtualTerminal.Line.Json
import VirtualTerminal.Proofs.Json

/-!
# Lines survive JSON

Each part of a line is read back from its JSON form: a field that is left out is read as absent, a field
that is written is found under its own name and under no other one, and a list is read item by item. So
lines, and lists of lines, are read back as they were, also from their texts by whatever parser reads
these as the JSON values that were printed (`survives_json`).
-/

namespace VirtualTerminal

/-! ## Fields -/

namespace JsonValue

variable {α : Type u} {key k : Text} {name : String}

theorem values_cons_self (key : Text) (v : JsonValue) (fields : List (Text × JsonValue)) :
    values key ((key, v) :: fields) = v :: values key fields := by
  simp [values]

theorem values_cons_of_ne (h : key ≠ k) (v : JsonValue) (fields : List (Text × JsonValue)) :
    values key ((k, v) :: fields) = values key fields := by
  simp [values, h.symm]

theorem values_append (key : Text) (fields more : List (Text × JsonValue)) :
    values key (fields ++ more) = values key fields ++ values key more :=
  List.filterMap_append

theorem values_optional_self (name : String) (value : Option JsonValue) :
    values name.toList (optional name value) = value.toList := by
  cases value with
  | none => rfl
  | some v => exact values_cons_self _ v []

theorem values_optional_of_ne (h : key ≠ name.toList) (value : Option JsonValue) :
    values key (optional name value) = [] := by
  cases value with
  | none => rfl
  | some v => exact values_cons_of_ne h v []

/-- A field with at most one value can be read. -/
theorem field?_eq_some {fields : List (Text × JsonValue)} {value : Option JsonValue}
    (h : values key fields = value.toList) : field? key fields = some value := by
  unfold field?
  rw [h]
  cases value <;> rfl

theorem field?_cons_of_ne (h : key ≠ k) (v : JsonValue) (fields : List (Text × JsonValue)) :
    field? key ((k, v) :: fields) = field? key fields := by
  unfold field?
  rw [values_cons_of_ne h]

/-- What is written of a value that may be absent is read back, as no value is written as null. -/
theorem readOption_map {read : JsonValue → Option α} {write : α → JsonValue}
    (hread : ∀ a, read (write a) = some a) (hnull : ∀ a, write a ≠ null) (value : Option α) :
    readOption read (value.map write) = some value := by
  cases value with
  | none => rfl
  | some a =>
    rw [Option.map_some]
    unfold readOption
    split
    next heq => cases heq
    next heq => exact absurd (Option.some.inj heq) (hnull a)
    next heq =>
      rw [← Option.some.inj heq, hread]
      rfl

theorem readOption_string (value : Option Text) :
    readOption string? (value.map string) = some value := by
  apply readOption_map
  · intro s
    rfl
  · intro s h
    cases h

/-- If everything is read back from what is written of it, what has been read is read again. -/
theorem reread {again : α → Option α} (h : ∀ a, again a = some a) (read : Option α) :
    read.bind again = read := by
  rw [funext h]
  exact Option.bind_fun_some read

/-- A list is read back if its items are. -/
theorem mapM_map {read : JsonValue → Option α} {write : α → JsonValue}
    (hread : ∀ a, read (write a) = some a) (items : List α) :
    (items.map write).mapM read = some items := by
  induction items with
  | nil => rfl
  | cons a items ih => simp [hread, ih]

end JsonValue

open JsonValue

/-! ## Runs -/

namespace Color

theorem ofName?_name (c : Color) : ofName? c.name = some c := by
  cases c <;> decide

theorem readOption_name (color : Option Color) :
    readOption ofJson? (color.map fun c => .string c.name) = some color := by
  apply readOption_map
  · exact ofName?_name
  · intro c h
    cases h

end Color

namespace Run

theorem field?_text (r : Run) : field? "text".toList r.toFields = some (some (.string r.text)) := by
  apply field?_eq_some
  rw [toFields, values_cons_self, values_optional_of_ne (by decide)]
  rfl

theorem field?_color (r : Run) :
    field? "color".toList r.toFields = some (r.color.map fun c => .string c.name) := by
  rw [toFields, field?_cons_of_ne (by decide)]
  exact field?_eq_some (values_optional_self _ _)

/-- A run is read from its fields, also where others stand with them. -/
theorem ofJson?_object {fields : List (Text × JsonValue)} {r : Run}
    (htext : field? "text".toList fields = field? "text".toList r.toFields)
    (hcolor : field? "color".toList fields = field? "color".toList r.toFields) :
    ofJson? (.object fields) = some r := by
  simp only [ofJson?, htext, hcolor, field?_text, field?_color, Option.bind_eq_bind,
    Option.bind_some]
  unfold ofValues?
  rw [Color.readOption_name]
  rfl

theorem ofJson?_toJson (r : Run) : ofJson? r.toJson = some r :=
  ofJson?_object rfl rfl

theorem listOfJson?_toJson (runs : List Run) : listOfJson? (.array (runs.map toJson)) = some runs :=
  mapM_map ofJson?_toJson runs

end Run

/-! ## Contents -/

/-- No field of a run is called like the kind of the content that shows it, and neither is the list of
runs. -/
theorem Content.ofJson?_toJson (c : Content) : ofJson? c.toJson = some c := by
  cases c with
  | text run =>
    have hkind : field? "kind".toList (("kind".toList, .string "text".toList) :: run.toFields) =
        some (some (.string "text".toList)) := by
      apply field?_eq_some
      rw [values_cons_self, Run.toFields, values_cons_of_ne (by decide),
        values_optional_of_ne (by decide)]
      rfl
    simp only [toJson, ofJson?, hkind, Option.bind_eq_bind, Option.bind_some, string?]
    unfold ofFields?
    rw [if_pos rfl, Run.ofJson?_object (field?_cons_of_ne (by decide) _ _)
      (field?_cons_of_ne (by decide) _ _)]
    rfl
  | parts runs =>
    show (do return parts (← Run.listOfJson? (.array (runs.map Run.toJson)))) = _
    rw [Run.listOfJson?_toJson]
    rfl
  | blank => rfl

/-! ## Lines -/

namespace Line

/-- The fields of a line. -/
def toFields (l : Line) : List (Text × JsonValue) :=
  ("content".toList, l.content.toJson) :: optional "url" (l.url.map .string) ++
    optional "is_command" (if l.isCommand then some (.bool true) else none) ++
    optional "class" (l.styleClass.map .string)

section Fields

variable (l : Line)

theorem toJson_eq : l.toJson = .object l.toFields := by
  unfold toJson toFields
  cases l.isCommand <;> rfl

theorem values_toFields (key : Text) : values key l.toFields =
    values key [("content".toList, l.content.toJson)] ++
      (values key (optional "url" (l.url.map .string)) ++
        (values key (optional "is_command" (if l.isCommand then some (.bool true) else none)) ++
          values key (optional "class" (l.styleClass.map .string)))) := by
  rw [← values_append, ← values_append, ← values_append, ← List.append_assoc, ← List.append_assoc]
  rfl

theorem field?_content : field? "content".toList l.toFields = some (some l.content.toJson) := by
  apply field?_eq_some
  rw [values_toFields, values_cons_self, values_optional_of_ne (by decide),
    values_optional_of_ne (by decide), values_optional_of_ne (by decide)]
  rfl

theorem field?_url : field? "url".toList l.toFields = some (l.url.map .string) := by
  apply field?_eq_some
  rw [values_toFields, values_cons_of_ne (by decide), values_optional_self,
    values_optional_of_ne (by decide), values_optional_of_ne (by decide)]
  exact List.append_nil _

theorem field?_isCommand : field? "is_command".toList l.toFields =
    some (if l.isCommand then some (.bool true) else none) := by
  apply field?_eq_some
  rw [values_toFields, values_cons_of_ne (by decide), values_optional_of_ne (by decide),
    values_optional_self, values_optional_of_ne (by decide)]
  exact List.append_nil _

theorem field?_class : field? "class".toList l.toFields = some (l.styleClass.map .string) := by
  apply field?_eq_some
  rw [values_toFields, values_cons_of_ne (by decide), values_optional_of_ne (by decide),
    values_optional_of_ne (by decide), values_optional_self]
  rfl

end Fields

theorem ofJson?_toJson (l : Line) : ofJson? l.toJson = some l := by
  rw [toJson_eq]
  simp only [ofJson?, field?_content, field?_url, field?_isCommand, field?_class,
    Option.bind_eq_bind, Option.bind_some]
  unfold ofValues?
  rw [readOption_string, readOption_string]
  obtain ⟨content, url, isCommand, styleClass⟩ := l
  cases isCommand with
  | false => simp [content.ofJson?_toJson]
  | true => simp [content.ofJson?_toJson, JsonValue.bool?]

theorem listOfJson?_toJson (lines : List Line) :
    listOfJson? (.array (lines.map toJson)) = some lines :=
  mapM_map ofJson?_toJson lines

/-- A line is read back from its JSON form, and a list of lines from that of the list. Whatever JSON value
a line or a list of lines is read of, it is the same that is read of its own JSON form. With a parser that
takes the texts printed of lines and of lists of lines for the values that they were printed of, all this
holds of texts: a line and a list of lines are read back from what is printed of them, and what is read of
any text is read again of what is printed of it. -/
theorem survives_json :
    (∀ l : Line, ofJson? l.toJson = some l) ∧
      (∀ lines : List Line, listOfJson? (.array (lines.map toJson)) = some lines) ∧
      (∀ v, (ofJson? v).bind (fun l => ofJson? l.toJson) = ofJson? v) ∧
      (∀ v, (listOfJson? v).bind (fun lines => listOfJson? (.array (lines.map toJson))) =
        listOfJson? v) ∧
      ∀ parse : Text → Option JsonValue,
        (∀ l : Line, parse l.toJson.render = some l.toJson) →
        (∀ lines : List Line, parse (renderJson lines) = some (.array (lines.map toJson))) →
          (∀ l : Line, (parse l.toJson.render).bind ofJson? = some l) ∧
            (∀ lines : List Line, (parse (renderJson lines)).bind listOfJson? = some lines) ∧
            (∀ text, ((parse text).bind ofJson?).bind
              (fun l => (parse l.toJson.render).bind ofJson?) = (parse text).bind ofJson?) ∧
            ∀ text, ((parse text).bind listOfJson?).bind
              (fun lines => (parse (renderJson lines)).bind listOfJson?) =
                (parse text).bind listOfJson? := by
  refine ⟨ofJson?_toJson, listOfJson?_toJson, fun _ => reread ofJson?_toJson _,
    fun _ => reread listOfJson?_toJson _, fun parse hline hlist => ?_⟩
  have hreadLine : ∀ l : Line, (parse l.toJson.render).bind ofJson? = some l := fun l => by
    rw [hline, Option.bind_some, ofJson?_toJson]
  have hreadList : ∀ lines : List Line, (parse (renderJson lines)).bind listOfJson? = some lines :=
    fun lines => by rw [hlist, Option.bind_some, listOfJson?_toJson]
  exact ⟨hreadLine, hreadList, fun _ => reread hreadLine _, fun _ => reread hreadList _⟩

/-- The reader of compact JSON texts is such a parser; a link, a command and a line of two colours, with
a quote, a backslash and a line feed in their texts, as it reads them. -/
theorem survives_json_read :
    let lines := [{ Line.plain "a\"b".toList with url := some "x:y".toList },
      { Line.plain "c\\\nd".toList with isCommand := true },
      Line.parts [⟨"e".toList, some .red⟩, ⟨[], none⟩]]
    (∀ l : Line, JsonValue.read? l.toJson.render = some l.toJson) ∧
      (∀ ls : List Line, JsonValue.read? (renderJson ls) = some (.array (ls.map toJson))) ∧
      (JsonValue.read? (renderJson lines)).bind listOfJson? = some lines := by
  intro lines
  have hline : ∀ l : Line, JsonValue.read? l.toJson.render = some l.toJson :=
    fun l => JsonValue.read?_render l.toJson
  have hlist : ∀ ls : List Line, JsonValue.read? (renderJson ls) = some (.array (ls.map toJson)) :=
    fun ls => JsonValue.read?_render (.array (ls.map toJson))
  obtain ⟨-, -, -, -, htexts⟩ := survives_json
  exact ⟨hline, hlist, (htexts JsonValue.read? hline hlist).2.1 lines⟩

/-- Fields in another order, a further one, a colour and a link that are null, and a run as an array. -/
example : ofJson? (.object [("class".toList, .string "note".toList), ("more".toList, .number 1 0),
      ("url".toList, .null), ("content".toList, .object [
        ("parts".toList, .array [.array [.string "a".toList],
          .object [("color".toList, .null), ("text".toList, .string "b".toList)]]),
        ("kind".toList, .string "parts".toList)])]) =
    some { Line.parts [⟨"a".toList, none⟩, ⟨"b".toList, none⟩] with
      styleClass := some "note".toList } := by
  decide +kernel

/-- A field that stands twice. -/
example : ofJson? (.object [("class".toList, .string "note".toList),
      ("content".toList, .object [("kind".toList, .string "empty".toList)]),
      ("class".toList, .null)]) = none := by
  decide +kernel

end Line

end VirtualTerminal
