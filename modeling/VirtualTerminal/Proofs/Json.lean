import Mathlib.Data.List.TakeDrop
import Mathlib.Tactic.Common
import VirtualTerminal.Json

/-!
# JSON text is read back

A reader takes a value from the start of a text and gives what follows it. Each lemma is stated with what
follows: the escapes of a string are undone up to its closing quote (`readString?_escaped`), a number
ends where no digit follows (`readNumber?_renderNumber`), and arrays and objects end at their brackets.
So every value is read back from its compact text (`read?_render`), and no two values are printed as one
text (`render_injective`).
-/

namespace VirtualTerminal.JsonValue

/-! ## The reader -/

/-- The value of a hexadecimal digit. -/
def hexValue? (c : Char) : Option Nat :=
  (List.range 16).find? fun d => Nat.digitChar d = c

/-- The character whose code point is written in hexadecimal digits. -/
def ofHex? (digits : Text) : Option Char :=
  (digits.mapM hexValue?).map fun ds => Char.ofNat (ds.foldl (fun n d => 16 * n + d) 0)

/-- The character that a backslash and a letter stand for. -/
def unescape? : Char → Option Char
  | '"' => some '"'
  | '\\' => some '\\'
  | '/' => some '/'
  | 'n' => some '\n'
  | 'r' => some '\r'
  | 't' => some '\t'
  | 'b' => some '\x08'
  | 'f' => some '\x0C'
  | _ => none

/-- A character before what has been read of a string. -/
def push (c : Char) (read : Text × Text) : Text × Text :=
  (c :: read.1, read.2)

/-- The rest of a string up to its closing quote, and what follows the quote. -/
def readString? : Text → Option (Text × Text)
  | [] => none
  | '"' :: rest => some ([], rest)
  | '\\' :: 'u' :: a :: b :: c :: d :: rest => do
    return push (← ofHex? [a, b, c, d]) (← readString? rest)
  | '\\' :: c :: rest => do return push (← unescape? c) (← readString? rest)
  | c :: rest => (readString? rest).map (push c)

/-- The digits after a point at the start of a text, and what follows them. -/
def readFraction : Text → Text × Text
  | '.' :: rest => rest.span Char.isDigit
  | s => ([], s)

/-- The number without a sign at the start of a text, the count of its decimals, and what follows it. -/
def readDigits? (s : Text) : Option (Nat × Nat × Text) :=
  let (whole, rest) := s.span Char.isDigit
  let (decimals, rest) := readFraction rest
  if whole = [] then none
  else some (Nat.ofDigitChars 10 (whole ++ decimals) 0, decimals.length, rest)

/-- The number at the start of a text, and what follows it. -/
def readNumber? : Text → Option (JsonValue × Text)
  | '-' :: s => (readDigits? s).map fun (n, decimals, rest) => (number (-n) decimals, rest)
  | s => (readDigits? s).map fun (n, decimals, rest) => (number n decimals, rest)

/-- The value that a word at the start of a text names, and what follows it. -/
def readWord? (s : Text) : Option (JsonValue × Text) :=
  [("null".toList, null), ("true".toList, bool true), ("false".toList, bool false)].findSome?
    fun (word, v) => (Text.stripPrefix? word s).map fun rest => (v, rest)

mutual

/-- The value at the start of a text, and what follows it. The length of the value's text is `fuel`
enough. -/
def readValue? : (fuel : Nat) → Text → Option (JsonValue × Text)
  | _ + 1, '"' :: rest => (readString? rest).map fun (s, rest) => (string s, rest)
  | _ + 1, '[' :: ']' :: rest => some (array [], rest)
  | fuel + 1, '[' :: rest => (readItems? fuel rest).map fun (vs, rest) => (array vs, rest)
  | _ + 1, '\x7b' :: '\x7d' :: rest => some (object [], rest)
  | fuel + 1, '\x7b' :: rest => (readFields? fuel rest).map fun (fs, rest) => (object fs, rest)
  | _ + 1, s => (readWord? s).or (readNumber? s)
  | 0, _ => none

/-- The items up to the closing bracket of an array, of which there is one at least, and what follows
the bracket. -/
def readItems? : (fuel : Nat) → Text → Option (List JsonValue × Text)
  | 0, _ => none
  | fuel + 1, s => do
    let (v, rest) ← readValue? fuel s
    match rest with
    | ',' :: rest => (readItems? fuel rest).map fun (vs, rest) => (v :: vs, rest)
    | ']' :: rest => some ([v], rest)
    | _ => none

/-- The fields up to the closing bracket of an object, of which there is one at least, and what follows
the bracket. -/
def readFields? : (fuel : Nat) → Text → Option (List (Text × JsonValue) × Text)
  | fuel + 1, '"' :: s => do
    let (k, rest) ← readString? s
    let (v, rest) ← readValue? fuel (← Text.stripPrefix? [':'] rest)
    match rest with
    | ',' :: rest => (readFields? fuel rest).map fun (fs, rest) => ((k, v) :: fs, rest)
    | '\x7d' :: rest => some ([(k, v)], rest)
    | _ => none
  | _, _ => none

end

/-- The value that a text is of, if nothing follows it. It is meant for texts that values are printed as;
of others some are refused. -/
def read? (s : Text) : Option JsonValue :=
  match readValue? s.length s with
  | some (v, []) => some v
  | _ => none

/-! ## Strings -/

theorem ofHex?_hex4 : ∀ n < 0x20, ofHex? (hex4 n) = some (Char.ofNat n) := by
  decide

/-- A character that needs no escape is read as it stands. -/
theorem readString?_cons_of_plain {c : Char} (hquote : c ≠ '"') (hbackslash : c ≠ '\\') (s : Text) :
    readString? (c :: s) = (readString? s).map (push c) := by
  rw [readString?]
  · exact hquote
  · exact fun _ _ _ _ _ h _ => hbackslash h
  · exact fun _ _ h _ => hbackslash h

theorem readString?_cons_of_pair {c l : Char} (hl : l ≠ 'u') (h : unescape? l = some c) (s : Text) :
    readString? ('\\' :: l :: s) = (readString? s).map (push c) := by
  rw [readString?, h]
  · cases readString? s <;> rfl
  · exact fun _ _ _ _ _ h _ => hl h

theorem readString?_escapeChar (c : Char) (s : Text) :
    readString? (escapeChar c ++ s) = (readString? s).map (push c) := by
  unfold escapeChar
  split_ifs with hquote hbackslash hn hr ht hb hf hcontrol
  · exact readString?_cons_of_pair (by decide) (by rw [hquote]; rfl) s
  · exact readString?_cons_of_pair (by decide) (by rw [hbackslash]; rfl) s
  · exact readString?_cons_of_pair (by decide) (by rw [hn]; rfl) s
  · exact readString?_cons_of_pair (by decide) (by rw [hr]; rfl) s
  · exact readString?_cons_of_pair (by decide) (by rw [ht]; rfl) s
  · exact readString?_cons_of_pair (by decide) (by rw [hb]; rfl) s
  · exact readString?_cons_of_pair (by decide) (by rw [hf]; rfl) s
  · have hread := ofHex?_hex4 c.toNat hcontrol
    rw [Char.ofNat_toNat] at hread
    show (do return push (← ofHex? (hex4 c.toNat)) (← readString? s) : Option (Text × Text)) = _
    rw [hread]
    cases readString? s <;> rfl
  · exact readString?_cons_of_plain hquote hbackslash s

theorem readString?_escaped (s rest : Text) :
    readString? (s.flatMap escapeChar ++ '"' :: rest) = some (s, rest) := by
  induction s with
  | nil => rfl
  | cons c s ih =>
    rw [List.flatMap_cons, List.append_assoc, readString?_escapeChar, ih]
    rfl

/-! ## Numbers -/

/-- Whether a text goes on neither with a digit nor with a point. -/
def Ends (s : Text) : Prop :=
  s.head?.all (fun c => !c.isDigit && c != '.') = true

theorem span_digits {digits rest : Text} (hdigits : ∀ c ∈ digits, c.isDigit = true)
    (hrest : rest.head?.all (fun c => !c.isDigit) = true) :
    (digits ++ rest).span Char.isDigit = (digits, rest) := by
  rw [List.span_eq_takeWhile_dropWhile, List.takeWhile_append_of_pos hdigits,
    List.dropWhile_append_of_pos hdigits]
  cases rest with
  | nil => simp
  | cons c rest =>
    have hc : c.isDigit = false := by simpa using hrest
    simp [hc]

theorem Ends.all_not_isDigit {s : Text} (h : Ends s) : s.head?.all (fun c => !c.isDigit) = true := by
  cases s with
  | nil => rfl
  | cons c s => exact (Bool.and_eq_true_iff.mp h).1

theorem Ends.readFraction_eq {s : Text} (h : Ends s) : readFraction s = ([], s) := by
  rw [readFraction]
  rintro rest rfl
  simp [Ends] at h

theorem isDigit_of_mem_ofNat {n : Nat} {c : Char} (h : c ∈ Text.ofNat n) : c.isDigit = true :=
  Nat.isDigit_of_mem_toDigits (by decide) (by decide) h

/-- The digits of a number after its point. -/
def decimalsOf (n decimals : Nat) : Text :=
  let digits := Text.ofNat (n % Nat.pow 10 decimals)
  List.replicate (decimals - digits.length) '0' ++ digits

theorem isDigit_of_mem_decimalsOf {n decimals : Nat} {c : Char} (h : c ∈ decimalsOf n decimals) :
    c.isDigit = true := by
  rcases List.mem_append.mp h with hzero | hdigit
  · rw [(List.mem_replicate.mp hzero).2]
    rfl
  · exact isDigit_of_mem_ofNat hdigit

theorem length_decimalsOf (n : Nat) {decimals : Nat} (h : 0 < decimals) :
    (decimalsOf n decimals).length = decimals := by
  have hlt : n % Nat.pow 10 decimals < 10 ^ decimals := Nat.mod_lt _ (Nat.pow_pos (by decide))
  have hle : (Text.ofNat (n % Nat.pow 10 decimals)).length ≤ decimals :=
    (Nat.length_toDigits_le_iff (by decide) h).mpr hlt
  unfold decimalsOf
  rw [List.length_append, List.length_replicate, Nat.sub_add_cancel hle]

/-- The digits after the point go on from the value of those before it. -/
theorem ofDigitChars_decimalsOf (n value : Nat) {decimals : Nat} (h : 0 < decimals) :
    Nat.ofDigitChars 10 (decimalsOf n decimals) value =
      Nat.pow 10 decimals * value + n % Nat.pow 10 decimals := by
  have hzeros : Nat.ofDigitChars 10 (decimalsOf n decimals) 0 = n % Nat.pow 10 decimals := by
    unfold decimalsOf
    rw [Nat.ofDigitChars_append, Nat.ofDigitChars_replicate_zero, Nat.mul_zero]
    exact Nat.ofDigitChars_ten_toDigits
  rw [Nat.ofDigitChars_eq_ofDigitChars_zero, length_decimalsOf n h, hzeros]
  rfl

/-- The digits of a number without its sign. -/
def digitsOf (n decimals : Nat) : Text :=
  Text.ofNat (n / Nat.pow 10 decimals) ++
    if decimals = 0 then [] else '.' :: decimalsOf n decimals

theorem renderNumber_eq (mantissa : Int) (decimals : Nat) : renderNumber mantissa decimals =
    (if mantissa < 0 then ['-'] else []) ++ digitsOf mantissa.natAbs decimals :=
  List.append_assoc ..

theorem readDigits?_digitsOf (n decimals : Nat) {rest : Text} (hrest : Ends rest) :
    readDigits? (digitsOf n decimals ++ rest) = some (n, decimals, rest) := by
  have hwhole : ∀ c ∈ Text.ofNat (n / Nat.pow 10 decimals), c.isDigit = true :=
    fun _ => isDigit_of_mem_ofNat
  have hne : Text.ofNat (n / Nat.pow 10 decimals) ≠ [] := Nat.toDigits_ne_nil
  have hvalue : Nat.ofDigitChars 10 (Text.ofNat (n / Nat.pow 10 decimals)) 0 =
      n / Nat.pow 10 decimals := Nat.ofDigitChars_ten_toDigits
  unfold readDigits? digitsOf
  rcases Nat.eq_zero_or_pos decimals with rfl | hpos
  · rw [if_pos rfl, List.append_nil, span_digits hwhole hrest.all_not_isDigit]
    simp only [hrest.readFraction_eq, hne, if_false, List.append_nil, hvalue]
    exact congrArg (fun m => some (m, 0, rest)) (Nat.div_one n)
  · rw [if_neg (Nat.ne_of_gt hpos), List.append_assoc, List.cons_append, span_digits hwhole rfl]
    simp only [readFraction, span_digits (fun _ => isDigit_of_mem_decimalsOf) hrest.all_not_isDigit,
      hne, if_false, Nat.ofDigitChars_append, hvalue, ofDigitChars_decimalsOf n _ hpos,
      length_decimalsOf n hpos]
    exact congrArg (fun m => some (m, decimals, rest)) (Nat.div_add_mod n _)

theorem exists_digitsOf_eq_cons (n decimals : Nat) :
    ∃ c s, digitsOf n decimals = c :: s ∧ c.isDigit = true := by
  have hne : Text.ofNat (n / Nat.pow 10 decimals) ≠ [] := Nat.toDigits_ne_nil
  obtain ⟨c, s, hcons⟩ := List.exists_cons_of_ne_nil hne
  refine ⟨c, _, congrArg (· ++ _) hcons, isDigit_of_mem_ofNat (n := n / Nat.pow 10 decimals) ?_⟩
  rw [hcons]
  exact List.mem_cons_self

theorem digitsOf_append_ne_cons (n decimals : Nat) (rest : Text) {c : Char}
    (hc : c.isDigit = false) (s : Text) : digitsOf n decimals ++ rest ≠ c :: s := by
  obtain ⟨d, digits, hcons, hd⟩ := exists_digitsOf_eq_cons n decimals
  rw [hcons]
  intro h
  obtain ⟨rfl, -⟩ := List.cons.inj h
  exact Bool.false_ne_true (hc.symm.trans hd)

/-- The sign is told by the first character, as digits start with no minus. -/
theorem readNumber?_renderNumber (mantissa : Int) (decimals : Nat) {rest : Text}
    (hrest : Ends rest) :
    readNumber? (renderNumber mantissa decimals ++ rest) =
      some (number mantissa decimals, rest) := by
  rw [renderNumber_eq]
  by_cases hneg : mantissa < 0
  · have habs : -(mantissa.natAbs : Int) = mantissa := by omega
    rw [if_pos hneg, List.singleton_append, List.cons_append, readNumber?,
      readDigits?_digitsOf _ _ hrest, Option.map_some]
    exact congrArg (fun m => some (number m decimals, rest)) habs
  · have habs : (mantissa.natAbs : Int) = mantissa := by omega
    rw [if_neg hneg, List.nil_append, readNumber?, readDigits?_digitsOf _ _ hrest, Option.map_some]
    · exact congrArg (fun m => some (number m decimals, rest)) habs
    · exact digitsOf_append_ne_cons _ _ rest rfl

/-! ## Values -/

/-- The text of a number starts with its sign or with a digit. -/
theorem renderNumber_append_ne_cons (mantissa : Int) (decimals : Nat) (rest : Text) {c : Char}
    (hsign : c ≠ '-') (hdigit : c.isDigit = false) (s : Text) :
    renderNumber mantissa decimals ++ rest ≠ c :: s := by
  rw [renderNumber_eq]
  split
  · exact fun h => hsign (List.cons.inj h).1.symm
  · rw [List.nil_append]
    exact digitsOf_append_ne_cons _ _ rest hdigit s

theorem readWord?_eq_none {s : Text} (hn : ∀ t, s ≠ 'n' :: t) (ht : ∀ t, s ≠ 't' :: t)
    (hf : ∀ t, s ≠ 'f' :: t) : readWord? s = none := by
  cases s with
  | nil => rfl
  | cons c s =>
    have hc : 'n' ≠ c ∧ 't' ≠ c ∧ 'f' ≠ c :=
      ⟨fun h => hn s (h ▸ rfl), fun h => ht s (h ▸ rfl), fun h => hf s (h ▸ rfl)⟩
    simp [readWord?, Text.stripPrefix?, hc]

theorem readValue?_renderNumber (fuel : Nat) (mantissa : Int) (decimals : Nat) {rest : Text}
    (hrest : Ends rest) : readValue? (fuel + 1) (renderNumber mantissa decimals ++ rest) =
      some (number mantissa decimals, rest) := by
  have hstart := fun (c : Char) => renderNumber_append_ne_cons mantissa decimals rest (c := c)
  rw [readValue?, readWord?_eq_none, Option.none_or, readNumber?_renderNumber _ _ hrest]
  · exact hstart 'n' (by decide) rfl
  · exact hstart 't' (by decide) rfl
  · exact hstart 'f' (by decide) rfl
  · exact hstart '"' (by decide) rfl
  · exact fun t => hstart '[' (by decide) rfl (']' :: t)
  · exact hstart '[' (by decide) rfl
  · exact fun t => hstart '\x7b' (by decide) rfl ('\x7d' :: t)
  · exact hstart '\x7b' (by decide) rfl

/-- No value starts like an array ends. -/
theorem render_append_ne_cons (v : JsonValue) (rest s : Text) : v.render ++ rest ≠ ']' :: s := by
  cases v with
  | number mantissa decimals =>
    exact renderNumber_append_ne_cons mantissa decimals rest (by decide) rfl s
  | bool b => cases b <;> exact fun h => absurd (List.cons.inj h).1 (by decide)
  | _ => exact fun h => absurd (List.cons.inj h).1 (by decide)

theorem length_render_pos (v : JsonValue) : 0 < v.render.length := by
  cases v with
  | number mantissa decimals =>
    obtain ⟨c, s, hcons, -⟩ := exists_digitsOf_eq_cons mantissa.natAbs decimals
    rw [render, renderNumber_eq, hcons, List.length_append, List.length_cons]
    omega
  | bool b => cases b <;> exact Nat.succ_pos _
  | _ => exact Nat.succ_pos _

/-! ## Arrays and objects -/

section Steps

variable {fuel : Nat} {v : JsonValue} {s rest : Text}

theorem readItems?_last (h : readValue? fuel s = some (v, ']' :: rest)) :
    readItems? (fuel + 1) s = some ([v], rest) := by
  rw [readItems?, h]
  rfl

theorem readItems?_more (h : readValue? fuel s = some (v, ',' :: rest)) :
    readItems? (fuel + 1) s = (readItems? fuel rest).map fun (vs, rest) => (v :: vs, rest) := by
  rw [readItems?, h]
  rfl

/-- The name of a field is read, and the colon after it is passed over. -/
theorem readFields?_renderString (fuel : Nat) (k s : Text) :
    readFields? (fuel + 1) (renderString k ++ ':' :: s) = (do
      let (v, rest) ← readValue? fuel s
      match rest with
      | ',' :: rest => (readFields? fuel rest).map fun (fs, rest) => ((k, v) :: fs, rest)
      | '\x7d' :: rest => some ([(k, v)], rest)
      | _ => none) := by
  show readFields? (fuel + 1) ('"' :: (k.flatMap escapeChar ++ ['"'] ++ ':' :: s)) = _
  rw [List.append_assoc, List.singleton_append, readFields?, readString?_escaped]
  rfl

theorem readFields?_last (k : Text) (h : readValue? fuel s = some (v, '\x7d' :: rest)) :
    readFields? (fuel + 1) (renderString k ++ ':' :: s) = some ([(k, v)], rest) := by
  rw [readFields?_renderString, h]
  rfl

theorem readFields?_more (k : Text) (h : readValue? fuel s = some (v, ',' :: rest)) :
    readFields? (fuel + 1) (renderString k ++ ':' :: s) =
      (readFields? fuel rest).map fun (fs, rest) => ((k, v) :: fs, rest) := by
  rw [readFields?_renderString, h]
  rfl

end Steps

/-- The items of an array as they are printed. -/
abbrev itemsText (items : List JsonValue) : Text :=
  Text.join [','] (renderItems items)

/-- The fields of an object as they are printed. -/
abbrev fieldsText (fields : List (Text × JsonValue)) : Text :=
  Text.join [','] (renderFields fields)

theorem itemsText_cons_cons (v w : JsonValue) (items : List JsonValue) :
    itemsText (v :: w :: items) = v.render ++ ',' :: itemsText (w :: items) :=
  List.append_cons .. |>.symm

theorem fieldsText_singleton (k : Text) (v : JsonValue) :
    fieldsText [(k, v)] = renderString k ++ ':' :: v.render :=
  List.append_cons .. |>.symm

theorem fieldsText_cons_cons (k : Text) (v : JsonValue) (f : Text × JsonValue)
    (fields : List (Text × JsonValue)) : fieldsText ((k, v) :: f :: fields) =
      renderString k ++ ':' :: (v.render ++ ',' :: fieldsText (f :: fields)) := by
  simp [fieldsText, renderFields, Text.join]

theorem render_array_append (items : List JsonValue) (rest : Text) :
    (array items).render ++ rest = '[' :: (itemsText items ++ ']' :: rest) := by
  simp [render]

theorem length_render_array (items : List JsonValue) :
    (array items).render.length = (itemsText items).length + 2 := by
  simp [render]

theorem render_object_append (fields : List (Text × JsonValue)) (rest : Text) :
    (object fields).render ++ rest = '\x7b' :: (fieldsText fields ++ '\x7d' :: rest) := by
  simp [render]

theorem length_render_object (fields : List (Text × JsonValue)) :
    (object fields).render.length = (fieldsText fields).length + 2 := by
  simp [render]

mutual

/-- The recursion is that of printing. What stands in brackets is two characters shorter than the text of
the whole, so the fuel for the whole is enough for it. -/
theorem readValue?_render (v : JsonValue) (fuel : Nat) (rest : Text)
    (hfuel : v.render.length ≤ fuel) (hrest : Ends rest) :
    readValue? fuel (v.render ++ rest) = some (v, rest) := by
  obtain ⟨f, rfl⟩ := Nat.exists_eq_add_one.mpr (Nat.lt_of_lt_of_le v.length_render_pos hfuel)
  match v with
  | null => rfl
  | bool true => rfl
  | bool false => rfl
  | number mantissa decimals => exact readValue?_renderNumber f mantissa decimals hrest
  | string s =>
    show (readString? (s.flatMap escapeChar ++ ['"'] ++ rest)).map _ = _
    rw [List.append_assoc, List.singleton_append, readString?_escaped]
    rfl
  | array [] => rfl
  | array (v :: vs) =>
    rw [length_render_array] at hfuel
    rw [render_array_append, readValue?,
      readItems?_render (v :: vs) f rest (List.cons_ne_nil _ _) (by omega)]
    · rfl
    · cases vs with
      | nil => exact fun t => v.render_append_ne_cons _ t
      | cons w vs =>
        intro t
        rw [itemsText_cons_cons, List.append_assoc]
        exact v.render_append_ne_cons _ t
  | object [] => rfl
  | object ((k, v) :: fs) =>
    rw [length_render_object] at hfuel
    rw [render_object_append, readValue?,
      readFields?_render ((k, v) :: fs) f rest (List.cons_ne_nil _ _) (by omega)]
    · rfl
    · cases fs <;> exact fun t h => absurd (List.cons.inj h).1 (by decide)

theorem readItems?_render : ∀ (items : List JsonValue) (fuel : Nat) (rest : Text), items ≠ [] →
    (itemsText items).length < fuel →
      readItems? fuel (itemsText items ++ ']' :: rest) = some (items, rest)
  | [], _, _, hne, _ => absurd rfl hne
  | [v], fuel + 1, rest, _, hfuel =>
    readItems?_last (readValue?_render v fuel _ (Nat.le_of_lt_succ hfuel) rfl)
  | v :: w :: items, fuel + 1, rest, _, hfuel => by
    rw [itemsText_cons_cons] at hfuel ⊢
    rw [List.length_append, List.length_cons] at hfuel
    rw [List.append_assoc, List.cons_append,
      readItems?_more (readValue?_render v fuel _ (by omega) rfl),
      readItems?_render (w :: items) fuel rest (List.cons_ne_nil _ _) (by omega)]
    rfl

theorem readFields?_render : ∀ (fields : List (Text × JsonValue)) (fuel : Nat) (rest : Text),
    fields ≠ [] → (fieldsText fields).length < fuel →
      readFields? fuel (fieldsText fields ++ '\x7d' :: rest) = some (fields, rest)
  | [], _, _, hne, _ => absurd rfl hne
  | [(k, v)], fuel + 1, rest, _, hfuel => by
    rw [fieldsText_singleton] at hfuel ⊢
    rw [List.length_append, List.length_cons] at hfuel
    rw [List.append_assoc, List.cons_append]
    exact readFields?_last k (readValue?_render v fuel _ (by omega) rfl)
  | (k, v) :: f :: fields, fuel + 1, rest, _, hfuel => by
    rw [fieldsText_cons_cons] at hfuel ⊢
    rw [List.length_append, List.length_cons, List.length_append, List.length_cons] at hfuel
    rw [List.append_assoc, List.cons_append, List.append_assoc, List.cons_append,
      readFields?_more k (readValue?_render v fuel _ (by omega) rfl),
      readFields?_render (f :: fields) fuel rest (List.cons_ne_nil _ _) (by omega)]
    rfl

end

/-! ## Whole texts -/

/-- The compact text of a value is read as the value. -/
theorem read?_render (v : JsonValue) : read? v.render = some v := by
  have hread := readValue?_render v v.render.length [] (Nat.le_refl _) rfl
  rw [List.append_nil] at hread
  rw [read?, hread]

theorem render_injective {v w : JsonValue} (h : v.render = w.render) : v = w := by
  have hread := read?_render v
  rw [h, read?_render] at hread
  exact (Option.some.inj hread).symm

end VirtualTerminal.JsonValue
