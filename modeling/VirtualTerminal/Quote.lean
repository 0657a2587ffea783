import VirtualTerminal.Text.Basic

/-!
# Quotes

A quoted span runs from a quote character to the next quote character of the same kind, so a span
in single quotes may hold double ones and the other way round. A quote character right after a
backslash neither opens nor closes a span; only the one character before it is examined.

Everything that cuts an input line reads it with `Reading.after`, which tells for each character
whether the text is inside a span once that character has been read.
-/

namespace VirtualTerminal

/-- The two kinds of quotes. -/
inductive Quote where
  | single
  | double
  deriving DecidableEq, Repr

namespace Quote

/-- The character that opens and closes a span of a kind. -/
def char : Quote → Char
  | single => '\''
  | double => '"'

/-- The kind of quote that a character is. -/
def ofChar? (c : Char) : Option Quote :=
  if c = '\'' then some single else if c = '"' then some double else none

/-- Whether a character is a quote of either kind. -/
def isQuote (c : Char) : Bool :=
  (ofChar? c).isSome

@[simp] theorem ofChar?_char (q : Quote) : ofChar? q.char = some q := by
  cases q <;> rfl

theorem eq_char_of_ofChar? {c : Char} {q : Quote} (h : ofChar? c = some q) : c = q.char := by
  unfold ofChar? at h
  split at h
  · next hc => cases h; exact hc
  · split at h
    · next hc => cases h; exact hc
    · cases h

end Quote

/-- Where a reading of a text stands: the character read last and the span it is inside of. -/
structure Reading where
  previous : Option Char
  inside : Option Quote
  deriving DecidableEq, Repr

namespace Reading

/-- Before the first character. -/
def start : Reading :=
  ⟨none, none⟩

/-- The span after a character: a quote that no backslash precedes opens a span outside of all
spans and closes a span of its own kind. -/
def insideAfter (r : Reading) (c : Char) : Option Quote :=
  match Quote.ofChar? c with
  | none => r.inside
  | some q =>
    if r.previous = some '\\' then r.inside
    else
      match r.inside with
      | none => some q
      | some p => if p = q then none else some p

/-- The reading after one more character. -/
def after (r : Reading) (c : Char) : Reading :=
  ⟨some c, r.insideAfter c⟩

/-- The reading after a whole text. -/
def through (r : Reading) (s : Text) : Reading :=
  s.foldl after r

/-- Whether a character opens or closes a span. -/
def toggles (r : Reading) (c : Char) : Bool :=
  r.insideAfter c ≠ r.inside

@[simp] theorem through_nil (r : Reading) : r.through [] = r := rfl

@[simp] theorem through_cons (r : Reading) (c : Char) (s : Text) :
    r.through (c :: s) = (r.after c).through s := rfl

@[simp] theorem through_append (r : Reading) (s t : Text) :
    r.through (s ++ t) = (r.through s).through t :=
  List.foldl_append

end Reading

namespace Text

/-- Every character of a text with the span that the reading is inside of after it. -/
def spansFrom (r : Reading) : Text → List (Char × Option Quote)
  | [] => []
  | c :: rest => (c, r.insideAfter c) :: spansFrom (r.after c) rest

/-- Every character of a text with the span that it leaves the reading inside of. -/
def spans (s : Text) : List (Char × Option Quote) :=
  spansFrom Reading.start s

/-- Whether a text ends inside a span. -/
def hasUnmatchedQuotes (s : Text) : Bool :=
  (Reading.start.through s).inside.isSome

/-- The text with a backslash before every quote of a kind, also before one that has a backslash
already. -/
def escapeQuotes (q : Quote) : Text → Text
  | [] => []
  | c :: rest => if c = q.char then '\\' :: c :: escapeQuotes q rest else c :: escapeQuotes q rest

/-- The text between two quotes of one kind at either end, with the backslashes before quotes of
that kind removed. A text of any other form is kept. -/
def removeQuotes (s : Text) : Text :=
  match s with
  | c :: d :: rest =>
    let body := d :: rest
    match Quote.ofChar? c with
    | some q => if body.getLast? = some c then unescape '\\' q.char body.dropLast else s
    | none => s
  | _ => s

end Text

end VirtualTerminal
