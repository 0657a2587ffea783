/-!
# Texts

A text is the list of its characters. Positions and lengths that a user sees are counted in bytes
of the text's UTF-8 form, so a character weighs one to four.
-/

namespace VirtualTerminal

/-- A text, as the list of its characters. -/
abbrev Text := List Char

namespace Text

/-- The number of bytes of the UTF-8 form. -/
def utf8Length : Text → Nat
  | [] => 0
  | c :: s => c.utf8Size + utf8Length s

/-- The decimal digits of a number. -/
def ofNat (n : Nat) : Text :=
  Nat.toDigits 10 n

theorem ofNat_injective {m n : Nat} (h : ofNat m = ofNat n) : m = n := by
  have hvalue := congrArg (Nat.ofDigitChars 10 · 0) h
  simpa only [ofNat, Nat.ofDigitChars_ten_toDigits] using hvalue

theorem dash_not_mem_ofNat (n : Nat) : '-' ∉ ofNat n := fun h =>
  absurd (Nat.isDigit_of_mem_toDigits (by decide) (by decide) h) (by decide)

/-- The texts joined with `separator` between neighbours. -/
def join (separator : Text) : List Text → Text
  | [] => []
  | [s] => s
  | s :: rest => s ++ separator ++ join separator rest

/-- The parts before and after the first occurrence of a character. -/
def splitOnce (c : Char) : Text → Option (Text × Text)
  | [] => none
  | d :: rest =>
    if d = c then some ([], rest) else (splitOnce c rest).map fun (a, b) => (d :: a, b)

/-- The parts before and after the last occurrence of a character. -/
def splitLast (c : Char) : Text → Option (Text × Text)
  | [] => none
  | d :: rest =>
    match splitLast c rest with
    | some (a, b) => some (d :: a, b)
    | none => if d = c then some ([], rest) else none

/-- A text that holds a character has a last occurrence of it. -/
theorem exists_eq_append_cons {c : Char} {s : Text} (h : c ∈ s) :
    ∃ a b, s = a ++ c :: b ∧ c ∉ b := by
  obtain ⟨b, a, hs, hb⟩ := List.eq_append_cons_of_mem (List.mem_reverse.mpr h)
  refine ⟨a.reverse, b.reverse, ?_, mt List.mem_reverse.mp hb⟩
  rw [← List.reverse_reverse s, hs]
  simp

theorem splitLast_eq_none {c : Char} {s : Text} (h : c ∉ s) : splitLast c s = none := by
  induction s with
  | nil => rfl
  | cons d rest ih =>
    obtain ⟨hd, hrest⟩ := not_or.mp (mt List.mem_cons.mpr h)
    simp [splitLast, ih hrest, Ne.symm hd]

/-- The last occurrence of a character is the one that no other follows. -/
theorem splitLast_append {c : Char} {t : Text} (s : Text) (h : c ∉ t) :
    splitLast c (s ++ c :: t) = some (s, t) := by
  induction s with
  | nil => simp [splitLast, splitLast_eq_none h]
  | cons d s ih => simp [splitLast, ih]

theorem eq_of_splitLast {c : Char} {s a b : Text} (h : splitLast c s = some (a, b)) :
    s = a ++ c :: b ∧ c ∉ b := by
  by_cases hmem : c ∈ s
  · obtain ⟨x, y, rfl, hy⟩ := exists_eq_append_cons hmem
    rw [splitLast_append x hy] at h
    cases h
    exact ⟨rfl, hy⟩
  · rw [splitLast_eq_none hmem] at h
    cases h

theorem splitOnce_eq_none {c : Char} {s : Text} (h : c ∉ s) : splitOnce c s = none := by
  induction s with
  | nil => rfl
  | cons d rest ih =>
    obtain ⟨hd, hrest⟩ := not_or.mp (mt List.mem_cons.mpr h)
    simp [splitOnce, ih hrest, Ne.symm hd]

/-- The first occurrence of a character is the one that no other precedes. -/
theorem splitOnce_append {c : Char} {s : Text} (h : c ∉ s) (t : Text) :
    splitOnce c (s ++ c :: t) = some (s, t) := by
  induction s with
  | nil => simp [splitOnce]
  | cons d s ih =>
    obtain ⟨hd, hs⟩ := not_or.mp (mt List.mem_cons.mpr h)
    simp [splitOnce, ih hs, Ne.symm hd]

theorem eq_of_splitOnce {c : Char} {s a b : Text} (h : splitOnce c s = some (a, b)) :
    s = a ++ c :: b ∧ c ∉ a := by
  by_cases hmem : c ∈ s
  · obtain ⟨x, y, rfl, hx⟩ := List.eq_append_cons_of_mem hmem
    rw [splitOnce_append hx] at h
    cases h
    exact ⟨rfl, hx⟩
  · rw [splitOnce_eq_none hmem] at h
    cases h

/-- The pieces between the occurrences of a character. -/
def split (c : Char) : Text → List Text
  | [] => [[]]
  | d :: rest =>
    if d = c then [] :: split c rest
    else
      match split c rest with
      | [] => [[d]]
      | piece :: pieces => (d :: piece) :: pieces

theorem split_ne_nil (c : Char) (s : Text) : split c s ≠ [] := by
  induction s with
  | nil => simp [split]
  | cons d rest ih =>
    by_cases h : d = c
    · simp [split, h]
    · simp only [split, h, if_false]
      split <;> simp

theorem not_mem_of_mem_split {c : Char} {s piece : Text} (h : piece ∈ split c s) : c ∉ piece := by
  induction s generalizing piece with
  | nil => simp_all [split]
  | cons d rest ih =>
    obtain ⟨first, pieces, hp⟩ := List.exists_cons_of_ne_nil (split_ne_nil c rest)
    rw [hp] at ih
    by_cases hd : d = c
    · rw [split, if_pos hd, hp] at h
      rcases List.mem_cons.mp h with rfl | h
      · exact List.not_mem_nil
      · exact ih h
    · rw [split, if_neg hd, hp] at h
      rcases List.mem_cons.mp h with rfl | h
      · exact fun hmem => (List.mem_cons.mp hmem).elim (fun heq => hd heq.symm)
          (ih List.mem_cons_self)
      · exact ih (List.mem_cons_of_mem _ h)

/-- What follows `lead` at the start of a text. -/
def stripPrefix? : (lead : Text) → Text → Option Text
  | [], s => some s
  | _ :: _, [] => none
  | p :: lead, c :: s => if p = c then stripPrefix? lead s else none

theorem stripPrefix?_eq_some_iff {lead s rest : Text} :
    stripPrefix? lead s = some rest ↔ s = lead ++ rest := by
  induction lead generalizing s with
  | nil => simp [stripPrefix?]
  | cons p lead ih =>
    cases s with
    | nil => simp [stripPrefix?]
    | cons c s =>
      by_cases h : p = c
      · simp [stripPrefix?, h, ih]
      · simp [stripPrefix?, h, Ne.symm h]

/-- Whether `part` occurs in a text. -/
def hasInfix (part : Text) : Text → Bool
  | [] => part.isEmpty
  | c :: rest => part.isPrefixOf (c :: rest) || hasInfix part rest

theorem hasInfix_iff {part s : Text} : hasInfix part s = true ↔ part <:+: s := by
  induction s with
  | nil => simp [hasInfix]
  | cons c rest ih =>
    rw [hasInfix, Bool.or_eq_true, ih, List.infix_cons_iff, List.isPrefixOf_iff_prefix]

/-- A text without one trailing carriage return. -/
def dropCarriageReturn (s : Text) : Text :=
  if s.getLast? = some '\r' then s.dropLast else s

/-- The lines of a text. A line ends at a line feed, and a carriage return right before that line
feed is dropped; what follows the last line feed is a line of its own unless it is empty. -/
def lines (s : Text) : List Text :=
  match (split '\n' s).reverse with
  | [] => []
  | last :: earlier =>
    (earlier.map dropCarriageReturn).reverse ++ (if last = [] then [] else [last])

/-- A text followed by blanks up to `width` characters. -/
def padRight (width : Nat) (s : Text) : Text :=
  s ++ List.replicate (width - s.length) ' '

/-- A text preceded by blanks up to `width` characters. -/
def padLeft (width : Nat) (s : Text) : Text :=
  List.replicate (width - s.length) ' ' ++ s

/-- Every occurrence of the pair `(a, b)`, read from the left, replaced by `b`. -/
def unescape (a b : Char) : Text → Text
  | c :: d :: rest => if c = a ∧ d = b then b :: unescape a b rest else c :: unescape a b (d :: rest)
  | s => s

end Text

end VirtualTerminal
