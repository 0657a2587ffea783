import VirtualTerminal.Proofs.Invocation.Requested

/-!
# Lines within the limits

A line within the limits is read as what it asks for (`parse_of_within`), and every other line is refused
(`parse_of_not_within`). A reader of an invocation recognises a refusal by the reserved name alone, so a
typed command of that name with an argument passes for one (`isSome_refusal?_iff`).
-/

namespace VirtualTerminal.Invocation

variable {limits : Limits} {line : Text}

/-- Whether a line breaks no limit. -/
structure Within (limits : Limits) (line : Text) : Prop where
  length : line.length ≤ limits.inputLength
  /-- Every `--key=value` has a key, and not a long one. -/
  keys : ∀ token ∈ laterTokens limits line, ∀ key value, Mentions token key (.value value) →
    key ≠ [] ∧ key.length ≤ limits.keyLength
  args : ((laterTokens limits line).filter (IsPositional ·)).length ≤ limits.args
  /-- No more distinct keys are mentioned than are allowed. -/
  options : ∀ keys : List Text, keys.Nodup →
    (∀ key ∈ keys, ∃ token ∈ laterTokens limits line, ∃ x, Mentions token key x) →
      keys.length ≤ limits.options

/-! ## Parts with a key that fits -/

/-- Whether the key of a part with a value is not empty, and short enough. -/
def Part.Fits (limits : Limits) : Part → Prop
  | .option key _ => key ≠ [] ∧ key.length ≤ limits.keyLength
  | _ => True

instance (limits : Limits) : DecidablePred (Part.Fits limits)
  | .arg _ => inferInstanceAs (Decidable True)
  | .flags _ => inferInstanceAs (Decidable True)
  | .option key _ => inferInstanceAs (Decidable (key ≠ [] ∧ key.length ≤ limits.keyLength))

theorem fits_ofToken_iff {token : Text} :
    (Part.ofToken token).Fits limits ↔
      ∀ key value, Mentions token key (.value value) → key ≠ [] ∧ key.length ≤ limits.keyLength := by
  simp only [← mention?_ofToken]
  cases Part.ofToken token with
  | arg text => simp [Part.Fits, Part.mention?]
  | flags names => simp [Part.Fits, Part.mention?]
  | option key value => simp [Part.Fits, Part.mention?]

theorem add_of_fits {part : Part} (h : part.Fits limits) (i : Invocation) :
    add limits i part = .ok (i.withPart part) := by
  cases part with
  | arg text => rfl
  | flags names => rfl
  | option key value =>
    obtain ⟨hne, hlength⟩ := h
    simp [add, keyRefusal?, hne, Nat.not_lt.mpr hlength, withPart]

theorem add_of_not_fits {part : Part} (h : ¬ part.Fits limits) (i : Invocation) :
    ∃ reason, add limits i part = .error reason := by
  cases part with
  | arg text => exact absurd trivial h
  | flags names => exact absurd trivial h
  | option key value =>
    by_cases hne : key = []
    · simp [add, keyRefusal?, hne]
    · have hlength : limits.keyLength < key.length := Nat.lt_of_not_le fun hle => h ⟨hne, hle⟩
      simp [add, keyRefusal?, hne, hlength]

theorem foldlM_add_of_fits {parts : List Part} (h : ∀ part ∈ parts, part.Fits limits)
    (i : Invocation) : parts.foldlM (add limits) i = .ok (parts.foldl withPart i) := by
  induction parts generalizing i with
  | nil => rfl
  | cons part parts ih =>
    obtain ⟨hpart, hparts⟩ := List.forall_mem_cons.mp h
    rw [List.foldlM_cons, add_of_fits hpart, List.foldl_cons]
    exact ih hparts _

theorem foldlM_add_of_not_fits {parts : List Part} (h : ¬ ∀ part ∈ parts, part.Fits limits)
    (i : Invocation) : ∃ reason, parts.foldlM (add limits) i = .error reason := by
  induction parts generalizing i with
  | nil => exact absurd (fun _ hmem => nomatch hmem) h
  | cons part parts ih =>
    rw [List.foldlM_cons]
    by_cases hpart : part.Fits limits
    · rw [add_of_fits hpart]
      exact ih (fun hparts => h (List.forall_mem_cons.mpr ⟨hpart, hparts⟩)) _
    · obtain ⟨reason, hreason⟩ := add_of_not_fits hpart i
      exact ⟨reason, by rw [hreason]; rfl⟩

/-! ## Reading a line -/

theorem countRefusal?_eq_none_iff {i : Invocation} :
    countRefusal? limits i = none ↔ i.args.length ≤ limits.args ∧ i.options.size ≤ limits.options := by
  unfold countRefusal?
  split
  next h => simp [Nat.not_le.mpr h]
  next h =>
    split
    next h' => simp [Nat.not_le.mpr h']
    next h' => simp [Nat.not_lt.mp h, Nat.not_lt.mp h']

/-- The limits, told by the parts that the tokens are read as. -/
theorem within_iff :
    Within limits line ↔ line.length ≤ limits.inputLength ∧
      (∀ part ∈ (laterTokens limits line).map Part.ofToken, part.Fits limits) ∧
        countRefusal? limits (requested limits line) = none := by
  simp only [List.forall_mem_map, fits_ofToken_iff]
  rw [countRefusal?_eq_none_iff, args_requested, size_requested_le_iff]
  exact ⟨fun h => ⟨h.length, h.keys, h.args, h.options⟩,
    fun ⟨hlength, hkeys, hargs, hoptions⟩ => ⟨hlength, hkeys, hargs, hoptions⟩⟩

instance (limits : Limits) : DecidablePred (Within limits) := fun _ =>
  decidable_of_iff _ within_iff.symm

/-- A line that is not too long is its parts in turn, checked at the end. -/
theorem parse_eq_checked (h : line.length ≤ limits.inputLength) :
    parse limits line = checked limits line
      (((laterTokens limits line).map Part.ofToken).foldlM (add limits) (named limits line)) := by
  rw [parse_eq_ofTokens (Nat.not_lt.mpr h)]
  unfold laterTokens named name?
  cases keptTokens limits (Text.trim line) with
  | nil =>
    have hcount : countRefusal? limits { raw := line } = none :=
      countRefusal?_eq_none_iff.mpr ⟨Nat.zero_le _, Nat.zero_le _⟩
    exact (checked_of_none line hcount).symm
  | cons name rest => rfl

/-- A line within the limits is read as what it asks for. -/
theorem parse_of_within (h : Within limits line) : parse limits line = requested limits line := by
  obtain ⟨hlength, hfits, hcount⟩ := within_iff.mp h
  rw [parse_eq_checked hlength, foldlM_add_of_fits hfits]
  exact checked_of_none line hcount

/-- Every other line is refused, with as much of the line on record as may be typed. -/
theorem parse_of_not_within (h : ¬ Within limits line) :
    ∃ reason, parse limits line = refused (line.take limits.inputLength) reason := by
  -- the limits are told apart in the order in which they are checked, the counts last
  by_cases hlength : line.length ≤ limits.inputLength
  · rw [parse_eq_checked hlength, List.take_of_length_le hlength]
    by_cases hfits : ∀ part ∈ (laterTokens limits line).map Part.ofToken, part.Fits limits
    · have hcount : countRefusal? limits (requested limits line) ≠ none := fun hnone =>
        h (within_iff.mpr ⟨hlength, hfits, hnone⟩)
      obtain ⟨reason, hreason⟩ := Option.ne_none_iff_exists'.mp hcount
      rw [foldlM_add_of_fits hfits]
      exact ⟨reason, checked_of_some line hreason⟩
    · obtain ⟨reason, hreason⟩ := foldlM_add_of_not_fits hfits (named limits line)
      exact ⟨reason, by rw [hreason]; rfl⟩
  · exact ⟨_, if_pos (Nat.lt_of_not_le hlength)⟩

/-! ## Refused lines -/

/-- A line passes for refused exactly if it breaks a limit, or names the reserved command and gives it
an argument. -/
theorem isSome_refusal?_iff (limits : Limits) (line : Text) :
    (parse limits line).refusal?.isSome = true ↔
      ¬ Within limits line ∨
        (∃ name, name? limits line = some name ∧ name.lower = refusedName) ∧
          ∃ token ∈ laterTokens limits line, IsPositional token := by
  by_cases h : Within limits line
  · have hname : (parse limits line).command = refusedName ↔
        ∃ name, name? limits line = some name ∧ name.lower = refusedName := by
      rw [parse_of_within h, command_requested]
      cases name? limits line with
      | none => exact iff_of_false (by decide) (by simp)
      | some name => simp
    have hargs : (parse limits line).args.head?.isSome = true ↔
        ∃ token ∈ laterTokens limits line, IsPositional token := by
      rw [parse_of_within h, args_requested, List.isSome_head?, Ne, List.filter_eq_nil_iff]
      simp only [decide_eq_true_eq, not_forall, not_not, exists_prop]
    rw [← hname, ← hargs]
    unfold refusal?
    by_cases hcommand : (parse limits line).command = refusedName <;> simp [h, hcommand]
  · obtain ⟨reason, hreason⟩ := parse_of_not_within h
    rw [hreason, refusal?_refused]
    exact iff_of_true rfl (.inl h)

/-- A command of the reserved name breaks no limit, and its argument is taken for the reason of a
refusal. -/
theorem refusal?_of_reserved_name :
    Within {} "error now".toList ∧ (parse {} "error now".toList).refusal? = some "now".toList := by
  constructor <;> decide +kernel

/-! ## The name of the command -/

/-- The command of a line that is not refused is named by the first token that is short enough; it has
no name exactly if no token is or that token is empty. Only tokens that are too long stand before the
one that gives the name. -/
theorem command_eq_first_kept (limits : Limits) (line : Text) :
    (¬ Within limits line ∧
        ∃ reason, parse limits line = refused (line.take limits.inputLength) reason) ∨
      ((parse limits line).command = [] ∧
        ∀ token ∈ Text.tokens (Text.trim line), limits.tokenLength < token.length) ∨
      ∃ dropped name rest, Text.tokens (Text.trim line) = dropped ++ name :: rest ∧
        (∀ token ∈ dropped, limits.tokenLength < token.length) ∧
          name.length ≤ limits.tokenLength ∧ (parse limits line).command = name.lower := by
  by_cases h : Within limits line
  · right
    rw [parse_of_within h, command_requested]
    unfold name? keptTokens
    rw [List.head?_filter]
    cases hfind : (Text.tokens (Text.trim line)).find? (·.length ≤ limits.tokenLength) with
    | none =>
      rw [List.find?_eq_none] at hfind
      exact .inl ⟨rfl, fun token htoken => by simpa using hfind token htoken⟩
    | some name =>
      obtain ⟨hname, dropped, rest, hsplit, hdropped⟩ := List.find?_eq_some_iff_append.mp hfind
      refine .inr ⟨dropped, name, rest, hsplit, fun token htoken => ?_, of_decide_eq_true hname, rfl⟩
      simpa using hdropped token htoken
  · exact .inl ⟨h, parse_of_not_within h⟩

/-- A name that is too long is passed over, and the argument after it is the command. -/
theorem command_of_long_name :
    let line := "display rm notes".toList
    Text.tokens (Text.trim line) = ["display", "rm", "notes"].map String.toList ∧
      parse { tokenLength := 5 } line =
        { command := "rm".toList, args := ["notes".toList], raw := line } := by
  constructor <;> decide +kernel

/-! ## What a line within the limits gives -/

/-- What can be relied on of the invocation that is read from a line. -/
structure Reads (limits : Limits) (line : Text) (i : Invocation) : Prop where
  raw : i.raw = line
  /-- The command is the first kept token in lower case, and empty if there is none. -/
  command : i.command = ((name? limits line).map Text.lower).getD []
  length_name : ∀ name ∈ name? limits line, name.length ≤ limits.tokenLength
  /-- The arguments are the kept tokens after the command that mention no key, in order. -/
  args : i.args = (laterTokens limits line).filter (IsPositional ·)
  length_arg : ∀ arg ∈ i.args, arg.length ≤ limits.tokenLength
  length_args : i.args.length ≤ limits.args
  size_options : i.options.size ≤ limits.options
  flags : ∀ flag ∈ i.flags, flag ∈ i.options.keys
  /-- A key has the value that the last token that mentions it gives it. -/
  find?_eq_some : ∀ key x, i.options.find? key = some x ↔
    ∃ before token after, laterTokens limits line = before ++ token :: after ∧
      Mentions token key x ∧ ∀ t ∈ after, ∀ y, ¬ Mentions t key y
  find?_eq_none : ∀ key, i.options.find? key = none ↔
    ∀ token ∈ laterTokens limits line, ∀ x, ¬ Mentions token key x

theorem length_le_of_mem_keptTokens {token : Text} (h : token ∈ keptTokens limits line) :
    token.length ≤ limits.tokenLength :=
  of_decide_eq_true (List.mem_filter.mp h).2

/-- A line within the limits is read in full. -/
theorem reads_of_within (h : Within limits line) : Reads limits line (parse limits line) := by
  obtain ⟨-, -, hcount⟩ := within_iff.mp h
  obtain ⟨hargs, hoptions⟩ := countRefusal?_eq_none_iff.mp hcount
  rw [parse_of_within h]
  refine {
    raw := raw_requested limits line
    command := command_requested limits line
    length_name := fun name hname => length_le_of_mem_keptTokens (List.mem_of_head? hname)
    args := args_requested limits line
    length_arg := fun arg harg => ?_
    length_args := hargs
    size_options := hoptions
    flags := fun flag hflag =>
      (Table.mem_keys_iff _ flag).mpr (contains_of_mem_flags limits line hflag)
    find?_eq_some := fun key x => find?_requested_eq_some_iff limits line
    find?_eq_none := fun key => find?_requested_eq_none_iff limits line }
  rw [args_requested] at harg
  exact length_le_of_mem_keptTokens (List.mem_of_mem_tail (List.mem_of_mem_filter harg))

/-- A flag that a value replaces, a group of short flags, a negative number and a quoted argument. -/
theorem reads_of_within_flags :
    let line := "Deploy --mode -la \"two words\" -5 --mode=fast".toList
    Within {} line ∧ Reads {} line (parse {} line) ∧
      (parse {} line).args = ["two words".toList, "-5".toList] ∧
        (parse {} line).options.entries =
          [("a".toList, .flag), ("l".toList, .flag), ("mode".toList, .value "fast".toList)] := by
  intro line
  have hwithin : Within {} line := by decide +kernel
  exact ⟨hwithin, reads_of_within hwithin, by decide +kernel, by decide +kernel⟩

end VirtualTerminal.Invocation
