import Mathlib.Data.List.Perm.Subperm
import VirtualTerminal.Proofs.Invocation.Mention

/-!
# What a line asks for

Limits apart, a line asks for the command that its first kept token names, with every later token
added in turn (`requested`). One more token gives each key that it mentions a new value and leaves the
others (`find?_withPart`), so a key has the value of the last token that mentions it
(`find?_requested_eq_some_iff`).
-/

namespace VirtualTerminal.Invocation

/-! ## One part -/

/-- The invocation with one more part, whatever its key. -/
def withPart (i : Invocation) : Part → Invocation
  | .arg text => { i with args := i.args ++ [text] }
  | .flags names =>
    { i with
      flags := i.flags ++ names
      options := names.foldl (fun t name => t.insert name .flag) i.options }
  | .option key value => { i with options := i.options.insert key (.value value) }

theorem args_withPart (i : Invocation) (part : Part) :
    (i.withPart part).args = i.args ++ part.args := by
  cases part <;> simp [withPart, Part.args]

theorem raw_withPart (i : Invocation) (part : Part) : (i.withPart part).raw = i.raw := by
  cases part <;> rfl

theorem command_withPart (i : Invocation) (part : Part) :
    (i.withPart part).command = i.command := by
  cases part <;> rfl

/-- A part gives a value to the keys that it mentions, and leaves the others. -/
theorem find?_withPart (i : Invocation) (part : Part) (key : Text) :
    (i.withPart part).options.find? key = (part.mention? key).or (i.options.find? key) := by
  cases part with
  | arg text => rfl
  | flags names =>
    simp only [withPart, Part.mention?_flags, Table.find?_foldl_insert]
    split <;> rfl
  | option k value =>
    simp only [withPart, Part.mention?, Table.find?_insert]
    split <;> rfl

theorem mem_flags_withPart {i : Invocation} {part : Part} {flag : Text}
    (h : flag ∈ (i.withPart part).flags) : flag ∈ i.flags ∨ part.mention? flag = some .flag := by
  cases part with
  | arg text => exact .inl h
  | flags names =>
    rw [Part.mention?_flags]
    exact (List.mem_append.mp h).imp_right fun hmem => if_pos hmem
  | option key value => exact .inl h

/-! ## All parts -/

section Parts

variable (parts : List Part) (i : Invocation)

theorem args_foldl_withPart :
    (parts.foldl withPart i).args = i.args ++ parts.flatMap Part.args := by
  induction parts generalizing i with
  | nil => simp
  | cons part parts ih => rw [List.foldl_cons, ih, args_withPart, List.flatMap_cons, List.append_assoc]

theorem raw_foldl_withPart : (parts.foldl withPart i).raw = i.raw := by
  induction parts generalizing i with
  | nil => rfl
  | cons part parts ih => rw [List.foldl_cons, ih, raw_withPart]

theorem command_foldl_withPart : (parts.foldl withPart i).command = i.command := by
  induction parts generalizing i with
  | nil => rfl
  | cons part parts ih => rw [List.foldl_cons, ih, command_withPart]

/-- The last part that mentions a key decides its value. -/
theorem find?_foldl_withPart (key : Text) :
    (parts.foldl withPart i).options.find? key =
      (parts.reverse.findSome? (Part.mention? key)).or (i.options.find? key) := by
  induction parts generalizing i with
  | nil => rfl
  | cons part parts ih =>
    rw [List.foldl_cons, ih, find?_withPart, List.reverse_cons, List.findSome?_append,
      List.findSome?_singleton, Option.or_assoc]

/-- Parts keep all flags among the keys of the options. -/
theorem contains_foldl_withPart {i : Invocation} (hi : ∀ flag ∈ i.flags, i.options.contains flag) :
    ∀ flag ∈ (parts.foldl withPart i).flags, (parts.foldl withPart i).options.contains flag := by
  induction parts generalizing i with
  | nil => exact hi
  | cons part parts ih =>
    refine ih fun flag hflag => ?_
    unfold Table.contains
    rw [find?_withPart, Option.isSome_or, Bool.or_eq_true]
    rcases mem_flags_withPart hflag with hold | hnew
    · exact .inr (hi flag hold)
    · exact .inl (Option.isSome_of_mem hnew)

end Parts

/-! ## The tokens of a line -/

/-- The name that a line gives to its command: its first kept token. -/
def name? (limits : Limits) (line : Text) : Option Text :=
  (keptTokens limits (Text.trim line)).head?

/-- The kept tokens of a line after the name. -/
def laterTokens (limits : Limits) (line : Text) : List Text :=
  (keptTokens limits (Text.trim line)).tail

/-- The invocation of a line before its later tokens are read: the command is its name in lower case. -/
def named (limits : Limits) (line : Text) : Invocation :=
  { command := ((name? limits line).map Text.lower).getD [], raw := line }

/-- What a line asks for, if no limit refuses it. -/
def requested (limits : Limits) (line : Text) : Invocation :=
  ((laterTokens limits line).map Part.ofToken).foldl withPart (named limits line)

variable (limits : Limits) (line : Text)

theorem raw_requested : (requested limits line).raw = line :=
  raw_foldl_withPart _ _

theorem command_requested :
    (requested limits line).command = ((name? limits line).map Text.lower).getD [] :=
  command_foldl_withPart _ _

/-- The arguments are the tokens that are arguments, in order. -/
theorem args_requested :
    (requested limits line).args = (laterTokens limits line).filter (IsPositional ·) := by
  have hfilter : ∀ tokens : List Text,
      (tokens.map Part.ofToken).flatMap Part.args = tokens.filter (IsPositional ·) := by
    intro tokens
    induction tokens with
    | nil => rfl
    | cons token tokens ih =>
      rw [List.map_cons, List.flatMap_cons, ih, args_ofToken, List.filter_cons]
      by_cases h : IsPositional token <;> simp [h]
  unfold requested
  rw [args_foldl_withPart, hfilter]
  rfl

theorem contains_of_mem_flags {flag : Text} (h : flag ∈ (requested limits line).flags) :
    (requested limits line).options.contains flag :=
  contains_foldl_withPart _ (by simp [named]) flag h

theorem find?_requested (key : Text) :
    (requested limits line).options.find? key =
      (laterTokens limits line).reverse.findSome? fun token => (Part.ofToken token).mention? key := by
  unfold requested named
  rw [find?_foldl_withPart, ← List.map_reverse, List.findSome?_map, Table.find?_empty, Option.or_none]
  rfl

/-- A key has a value exactly if this is what the last token that mentions the key gives it. -/
theorem find?_requested_eq_some_iff {key : Text} {x : OptionValue} :
    (requested limits line).options.find? key = some x ↔
      ∃ before token after, laterTokens limits line = before ++ token :: after ∧
        Mentions token key x ∧ ∀ t ∈ after, ∀ y, ¬ Mentions t key y := by
  rw [find?_requested, List.findSome?_eq_some_iff]
  simp only [mention?_ofToken, mention?_ofToken_eq_none]
  constructor
  · rintro ⟨after, token, before, hsplit, hmention, hafter⟩
    refine ⟨before.reverse, token, after.reverse, ?_, hmention, fun t ht => ?_⟩
    · rw [← List.reverse_reverse (laterTokens limits line), hsplit]
      simp
    · exact hafter t (List.mem_reverse.mp ht)
  · rintro ⟨before, token, after, hsplit, hmention, hafter⟩
    refine ⟨after.reverse, token, before.reverse, ?_, hmention, fun t ht => ?_⟩
    · rw [hsplit]
      simp
    · exact hafter t (List.mem_reverse.mp ht)

theorem find?_requested_eq_none_iff {key : Text} :
    (requested limits line).options.find? key = none ↔
      ∀ token ∈ laterTokens limits line, ∀ x, ¬ Mentions token key x := by
  rw [find?_requested, List.findSome?_eq_none_iff]
  simp only [mention?_ofToken_eq_none, List.mem_reverse]

theorem mem_keys_requested_iff {key : Text} :
    key ∈ (requested limits line).options.keys ↔
      ∃ token ∈ laterTokens limits line, ∃ x, Mentions token key x := by
  rw [Table.mem_keys_iff, Option.isSome_iff_ne_none, Ne, find?_requested_eq_none_iff]
  simp only [not_forall, not_not, exists_prop]

/-- There are as many options as the line mentions distinct keys. -/
theorem size_requested_le_iff {n : Nat} :
    (requested limits line).options.size ≤ n ↔
      ∀ keys : List Text, keys.Nodup →
        (∀ key ∈ keys, ∃ token ∈ laterTokens limits line, ∃ x, Mentions token key x) →
          keys.length ≤ n := by
  have hsize : (requested limits line).options.size = (requested limits line).options.keys.length :=
    List.length_map _ |>.symm
  rw [hsize]
  constructor
  · intro hle keys hnodup hmentioned
    have hsubset : keys ⊆ (requested limits line).options.keys := fun key hkey =>
      (mem_keys_requested_iff limits line).mpr (hmentioned key hkey)
    exact Nat.le_trans (hnodup.subperm hsubset).length_le hle
  · intro hall
    exact hall _ (Table.nodup_keys _) fun key hkey => (mem_keys_requested_iff limits line).mp hkey

end VirtualTerminal.Invocation
