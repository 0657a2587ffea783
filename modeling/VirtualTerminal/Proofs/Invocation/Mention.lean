import VirtualTerminal.Proofs.Invocation.Parse

/-!
# What a token says

A token after the command name is an argument (`IsPositional`), or it mentions one or more keys of the
options (`Mentions`). Both are told by the token's own characters, and `Part.ofToken` reads a token
accordingly: the shapes in `exists_shape` are all there are, and each has one reading.
-/

namespace VirtualTerminal.Invocation

/-- What a token after the command name gives to a key of the options. -/
inductive Mentions : (token key : Text) → OptionValue → Prop where
  /-- `--key=value`, cut at its first equals sign. -/
  | option {key value : Text} (hkey : '=' ∉ key) :
    Mentions ('-' :: '-' :: (key ++ '=' :: value)) key (.value value)
  /-- `--key` -/
  | long {key : Text} (hne : key ≠ []) (hkey : '=' ∉ key) : Mentions ('-' :: '-' :: key) key .flag
  /-- `-abc`, which mentions each of its letters. -/
  | short {c d : Char} {rest : Text} (hdash : c ≠ '-') (hdigit : c.isDigit = false)
    (hmem : d ∈ c :: rest) : Mentions ('-' :: c :: rest) [d] .flag

/-- Whether a token after the command name is an argument: it does not start with a dash, it is one dash
or two, or a digit follows the dash. -/
def IsPositional (token : Text) : Prop :=
  token.head? ≠ some '-' ∨ token = ['-'] ∨ token = ['-', '-'] ∨ token[1]?.any Char.isDigit = true

instance : DecidablePred IsPositional := fun _ => inferInstanceAs (Decidable (_ ∨ _ ∨ _ ∨ _))

/-! ## The shapes of a token -/

/-- A token is an argument, an option with a value, a long flag or a group of short ones. -/
theorem exists_shape (token : Text) :
    IsPositional token ∨
      (∃ key value, '=' ∉ key ∧ token = '-' :: '-' :: (key ++ '=' :: value)) ∨
      (∃ key, key ≠ [] ∧ '=' ∉ key ∧ token = '-' :: '-' :: key) ∨
      ∃ c rest, c ≠ '-' ∧ c.isDigit = false ∧ token = '-' :: c :: rest := by
  rcases token with _ | ⟨c, _ | ⟨d, rest⟩⟩
  · left
    simp [IsPositional]
  · left
    by_cases hc : c = '-' <;> simp [IsPositional, hc]
  · by_cases hc : c = '-'
    · subst hc
      by_cases hd : d = '-'
      · subst hd
        by_cases heq : '=' ∈ rest
        · obtain ⟨key, value, rfl, hkey⟩ := List.eq_append_cons_of_mem heq
          exact .inr (.inl ⟨key, value, hkey, rfl⟩)
        · by_cases hne : rest = []
          · left
            simp [IsPositional, hne]
          · exact .inr (.inr (.inl ⟨rest, hne, heq, rfl⟩))
      · by_cases hdigit : d.isDigit = true
        · left
          simp [IsPositional, hdigit]
        · exact .inr (.inr (.inr ⟨d, rest, hd, Bool.eq_false_iff.mpr hdigit, rfl⟩))
    · left
      simp [IsPositional, hc]

/-- A token that is no argument mentions a key. -/
theorem exists_mentions {token : Text} (h : ¬ IsPositional token) : ∃ key x, Mentions token key x := by
  rcases exists_shape token with hpositional | ⟨key, value, hkey, rfl⟩ | ⟨key, hne, hkey, rfl⟩ |
    ⟨c, rest, hdash, hdigit, rfl⟩
  · exact absurd hpositional h
  · exact ⟨key, _, .option hkey⟩
  · exact ⟨key, _, .long hne hkey⟩
  · exact ⟨[c], _, .short hdash hdigit List.mem_cons_self⟩

section Readings

variable {key value token rest : Text} {c : Char}

theorem ofToken_option (hkey : '=' ∉ key) :
    Part.ofToken ('-' :: '-' :: (key ++ '=' :: value)) = .option key value := by
  simp [Part.ofToken, Text.splitOnce_append hkey]

theorem ofToken_long (hne : key ≠ []) (hkey : '=' ∉ key) :
    Part.ofToken ('-' :: '-' :: key) = .flags [key] := by
  simp [Part.ofToken, Text.splitOnce_eq_none hkey, hne]

theorem ofToken_short (hdash : c ≠ '-') (hdigit : c.isDigit = false) :
    Part.ofToken ('-' :: c :: rest) = .flags ((c :: rest).map ([·])) := by
  unfold Part.ofToken
  split
  next heq => exact absurd (List.cons.inj (List.cons.inj heq).2).1 hdash
  next heq =>
    cases heq
    simp [hdigit]
  next hother => exact absurd rfl (hother c rest)

theorem ofToken_of_isPositional (h : IsPositional token) : Part.ofToken token = .arg token := by
  rcases h with hhead | rfl | rfl | hdigit
  · unfold Part.ofToken
    split
    next => exact absurd rfl hhead
    next => exact absurd rfl hhead
    next => rfl
  · rfl
  · rfl
  · unfold Part.ofToken
    split
    next long => exact absurd (show '-'.isDigit = true from hdigit) (by decide)
    next c rest => exact if_pos hdigit
    next => rfl

end Readings

/-! ## What a part gives to a key -/

/-- What a part gives to a key of the options. -/
def Part.mention? (key : Text) : Part → Option OptionValue
  | .arg _ => none
  | .flags names => if names.contains key then some .flag else none
  | .option k value => if k = key then some (.value value) else none

theorem Part.mention?_flags (key : Text) (names : List Text) :
    (Part.flags names).mention? key = if key ∈ names then some .flag else none := by
  simp [mention?]

/-- The arguments of a part. -/
def Part.args : Part → List Text
  | .arg text => [text]
  | .flags _ => []
  | .option _ _ => []

/-- What a token mentions is what its part gives. -/
theorem mention?_ofToken {token key : Text} {x : OptionValue} :
    (Part.ofToken token).mention? key = some x ↔ Mentions token key x := by
  constructor
  · intro h
    rcases exists_shape token with hpositional | ⟨k, value, hk, rfl⟩ | ⟨k, hne, hk, rfl⟩ |
      ⟨c, rest, hdash, hdigit, rfl⟩
    · rw [ofToken_of_isPositional hpositional] at h
      cases h
    · rw [ofToken_option hk] at h
      simp only [Part.mention?, Option.ite_none_right_eq_some, Option.some.injEq] at h
      obtain ⟨rfl, rfl⟩ := h
      exact .option hk
    · rw [ofToken_long hne hk] at h
      simp only [Part.mention?_flags, List.mem_singleton, Option.ite_none_right_eq_some,
        Option.some.injEq] at h
      obtain ⟨rfl, rfl⟩ := h
      exact .long hne hk
    · rw [ofToken_short hdash hdigit] at h
      simp only [Part.mention?_flags, Option.ite_none_right_eq_some, Option.some.injEq,
        List.mem_map] at h
      obtain ⟨⟨d, hd, rfl⟩, rfl⟩ := h
      exact .short hdash hdigit hd
  · intro h
    cases h with
    | option hkey => simp [ofToken_option hkey, Part.mention?]
    | long hne hkey => simp [ofToken_long hne hkey, Part.mention?]
    | short hdash hdigit hmem =>
      rw [ofToken_short hdash hdigit, Part.mention?_flags]
      exact if_pos (List.mem_map_of_mem hmem)

theorem mention?_ofToken_eq_none {token key : Text} :
    (Part.ofToken token).mention? key = none ↔ ∀ x, ¬ Mentions token key x := by
  rw [Option.eq_none_iff_forall_ne_some]
  exact forall_congr' fun x => not_congr mention?_ofToken

/-- The arguments are the tokens that mention no key. -/
theorem isPositional_iff {token : Text} : IsPositional token ↔ ∀ key x, ¬ Mentions token key x := by
  constructor
  · intro h key
    rw [← mention?_ofToken_eq_none, ofToken_of_isPositional h]
    rfl
  · intro h
    rcases exists_shape token with hpositional | ⟨k, value, hk, rfl⟩ | ⟨k, hne, hk, rfl⟩ |
      ⟨c, rest, hdash, hdigit, rfl⟩
    · exact hpositional
    · exact absurd (.option hk) (h _ _)
    · exact absurd (.long hne hk) (h _ _)
    · exact absurd (.short hdash hdigit List.mem_cons_self) (h _ _)

theorem args_ofToken (token : Text) :
    (Part.ofToken token).args = if IsPositional token then [token] else [] := by
  by_cases h : IsPositional token
  · rw [if_pos h, ofToken_of_isPositional h]
    rfl
  · rw [if_neg h]
    obtain ⟨key, x, hmention⟩ : ∃ key x, Mentions token key x := by
      simpa [isPositional_iff] using h
    cases hmention with
    | option hkey => rw [ofToken_option hkey]; rfl
    | long hne hkey => rw [ofToken_long hne hkey]; rfl
    | short hdash hdigit hmem => rw [ofToken_short hdash hdigit]; rfl

end VirtualTerminal.Invocation
