import VirtualTerminal.Proofs.Command.Lookup

/-!
# Replacing commands

A command is refused for one of two reasons only, and then nothing changes. A command that is registered
takes its own name and the aliases it was given; the command that it replaces loses its other aliases,
and all other keys find what they found (`register_replaces`).
-/

namespace VirtualTerminal

namespace CommandTable

variable {β : Type u} {t t' : CommandTable β} {c : Command β}

/-! ## Refused commands -/

/-- Whether a table has to refuse a command: its name is blank, or one of its aliases is one of another
command. -/
def Refuses (t : CommandTable β) (c : Command β) : Prop :=
  Text.trim c.name = [] ∨
    ∃ a ∈ Command.normalizeAliases (Command.normalName c.name) c.aliases,
      ∃ owner, t.aliases.find? a = some owner ∧ owner ≠ Command.normalName c.name

theorem normalName_eq_nil_iff {s : Text} : Command.normalName s = [] ↔ Text.trim s = [] :=
  Text.lower_eq_nil_iff

theorem exists_owner_of_taken? {name a : Text} {aliases : List Text}
    (h : t.taken? name aliases = some a) :
    a ∈ aliases ∧ ∃ owner, t.aliases.find? a = some owner ∧ owner ≠ name := by
  unfold taken? at h
  have hother : (t.aliases.find? a).any (· ≠ name) = true :=
    List.find?_some (p := fun b => (t.aliases.find? b).any (· ≠ name)) h
  obtain ⟨owner, howner, hne⟩ := (Option.any_eq_true _ _).mp hother
  exact ⟨List.mem_of_find?_eq_some h, owner, howner, of_decide_eq_true hne⟩

theorem refuses_of_error {e : Error} (h : t.register c = .error e) : t.Refuses c := by
  unfold register at h
  dsimp only at h
  split at h
  next hname => exact .inl (normalName_eq_nil_iff.mp hname)
  next =>
    split at h
    next a htaken => exact .inr ⟨a, exists_owner_of_taken? htaken⟩
    next => cases h

theorem Registered.not_refuses (h : t.Registered c t') : ¬t.Refuses c := by
  rintro (hblank | ⟨a, ha, owner, howner, hne⟩)
  · exact h.name_ne_nil (normalName_eq_nil_iff.mpr hblank)
  · exact hne (h.free a ha owner howner)

/-! ## Registered commands -/

/-- An alias that is neither claimed by a registered command nor was one of the command that it
replaces has kept its owner. -/
theorem Registered.find?_alias (h : t.Registered c t') {a : Text}
    (ha : a ∉ Command.normalizeAliases (Command.normalName c.name) c.aliases)
    (hold : t.aliases.find? a ≠ some (Command.normalName c.name)) :
    t'.aliases.find? a = t.aliases.find? a := by
  ext n
  by_cases hn : Command.normalName c.name = n
  · subst hn
    refine iff_of_false (fun hfind => ?_) hold
    rw [h.aliases, if_neg ha] at hfind
    split at hfind
    · exact hold (Option.filter_eq_some_iff.mp hfind).1
    · exact hold hfind
  · exact h.kept hn ha

/-- An alias that the replaced command loses has no owner any more. -/
theorem Registered.find?_alias_eq_none (h : t.Registered c t') (ht : t.Coherent) {a : Text}
    (ha : a ∉ Command.normalizeAliases (Command.normalName c.name) c.aliases)
    (hold : t.aliases.find? a = some (Command.normalName c.name)) : t'.aliases.find? a = none := by
  rw [h.aliases, if_neg ha, if_pos (ht.owner _ _ hold), hold]
  simp

/-- What a key in lower case finds once a command has been registered. -/
theorem Registered.get?_of_lower (h : t.Registered c t') (ht : t.Coherent) {k : Text}
    (hk : k.lower = k) :
    t'.get? k =
      if k = Command.normalName c.name then some c
      else if t.commands.contains k then t.commands.find? k
      else if k ∈ Command.normalizeAliases (Command.normalName c.name) c.aliases then some c
      else if t.aliases.find? k = some (Command.normalName c.name) then none
      else t.get? k := by
  unfold get?
  rw [hk, h.commands]
  by_cases hname : k = Command.normalName c.name
  · rw [if_pos hname, if_pos hname.symm]
    rfl
  rw [if_neg hname, if_neg (Ne.symm hname)]
  unfold Table.contains
  cases hfind : t.commands.find? k with
  | some d => rfl
  | none =>
    show (t'.aliases.find? k).bind t'.commands.find? = _
    rw [if_neg (by simp)]
    split
    next hmem => rw [h.aliases, if_pos hmem, Option.bind_some, h.commands, if_pos rfl]
    next hmem =>
      split
      next hold => rw [h.find?_alias_eq_none ht hmem hold, Option.bind_none]
      next hold =>
        rw [h.find?_alias hmem hold]
        cases howner : t.aliases.find? k with
        | none => rfl
        | some n =>
          -- the owner is another command than the one registered
          have hne : Command.normalName c.name ≠ n := fun heq => hold (heq ▸ howner)
          show t'.commands.find? n = t.commands.find? n
          rw [h.commands, if_neg hne]

/-! ## Replacement -/

/-- However commands have been registered, one more is refused, and then leaves the table as it was,
exactly if its name is blank or it claims an alias of another command. Otherwise it is found under its
own name and, where no other command has them as names, under its aliases. The other names find their
commands as before, the aliases that the replaced command alone had find nothing, and all other keys
find what they found. -/
theorem register_replaces (changes : List (Change β)) (c : Command β) :
    let t := ofChanges changes
    let n := Command.normalName c.name
    let aliases := Command.normalizeAliases n c.aliases
    match t.register c with
    | .error _ => t.Refuses c ∧ t.change (.register c) = t
    | .ok t' => ¬t.Refuses c ∧ t.change (.register c) = t' ∧ ∀ k, k.lower = k →
        t'.get? k =
          if k = n then some c
          else if t.commands.contains k then t.commands.find? k
          else if k ∈ aliases then some c
          else if t.resolveAlias? k = some n then none
          else t.get? k := by
  intro t n aliases
  cases hc : t.register c with
  | error e =>
    refine ⟨refuses_of_error hc, ?_⟩
    show (t.register c).toOption.getD t = t
    rw [hc]
    rfl
  | ok t' =>
    have h := registered_of_register hc
    refine ⟨h.not_refuses, ?_, fun k hk => ?_⟩
    · show (t.register c).toOption.getD t = t'
      rw [hc]
      rfl
    · unfold resolveAlias?
      rw [hk]
      exact h.get?_of_lower (coherent_ofChanges changes) hk

end CommandTable

end VirtualTerminal
