import VirtualTerminal.Command.Table

/-!
# The commands of a table

All that registering a command changes is said by one lemma (`registered_of_register`). What holds
of every command that is registered holds of every command that a table finds, by its name or by an
alias (`Each.registerMany`, `Each.get?`).
-/

namespace VirtualTerminal.CommandTable

variable {β : Type u}

/-! ## Registering -/

/-- What a table `t` has become by registering a command `c`. -/
structure Registered (t : CommandTable β) (c : Command β) (t' : CommandTable β) : Prop where
  name_ne_nil : Command.normalName c.name ≠ []
  /-- No other command had one of the aliases. -/
  free : ∀ a ∈ Command.normalizeAliases (Command.normalName c.name) c.aliases,
    ∀ owner, t.aliases.find? a = some owner → owner = Command.normalName c.name
  commands : ∀ n, t'.commands.find? n =
    if Command.normalName c.name = n then some c else t.commands.find? n
  /-- A command that is replaced loses its aliases. -/
  aliases : ∀ a, t'.aliases.find? a =
    if a ∈ Command.normalizeAliases (Command.normalName c.name) c.aliases then
      some (Command.normalName c.name)
    else if t.commands.contains (Command.normalName c.name) then
      (t.aliases.find? a).filter (· ≠ Command.normalName c.name)
    else t.aliases.find? a

theorem registered_of_register {t t' : CommandTable β} {c : Command β}
    (h : t.register c = .ok t') : t.Registered c t' := by
  unfold register at h
  dsimp only at h
  split at h
  · cases h
  next hname =>
    split at h
    · cases h
    next htaken =>
      cases h
      refine ⟨hname, ?_, ?_, ?_⟩
      · intro a ha owner howner
        have hnot := List.find?_eq_none.mp htaken a ha
        rw [howner] at hnot
        simpa using hnot
      · intro n
        have hcommands : (if t.commands.contains (Command.normalName c.name) = true
            then t.unlink (Command.normalName c.name) else t).commands = t.commands := by
          split <;> rfl
        rw [hcommands, Table.find?_insert]
      · intro a
        dsimp only
        rw [Table.find?_foldl_insert]
        split
        · rfl
        · split
          · exact Table.find?_filter _ _ _
          · rfl

/-! ## Properties of all commands -/

section Each

variable {P : Command β → Prop}

/-- Whether every command that a look-up finds has a property. -/
def Each (P : Command β → Prop) (t : CommandTable β) : Prop :=
  ∀ name c, t.commands.find? name = some c → P c

theorem Each.get? {t : CommandTable β} (ht : t.Each P) {name : Text} {c : Command β}
    (h : t.get? name = some c) : P c := by
  unfold CommandTable.get? at h
  cases hfind : t.commands.find? name.lower with
  | some d =>
    rw [hfind] at h
    cases h
    exact ht _ _ hfind
  | none =>
    rw [hfind] at h
    obtain ⟨owner, -, hc⟩ := Option.bind_eq_some_iff.mp h
    exact ht _ _ hc

theorem Each.register {t t' : CommandTable β} (ht : t.Each P) {c : Command β} (hc : P c)
    (h : t.register c = .ok t') : t'.Each P := by
  intro name d hd
  rw [(registered_of_register h).commands] at hd
  split at hd
  · cases hd
    exact hc
  · exact ht _ _ hd

theorem Each.registerMany {cs : List (Command β)} {t : CommandTable β} (ht : t.Each P)
    (hcs : ∀ c ∈ cs, P c) : (registerMany cs t).2.Each P := by
  induction cs generalizing t with
  | nil => exact ht
  | cons c rest ih =>
    unfold CommandTable.registerMany
    cases h : t.register c with
    | ok t' =>
      exact ih (ht.register (hcs c List.mem_cons_self) h)
        fun d hd => hcs d (List.mem_cons_of_mem _ hd)
    | error e => exact ht

end Each

end VirtualTerminal.CommandTable
