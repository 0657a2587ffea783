import VirtualTerminal.Command.Body
import VirtualTerminal.Proofs.Command.Table
import VirtualTerminal.Proofs.Text.Lowercase

/-!
# Look-ups by names and aliases

A table keeps its commands by name and the owner of each alias apart from one another. Registering
commands keeps the two coherent (`Coherent.register`): every alias has an owner in the table, and the
aliases of a command are those that it was given. So a name is known exactly if a command is found
under it, and then that command is what runs (`lookups_agree`).
-/

namespace VirtualTerminal

theorem Command.lower_normalName (s : Text) : (normalName s).lower = normalName s :=
  Text.lower_lower _

theorem Command.normalName_normalName (s : Text) : normalName (normalName s) = normalName s := by
  have htrim : Text.trim (normalName s) = normalName s :=
    Text.trim_eq_self_of_lowerAscii_eq (Text.lowerAscii_lower (Text.trim s))
  show (Text.trim (normalName s)).lower = normalName s
  rw [htrim, lower_normalName]

/-- The aliases of a command are normal forms of others, and none is its name. -/
theorem Command.exists_of_mem_normalizeAliases {name a : Text} {aliases : List Text}
    (h : a ∈ normalizeAliases name aliases) : a ≠ name ∧ ∃ s, a = normalName s := by
  unfold normalizeAliases at h
  revert a
  refine List.foldlRecOn (motive := fun kept => ∀ {a}, a ∈ kept → a ≠ name ∧ ∃ s, a = normalName s)
    aliases _ ?_ ?_
  · exact fun h => nomatch h
  · intro kept hkept s _ a ha
    dsimp only at ha
    split at ha
    · exact hkept ha
    next hnew =>
      rcases List.mem_append.mp ha with ha | ha
      · exact hkept ha
      · rw [List.mem_singleton.mp ha]
        exact ⟨fun heq => hnew (.inr (.inl heq)), s, rfl⟩

namespace CommandTable

variable {β : Type u}

/-! ## Changes of a table -/

/-- A change of a table. -/
inductive Change (β : Type u) where
  | register (c : Command β)
  | registerMany (cs : List (Command β))
  | clear

/-- The table after a change. A command that is refused changes nothing, and of several commands
those before the first refused one are registered. -/
def change (t : CommandTable β) : Change β → CommandTable β
  | .register c => (t.register c).toOption.getD t
  | .registerMany cs => (registerMany cs t).2
  | .clear => {}

/-- The table that changes make of the empty one. -/
def ofChanges (changes : List (Change β)) : CommandTable β :=
  changes.foldl change {}

/-- The commands of a list that are registered: those before the first that is refused. -/
def admitted : List (Command β) → CommandTable β → List (Command β)
  | [], _ => []
  | c :: rest, t =>
    match t.register c with
    | .ok t => c :: admitted rest t
    | .error _ => []

/-- What has been registered since a table was last cleared, after a change of the table `t`. -/
def registeredAfter (t : CommandTable β) (past : List (Command β)) : Change β → List (Command β)
  | .register c => past ++ admitted [c] t
  | .registerMany cs => past ++ admitted cs t
  | .clear => []

/-- What has been registered since a table was last cleared, after changes of the table `t`. -/
def registrationsFrom (t : CommandTable β) (past : List (Command β)) :
    List (Change β) → List (Command β)
  | [] => past
  | step :: rest => registrationsFrom (t.change step) (t.registeredAfter past step) rest

/-- The commands that changes of the empty table have registered since it was last cleared, in the
order in which they were registered. -/
def registrations (changes : List (Change β)) : List (Command β) :=
  registrationsFrom {} [] changes

/-- The tables that registering commands one after the other makes of the empty one. -/
inductive Registers : List (Command β) → CommandTable β → Prop where
  | empty : Registers [] {}
  | register {past : List (Command β)} {t t' : CommandTable β} {c : Command β}
      (h : Registers past t) (hc : t.register c = .ok t') : Registers (past ++ [c]) t'

theorem Registers.registerMany {past : List (Command β)} {t : CommandTable β}
    (h : Registers past t) (cs : List (Command β)) :
    Registers (past ++ admitted cs t) (registerMany cs t).2 := by
  induction cs generalizing past t with
  | nil =>
    rw [show past ++ admitted [] t = past from List.append_nil past]
    exact h
  | cons c rest ih =>
    unfold admitted CommandTable.registerMany
    cases hc : t.register c with
    | ok t' =>
      rw [List.append_cons]
      exact ih (h.register hc)
    | error e =>
      rw [List.append_nil]
      exact h

theorem Registers.change {past : List (Command β)} {t : CommandTable β} (h : Registers past t)
    (step : Change β) : Registers (t.registeredAfter past step) (t.change step) := by
  cases step with
  | register c =>
    have hmany := h.registerMany [c]
    unfold CommandTable.registerMany at hmany
    show Registers (past ++ admitted [c] t) ((t.register c).toOption.getD t)
    cases hc : t.register c with
    | ok t' =>
      rw [hc] at hmany
      exact hmany
    | error e =>
      rw [hc] at hmany
      exact hmany
  | registerMany cs => exact h.registerMany cs
  | clear => exact .empty

theorem Registers.changes {past : List (Command β)} {t : CommandTable β} (h : Registers past t)
    (changes : List (Change β)) :
    Registers (t.registrationsFrom past changes) (changes.foldl CommandTable.change t) := by
  induction changes generalizing past t with
  | nil => exact h
  | cons step rest ih => exact ih (h.change step)

/-- However a table has been changed, it is made by the registrations since it was last cleared. -/
theorem registers_ofChanges (changes : List (Change β)) :
    Registers (registrations changes) (ofChanges changes) :=
  Registers.empty.changes changes

/-! ## Coherence -/

/-- Whether every alias has an owner in the table and every command the aliases it was given. -/
structure Coherent (t : CommandTable β) : Prop where
  owner : ∀ a n, t.aliases.find? a = some n → t.commands.contains n = true
  owned_iff : ∀ n c, t.commands.find? n = some c → ∀ a,
    t.aliases.find? a = some n ↔ a ∈ Command.normalizeAliases n c.aliases

variable {t t' : CommandTable β} {c : Command β}

theorem coherent_empty : ({} : CommandTable β).Coherent :=
  ⟨fun _ _ h => (nomatch h), fun _ _ h => (nomatch h)⟩

theorem Registered.contains (h : t.Registered c t') {n : Text}
    (hn : t.commands.contains n = true ∨ Command.normalName c.name = n) :
    t'.commands.contains n = true := by
  unfold Table.contains at hn ⊢
  rw [h.commands]
  split
  · rfl
  next hne => exact hn.resolve_right hne

/-- The owner of an alias that a registered command does not claim has kept it. -/
theorem Registered.kept (h : t.Registered c t') {a n : Text}
    (hn : Command.normalName c.name ≠ n)
    (ha : a ∉ Command.normalizeAliases (Command.normalName c.name) c.aliases) :
    t'.aliases.find? a = some n ↔ t.aliases.find? a = some n := by
  rw [h.aliases, if_neg ha]
  split
  · rw [Option.filter_eq_some_iff]
    exact ⟨And.left, fun hfind => ⟨hfind, decide_eq_true (Ne.symm hn)⟩⟩
  · exact Iff.rfl

theorem Coherent.register (ht : t.Coherent) (h : t.Registered c t') : t'.Coherent := by
  constructor
  · intro a n hfind
    by_cases ha : a ∈ Command.normalizeAliases (Command.normalName c.name) c.aliases
    · rw [h.aliases, if_pos ha] at hfind
      cases hfind
      exact h.contains (.inr rfl)
    · by_cases hn : Command.normalName c.name = n
      · exact h.contains (.inr hn)
      · exact h.contains (.inl (ht.owner a n ((h.kept hn ha).mp hfind)))
  · intro n d hd a
    rw [h.commands] at hd
    by_cases ha : a ∈ Command.normalizeAliases (Command.normalName c.name) c.aliases
    · have hfind : t'.aliases.find? a = some (Command.normalName c.name) := by
        rw [h.aliases, if_pos ha]
      rw [hfind]
      split at hd
      next hn =>
        cases hd
        subst hn
        exact iff_of_true rfl ha
      next hn =>
        -- an alias that was free is none of another command
        refine iff_of_false (fun heq => hn (Option.some.inj heq)) fun hmem => ?_
        exact hn (h.free a ha n ((ht.owned_iff n d hd a).mpr hmem)).symm
    · split at hd
      next hn =>
        cases hd
        subst hn
        refine iff_of_false (fun hfind => ?_) ha
        rw [h.aliases, if_neg ha] at hfind
        split at hfind
        · obtain ⟨-, hne⟩ := Option.filter_eq_some_iff.mp hfind
          exact of_decide_eq_true hne rfl
        next hnew => exact hnew (ht.owner _ _ hfind)
      next hn => rw [h.kept hn ha, ht.owned_iff n d hd a]

theorem Registers.coherent {past : List (Command β)} (h : Registers past t) : t.Coherent := by
  induction h with
  | empty => exact coherent_empty
  | register _ hc ih => exact ih.register (registered_of_register hc)

/-- A command is kept by its own name, in the form that look-ups use. -/
theorem Registers.normalName_eq {past : List (Command β)} (h : Registers past t) {n : Text}
    (hc : t.commands.find? n = some c) : Command.normalName c.name = n := by
  induction h with
  | empty => cases hc
  | register _ hd ih =>
    rw [(registered_of_register hd).commands] at hc
    split at hc
    next hname =>
      cases hc
      exact hname
    · exact ih hc

theorem coherent_ofChanges (changes : List (Change β)) : (ofChanges changes).Coherent :=
  (registers_ofChanges changes).coherent

/-! ## Look-ups -/

/-- A name is known exactly if a command is found under it. -/
theorem Coherent.has_eq_isSome_get? (ht : t.Coherent) (q : Text) :
    t.has q = (t.get? q).isSome := by
  unfold has get? Table.contains
  cases hname : t.commands.find? q.lower with
  | some c => rfl
  | none =>
    cases halias : t.aliases.find? q.lower with
    | none => rfl
    | some n => exact (ht.owner _ n halias).symm

/-- However commands have been registered, every alias has an owner in the table that is not called
so itself, and the aliases of a command are those that it was given, in the form that look-ups use.
So a name is known exactly if a command is found under it. Executing a known name runs that command,
and executing another one fails for want of a command. -/
theorem lookups_agree (changes : List (Change Body)) :
    let t := ofChanges changes
    (∀ a n, t.aliases.find? a = some n → t.commands.contains n = true ∧ a ≠ n) ∧
      (∀ n c, t.commands.find? n = some c → ∀ a,
        t.aliases.find? a = some n ↔ a ∈ Command.normalizeAliases n c.aliases) ∧
      ∀ q, (t.has q = true ↔ ∃ c, t.get? q = some c) ∧
        (t.has q = true → ∃ c, t.get? q = some c ∧ ∀ prompt i s, t.execute prompt q i s =
          c.body.run ⟨i, prompt, t.catalog, s.stage.timers.now, s.stage.registry.active.size⟩ s) ∧
        (t.has q = false → ∀ prompt i s, t.execute prompt q i s = (.error (.notFound q), s)) := by
  intro t
  have ht : t.Coherent := coherent_ofChanges changes
  refine ⟨fun a n hfind => ?_, ht.owned_iff, fun q => ?_⟩
  · have howner := ht.owner a n hfind
    obtain ⟨c, hc⟩ := Option.isSome_iff_exists.mp howner
    obtain ⟨hne, -⟩ := Command.exists_of_mem_normalizeAliases ((ht.owned_iff n c hc a).mp hfind)
    exact ⟨howner, hne⟩
  · rw [ht.has_eq_isSome_get?]
    unfold execute
    cases hget : t.get? q with
    | none => simp
    | some c => simp

end CommandTable

end VirtualTerminal
