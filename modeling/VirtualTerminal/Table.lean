import VirtualTerminal.Text.Basic

/-!
# Tables

A table maps texts to values. Its entries are kept in increasing order of their keys, so two tables
that answer every look-up alike are equal (`Table.ext_find?`).
-/

namespace VirtualTerminal

/-- Whether the keys of a list of entries strictly increase. -/
abbrev Increasing {α : Type u} (entries : List (Text × α)) : Prop :=
  entries.Pairwise fun a b => a.1 < b.1

/-- A finite map from texts, as its entries in increasing order of key. -/
@[ext]
structure Table (α : Type u) where
  entries : List (Text × α)
  increasing : Increasing entries

namespace Table

variable {α : Type u} {β : Type v}

instance [DecidableEq α] : DecidableEq (Table α) := fun a b =>
  decidable_of_iff (a.entries = b.entries) ⟨Table.ext, fun h => h ▸ rfl⟩

/-- The table without entries. -/
def empty : Table α :=
  ⟨[], .nil⟩

instance : Inhabited (Table α) :=
  ⟨empty⟩

/-- The value of the first entry with a key. -/
def lookup (k : Text) : List (Text × α) → Option α
  | [] => none
  | (j, a) :: rest => if j = k then some a else lookup k rest

/-- The entries with one more, or with one replaced. -/
def put (k : Text) (a : α) : List (Text × α) → List (Text × α)
  | [] => [(k, a)]
  | (j, b) :: rest =>
    if k < j then (k, a) :: (j, b) :: rest
    else if k = j then (k, a) :: rest
    else (j, b) :: put k a rest

theorem key_mem_put {k : Text} {a : α} {entries : List (Text × α)} {e : Text × α}
    (h : e ∈ put k a entries) : e.1 = k ∨ e ∈ entries := by
  induction entries with
  | nil => simp_all [put]
  | cons d rest ih =>
    obtain ⟨j, b⟩ := d
    simp only [put] at h
    split at h
    · rcases List.mem_cons.1 h with rfl | h
      · exact .inl rfl
      · exact .inr h
    · split at h
      · rcases List.mem_cons.1 h with rfl | h
        · exact .inl rfl
        · exact .inr (List.mem_cons_of_mem _ h)
      · rcases List.mem_cons.1 h with rfl | h
        · exact .inr List.mem_cons_self
        · exact (ih h).imp_right (List.mem_cons_of_mem _)

theorem increasing_put {k : Text} {a : α} {entries : List (Text × α)} (h : Increasing entries) :
    Increasing (put k a entries) := by
  induction entries with
  | nil => exact List.pairwise_singleton ..
  | cons d rest ih =>
    obtain ⟨j, b⟩ := d
    obtain ⟨hj, hrest⟩ := List.pairwise_cons.1 h
    simp only [put]
    split
    next hlt =>
      refine List.pairwise_cons.2 ⟨fun e he => ?_, h⟩
      rcases List.mem_cons.1 he with rfl | he
      · exact hlt
      · exact List.lt_trans hlt (hj e he)
    next hlt =>
      split
      next heq => exact List.pairwise_cons.2 ⟨fun e he => heq ▸ hj e he, hrest⟩
      next hne =>
        refine List.pairwise_cons.2 ⟨fun e he => ?_, ih hrest⟩
        rcases key_mem_put he with rfl | he
        · exact (List.le_iff_lt_or_eq.1 (List.not_lt.1 hlt)).resolve_right fun heq => hne heq.symm
        · exact hj e he

/-- The value of a key. -/
def find? (t : Table α) (k : Text) : Option α :=
  lookup k t.entries

/-- Whether a key has a value. -/
def contains (t : Table α) (k : Text) : Bool :=
  (t.find? k).isSome

/-- The table in which a key has a given value and all other keys what they had. -/
def insert (t : Table α) (k : Text) (a : α) : Table α :=
  ⟨put k a t.entries, increasing_put t.increasing⟩

/-- The table of the entries that pass a test. -/
def filter (t : Table α) (p : Text → α → Bool) : Table α :=
  ⟨t.entries.filter fun e => p e.1 e.2, List.Pairwise.filter _ t.increasing⟩

/-- The table without a key. -/
def erase (t : Table α) (k : Text) : Table α :=
  t.filter fun j _ => j ≠ k

/-- The table with every value replaced by its image. -/
def map (f : α → β) (t : Table α) : Table β :=
  ⟨t.entries.map fun e => (e.1, f e.2), List.pairwise_map.2 t.increasing⟩

/-- The keys, in increasing order. -/
def keys (t : Table α) : List Text :=
  t.entries.map (·.1)

/-- The number of keys. -/
def size (t : Table α) : Nat :=
  t.entries.length

/-- The table of a list of entries, of which a later one replaces an earlier one. -/
def ofList (entries : List (Text × α)) : Table α :=
  entries.foldl (fun t e => t.insert e.1 e.2) empty

theorem lookup_put (k j : Text) (a : α) (entries : List (Text × α)) :
    lookup j (put k a entries) = if k = j then some a else lookup j entries := by
  induction entries with
  | nil => rfl
  | cons e rest ih =>
    obtain ⟨i, b⟩ := e
    simp only [put]
    split
    · rfl
    · split
      next h => subst h; by_cases hj : k = j <;> simp [lookup, hj]
      next h => by_cases hi : i = j <;> simp_all [lookup]

theorem mem_of_lookup {k : Text} {a : α} {entries : List (Text × α)}
    (h : lookup k entries = some a) : (k, a) ∈ entries := by
  induction entries with
  | nil => simp [lookup] at h
  | cons e rest ih =>
    obtain ⟨j, b⟩ := e
    by_cases hj : j = k
    · simp_all [lookup]
    · exact List.mem_cons_of_mem _ (ih (by simpa [lookup, hj] using h))

theorem lookup_of_mem {k : Text} {a : α} {entries : List (Text × α)} (hs : Increasing entries)
    (h : (k, a) ∈ entries) : lookup k entries = some a := by
  induction entries with
  | nil => simp at h
  | cons e rest ih =>
    obtain ⟨j, b⟩ := e
    obtain ⟨hj, hrest⟩ := List.pairwise_cons.1 hs
    rcases List.mem_cons.1 h with h | h
    · simp only [Prod.mk.injEq] at h
      simp [lookup, h.1, h.2]
    · have hne : j ≠ k := fun heq => List.lt_irrefl k (heq ▸ hj _ h)
      simpa [lookup, hne] using ih hrest h

@[simp] theorem find?_empty (k : Text) : (empty : Table α).find? k = none := rfl

theorem find?_insert (t : Table α) (k j : Text) (a : α) :
    (t.insert k a).find? j = if k = j then some a else t.find? j :=
  lookup_put k j a t.entries

theorem find?_foldl_insert (t : Table α) (keys : List Text) (a : α) (k : Text) :
    (keys.foldl (fun t j => t.insert j a) t).find? k =
      if k ∈ keys then some a else t.find? k := by
  induction keys generalizing t with
  | nil => rfl
  | cons j keys ih =>
    rw [List.foldl_cons, ih, find?_insert]
    by_cases hj : j = k
    · simp [hj]
    · simp [hj, Ne.symm hj]

theorem find?_eq_some_iff (t : Table α) (k : Text) (a : α) :
    t.find? k = some a ↔ (k, a) ∈ t.entries :=
  ⟨mem_of_lookup, lookup_of_mem t.increasing⟩

theorem find?_filter (t : Table α) (p : Text → α → Bool) (k : Text) :
    (t.filter p).find? k = (t.find? k).filter (p k) := by
  ext a
  rw [find?_eq_some_iff, Option.filter_eq_some_iff, find?_eq_some_iff]
  exact List.mem_filter

theorem find?_erase (t : Table α) (k j : Text) :
    (t.erase k).find? j = if j = k then none else t.find? j := by
  unfold erase
  rw [find?_filter]
  by_cases hjk : j = k
  · simp [hjk]
  · cases t.find? j <;> simp [hjk]

theorem mem_keys_iff (t : Table α) (k : Text) : k ∈ t.keys ↔ (t.find? k).isSome := by
  rw [Option.isSome_iff_exists]
  constructor
  · intro h
    obtain ⟨⟨j, a⟩, he, rfl⟩ := List.mem_map.1 h
    exact ⟨a, (t.find?_eq_some_iff j a).2 he⟩
  · rintro ⟨a, h⟩
    exact List.mem_map.2 ⟨_, (t.find?_eq_some_iff k a).1 h, rfl⟩

/-- Lists of entries in increasing order of key with the same members are equal. -/
theorem eq_of_mem_iff {xs ys : List (Text × α)} (hx : Increasing xs) (hy : Increasing ys)
    (h : ∀ e, e ∈ xs ↔ e ∈ ys) : xs = ys := by
  induction xs generalizing ys with
  | nil =>
    cases ys with
    | nil => rfl
    | cons y ys => exact absurd ((h y).2 List.mem_cons_self) (by simp)
  | cons x xs ih =>
    cases ys with
    | nil => exact absurd ((h x).1 List.mem_cons_self) (by simp)
    | cons y ys =>
      obtain ⟨hx', hxs⟩ := List.pairwise_cons.1 hx
      obtain ⟨hy', hys⟩ := List.pairwise_cons.1 hy
      have hxy : x = y := by
        rcases List.mem_cons.1 ((h x).1 List.mem_cons_self) with hx | hx
        · exact hx
        · rcases List.mem_cons.1 ((h y).2 List.mem_cons_self) with hy | hy
          · exact hy.symm
          · exact absurd (List.lt_trans (hx' y hy) (hy' x hx)) (List.lt_irrefl _)
      subst hxy
      congr 1
      refine ih hxs hys fun e => ⟨fun he => ?_, fun he => ?_⟩
      · rcases List.mem_cons.1 ((h e).1 (List.mem_cons_of_mem _ he)) with rfl | h'
        · exact absurd (hx' _ he) (List.lt_irrefl _)
        · exact h'
      · rcases List.mem_cons.1 ((h e).2 (List.mem_cons_of_mem _ he)) with rfl | h'
        · exact absurd (hy' _ he) (List.lt_irrefl _)
        · exact h'

/-- Tables that answer every look-up alike are equal. -/
theorem ext_find? {s t : Table α} (h : ∀ k, s.find? k = t.find? k) : s = t :=
  Table.ext <| eq_of_mem_iff s.increasing t.increasing fun ⟨k, a⟩ => by
    rw [← find?_eq_some_iff, ← find?_eq_some_iff, h]

theorem find?_foldl_insert_entries {entries : List (Text × α)} (h : Increasing entries) (t : Table α)
    (k : Text) :
    (entries.foldl (fun t e => t.insert e.1 e.2) t).find? k = (lookup k entries).or (t.find? k) := by
  induction entries generalizing t with
  | nil => rfl
  | cons e rest ih =>
    obtain ⟨j, a⟩ := e
    obtain ⟨hj, hrest⟩ := List.pairwise_cons.1 h
    rw [List.foldl_cons, ih hrest, find?_insert, lookup]
    by_cases hk : j = k
    · subst hk
      have hnone : lookup j rest = none := by
        rw [Option.eq_none_iff_forall_ne_some]
        intro b hb
        exact List.lt_irrefl j (hj _ (mem_of_lookup hb))
      simp [hnone]
    · simp [hk]

/-- A table is that of its entries. -/
theorem ofList_entries (t : Table α) : ofList t.entries = t := by
  refine ext_find? fun k => ?_
  unfold ofList
  rw [find?_foldl_insert_entries t.increasing, find?_empty, Option.or_none]
  rfl

theorem nodup_keys (t : Table α) : t.keys.Nodup :=
  List.pairwise_map.mpr (t.increasing.imp fun {d e} (hlt : d.1 < e.1) (heq : d.1 = e.1) =>
    List.lt_irrefl e.1 (heq ▸ hlt : e.1 < e.1))

theorem nodup_entries (t : Table α) : t.entries.Nodup :=
  (List.pairwise_map.mp t.nodup_keys).imp fun hkey heq => hkey (congrArg (·.1) heq)

/-- Erasing a key takes its entry away. -/
theorem perm_erase (t : Table α) (k : Text) :
    t.entries.Perm ((t.find? k).toList.map (k, ·) ++ (t.erase k).entries) := by
  have hold : (t.erase k).find? k = none := by
    rw [find?_erase, if_pos rfl]
  have hnodup : ((t.find? k).toList.map (k, ·) ++ (t.erase k).entries).Nodup := by
    cases t.find? k with
    | none => exact nodup_entries _
    | some a =>
      refine List.nodup_cons.mpr ⟨fun hmem => ?_, nodup_entries _⟩
      rw [(find?_eq_some_iff _ _ _).mpr hmem] at hold
      cases hold
  refine (List.perm_ext_iff_of_nodup (nodup_entries _) hnodup).mpr fun ⟨j, b⟩ => ?_
  rw [List.mem_append, ← find?_eq_some_iff, ← find?_eq_some_iff, find?_erase]
  by_cases hj : j = k
  · cases hfind : t.find? k <;> simp [hj, hfind, eq_comm]
  · simp [hj, Ne.symm hj]

theorem erase_insert (t : Table α) (k : Text) (a : α) : (t.insert k a).erase k = t.erase k := by
  refine ext_find? fun j => ?_
  rw [find?_erase, find?_erase, find?_insert]
  split
  · rfl
  next hj => rw [if_neg (Ne.symm hj)]

/-- Putting a value into a table replaces the entry of its key. -/
theorem perm_insert (t : Table α) (k : Text) (a : α) :
    (t.insert k a).entries.Perm ((k, a) :: (t.erase k).entries) := by
  have herase := perm_erase (t.insert k a) k
  rwa [find?_insert, if_pos rfl, erase_insert] at herase

end Table

end VirtualTerminal
