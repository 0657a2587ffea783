import Mathlib.Tactic.Common
import VirtualTerminal.Transcript.Operation

/-!
# Regions do not interfere

All entries of a transcript are in one list, yet what is done to a region depends on nothing but that
region. The view of a region is the transcript without all else (`only`). An operation acts on the view as
it acts on the transcript, if it is on the region, and not at all otherwise (`only_perform`); so what is
answered about a region can be told from the operations on it and those that clear
(`regions_do_not_interfere`). The lines that never change have a view of their own (`still`).
-/

namespace VirtualTerminal

/-- Whether an entry is a line that never changes. -/
def Entry.isLine : Entry → Bool
  | .line _ => true
  | .region _ _ => false

namespace Transcript

variable {id id' : Text}

/-! ## Views -/

/-- The region with an id and nothing else. -/
def only (id : Text) (t : Transcript) : Transcript :=
  t.filter (·.isRegion id)

/-- The lines that never change and nothing else. -/
def still (t : Transcript) : Transcript :=
  t.filter Entry.isLine

theorem not_isRegion_of_ne (hne : id' ≠ id) {e : Entry} (h : e.isRegion id' = true) :
    e.isRegion id = false := by
  cases e with
  | line l => rfl
  | region i ls =>
    obtain rfl : i = id' := of_decide_eq_true h
    exact decide_eq_false hne

theorem isLine_eq_false {e : Entry} (h : e.isRegion id = true) : e.isLine = false := by
  cases e with
  | line l => cases h
  | region i ls => rfl

theorem isRegion_region (id : Text) (ls : List Line) : (Entry.region id ls).isRegion id = true :=
  decide_eq_true rfl

theorem only_append (t u : Transcript) : only id (t ++ u) = t.only id ++ u.only id :=
  List.filter_append ..

theorem only_extend (t : Transcript) (ls : List Line) : (t.extend ls).only id = t.only id := by
  have hnone : only id (ls.map .line) = [] :=
    List.filter_eq_nil_iff.mpr (List.forall_mem_map.mpr fun _ _ => Bool.false_ne_true)
  unfold extend
  rw [only_append, hnone, List.append_nil]

theorem hasRegion_only (t : Transcript) : (t.only id).hasRegion id = t.hasRegion id := by
  unfold hasRegion only
  rw [List.any_filter]
  simp only [Bool.and_self]

theorem find?_only (t : Transcript) :
    (t.only id).find? (·.isRegion id) = t.find? (·.isRegion id) := by
  unfold only
  rw [List.find?_filter]
  simp only [Bool.decide_and, Bool.decide_eq_true, Bool.and_self]

theorem only_openRegion (t : Transcript) (id : Text) :
    (t.openRegion id).only id = (t.only id).openRegion id := by
  have hnew : only id [.region id []] = [.region id []] :=
    List.filter_cons_of_pos (isRegion_region id [])
  unfold openRegion
  rw [hasRegion_only]
  split
  · rfl
  · rw [only_append, hnew]

theorem only_updateRegion (id : Text) (ls : List Line) (t : Transcript) :
    (t.updateRegion id ls).only id = (t.only id).updateRegion id ls := by
  unfold only
  induction t with
  | nil => rfl
  | cons e rest ih =>
    cases he : e.isRegion id with
    | true =>
      rw [updateRegion, if_pos he, List.filter_cons_of_pos he,
        List.filter_cons_of_pos (isRegion_region id ls), updateRegion, if_pos he]
    | false =>
      have hnot : ¬ e.isRegion id = true := Bool.eq_false_iff.mp he
      rw [updateRegion, if_neg hnot, List.filter_cons_of_neg hnot, List.filter_cons_of_neg hnot, ih]

/-- What keeps no region with an id keeps nothing of an update of it. -/
theorem filter_updateRegion {p : Entry → Bool} (hp : ∀ e : Entry, e.isRegion id = true → p e = false)
    (ls : List Line) (t : Transcript) : (t.updateRegion id ls).filter p = t.filter p := by
  induction t with
  | nil => rfl
  | cons e rest ih =>
    unfold updateRegion
    split
    next he =>
      rw [List.filter_cons_of_neg (Bool.eq_false_iff.mp (hp _ (isRegion_region id ls))),
        List.filter_cons_of_neg (Bool.eq_false_iff.mp (hp e he))]
    next => rw [List.filter_cons, List.filter_cons, ih]

theorem filter_removeRegion {p : Entry → Bool} (hp : ∀ e : Entry, e.isRegion id = true → p e = false)
    (t : Transcript) : (t.removeRegion id).filter p = t.filter p := by
  unfold removeRegion
  rw [List.filter_filter]
  refine List.filter_congr fun e _ => ?_
  cases he : e.isRegion id with
  | true => rw [hp e he, Bool.false_and]
  | false => rw [Bool.not_false, Bool.and_true]

theorem filter_openRegion {p : Entry → Bool} (hp : ∀ e : Entry, e.isRegion id = true → p e = false)
    (t : Transcript) : (t.openRegion id).filter p = t.filter p := by
  unfold openRegion
  split
  · rfl
  · rw [List.filter_append,
      List.filter_cons_of_neg (Bool.eq_false_iff.mp (hp _ (isRegion_region id [])))]
    exact List.append_nil _

theorem only_removeRegion (t : Transcript) (id : Text) :
    (t.removeRegion id).only id = (t.only id).removeRegion id := by
  unfold only removeRegion
  rw [List.filter_filter, List.filter_filter]
  simp only [Bool.and_comm]

/-- A region is opened in its view only if that is empty. -/
theorem length_openRegion_only_le {t : Transcript} (ht : (t.only id).length ≤ 1) :
    ((t.only id).openRegion id).length ≤ 1 := by
  unfold openRegion
  split
  · exact ht
  next hnone =>
    have hempty : t.only id = [] := by
      refine List.eq_nil_iff_forall_not_mem.mpr fun e he => hnone ?_
      exact List.any_eq_true.mpr ⟨e, he, (List.mem_filter.mp he).2⟩
    rw [hempty]
    exact Nat.le_refl 1

/-- A removal shortens a transcript if there is something to remove. -/
theorem length_removeRegion_bne (t : Transcript) (id : Text) :
    ((t.removeRegion id).length != t.length) = t.hasRegion id := by
  unfold removeRegion hasRegion
  rw [Bool.eq_iff_iff, bne_iff_ne, ne_eq, List.length_filter_eq_length_iff, List.any_eq_true]
  simp

/-! ## Runs -/

namespace Op

/-- The id of the region that an operation is on. -/
def region? : Op → Option Text
  | openRegion id => some id
  | updateRegion id _ => some id
  | removeRegion id => some id
  | hasRegion id => some id
  | region id => some id
  | _ => none

/-- Whether an operation is on the region with an id, or on all entries. -/
def concerns (id : Text) (op : Op) : Bool :=
  op = clear || op.region? = some id

end Op

/-- The transcript after operations. -/
def performAll (t : Transcript) (ops : List Op) : Transcript :=
  ops.foldl (fun t op => (op.perform t).2) t

/-- The operations on the region with an id, each with its answer. -/
def answersOn (id : Text) (t : Transcript) : List Op → List (Op × Reply)
  | [] => []
  | op :: ops =>
    if op.region? = some id then (op, (op.perform t).1) :: answersOn id (op.perform t).2 ops
    else answersOn id (op.perform t).2 ops

namespace Op

variable {op : Op}

/-- An operation on a region leaves everything else alone. -/
theorem filter_perform (hop : op.region? = some id) {p : Entry → Bool}
    (hp : ∀ e : Entry, e.isRegion id = true → p e = false) (t : Transcript) :
    (op.perform t).2.filter p = t.filter p := by
  cases op with
  | openRegion i =>
    cases hop
    exact filter_openRegion hp t
  | updateRegion i ls =>
    cases hop
    exact filter_updateRegion hp ls t
  | removeRegion i =>
    cases hop
    exact filter_removeRegion hp t
  | hasRegion i => rfl
  | region i => rfl
  | push l => cases hop
  | extend ls => cases hop
  | clear => cases hop

/-- An operation on a region does to its view what it does to the transcript. -/
theorem only_perform_own (hop : op.region? = some id) (t : Transcript) :
    (op.perform t).2.only id = (op.perform (t.only id)).2 := by
  cases op with
  | openRegion i =>
    cases hop
    exact only_openRegion t id
  | updateRegion i ls =>
    cases hop
    exact only_updateRegion id ls t
  | removeRegion i =>
    cases hop
    exact only_removeRegion t id
  | hasRegion i => rfl
  | region i => rfl
  | push l => cases hop
  | extend ls => cases hop
  | clear => cases hop

/-- The answer to an operation on a region can be told from the view. -/
theorem reply_perform (hop : op.region? = some id) (t : Transcript) :
    (op.perform t).1 = (op.perform (t.only id)).1 := by
  cases op with
  | openRegion i => rfl
  | updateRegion i ls =>
    cases hop
    exact congrArg (fun found => Reply.flag (Option.isSome found)) (find?_only t).symm
  | removeRegion i =>
    cases hop
    show Reply.flag _ = Reply.flag _
    rw [length_removeRegion_bne, length_removeRegion_bne, hasRegion_only]
  | hasRegion i =>
    cases hop
    exact congrArg Reply.flag (hasRegion_only t).symm
  | region i =>
    cases hop
    exact congrArg (fun found => Reply.lines (Option.map Entry.lines found)) (find?_only t).symm
  | push l => cases hop
  | extend ls => cases hop
  | clear => cases hop

theorem concerns_iff : op.concerns id = true ↔ op = .clear ∨ op.region? = some id := by
  unfold concerns
  rw [Bool.or_eq_true, decide_eq_true_iff, decide_eq_true_iff]

/-- An operation that concerns a region does to its view what it does to the transcript, and all others
leave the view alone. -/
theorem only_perform (op : Op) (id : Text) (t : Transcript) :
    (op.perform t).2.only id = if op.concerns id then (op.perform (t.only id)).2 else t.only id := by
  by_cases hown : op.region? = some id
  · rw [if_pos (concerns_iff.mpr (.inr hown))]
    exact only_perform_own hown t
  · cases hop : op.region? with
    | some i =>
      have hne : i ≠ id := fun heq => hown (heq ▸ hop)
      have hnot : ¬ op.concerns id = true := by
        rw [concerns_iff]
        rintro (rfl | h)
        · cases hop
        · exact hown h
      rw [if_neg hnot]
      exact filter_perform hop (fun _ => not_isRegion_of_ne hne) t
    | none =>
      cases op with
      | push l => exact only_extend t [l]
      | extend ls => exact only_extend t ls
      | clear => rfl
      | _ => cases hop

/-- An operation on a region leaves the lines alone that never change, and all others do to them what they
do to the transcript. -/
theorem still_perform (op : Op) (t : Transcript) :
    (op.perform t).2.still = if op.region? = none then (op.perform t.still).2 else t.still := by
  cases hop : op.region? with
  | some i => exact filter_perform hop (fun _ => isLine_eq_false) t
  | none =>
    cases op with
    | push l => exact List.filter_append ..
    | extend ls =>
      have hall : still (ls.map .line) = ls.map .line :=
        List.filter_eq_self.mpr (List.forall_mem_map.mpr fun _ _ => rfl)
      exact (List.filter_append ..).trans (congrArg (t.still ++ ·) hall)
    | clear => rfl
    | _ => cases hop

/-- An operation opens no second region with an id. -/
theorem length_only_perform_le {t : Transcript} (ht : (t.only id).length ≤ 1) (op : Op) :
    ((op.perform t).2.only id).length ≤ 1 := by
  rw [only_perform]
  split
  next hconcerns =>
    rcases concerns_iff.mp hconcerns with rfl | hop
    · exact Nat.zero_le _
    · cases op with
      | openRegion i =>
        cases hop
        exact length_openRegion_only_le ht
      | updateRegion i ls => exact Nat.le_trans (Nat.le_of_eq (length_updateRegion i ls _)) ht
      | removeRegion i => exact Nat.le_trans (List.length_filter_le ..) ht
      | hasRegion i => exact ht
      | region i => exact ht
      | _ => cases hop
  next => exact ht

end Op

theorem length_only_performAll_le {t : Transcript} (ht : (t.only id).length ≤ 1) (ops : List Op) :
    ((t.performAll ops).only id).length ≤ 1 :=
  List.foldlRecOn (motive := fun t : Transcript => (t.only id).length ≤ 1) ops _ ht
    fun _ ht op _ => op.length_only_perform_le ht

/-- The operations that concern a region lead to the same answers on the view of it as all operations on the
whole transcript. -/
theorem answersOn_eq (id : Text) (t : Transcript) (ops : List Op) :
    answersOn id t ops = answersOn id (t.only id) (ops.filter (·.concerns id)) := by
  induction ops generalizing t with
  | nil => rfl
  | cons op ops ih =>
    by_cases hown : op.region? = some id
    · have hconcerns : op.concerns id = true := Op.concerns_iff.mpr (.inr hown)
      rw [List.filter_cons_of_pos hconcerns, answersOn, answersOn, if_pos hown, if_pos hown, ih,
        op.only_perform, if_pos hconcerns, op.reply_perform hown]
    · rw [answersOn, if_neg hown, ih, op.only_perform]
      split
      next hconcerns => rw [List.filter_cons_of_pos hconcerns, answersOn, if_neg hown]
      next hnot => rw [List.filter_cons_of_neg hnot]

/-- The lines that never change are what operations on no region lead to. -/
theorem still_performAll (t : Transcript) (ops : List Op) :
    (t.performAll ops).still = t.still.performAll (ops.filter (·.region? = none)) := by
  unfold performAll
  induction ops generalizing t with
  | nil => rfl
  | cons op ops ih =>
    rw [List.foldl_cons, ih, op.still_perform]
    by_cases hop : op.region? = none
    · rw [if_pos hop, List.filter_cons_of_pos (by simp [hop]), List.foldl_cons]
    · rw [if_neg hop, List.filter_cons_of_neg (by simp [hop])]

/-- Regions do not interfere. After any operations on an empty transcript at most one region has an id. The
operations on this region get the answers that they would get if there were no others but those that
clear. And without its regions the transcript is the one that is left if nothing is done to any region. -/
theorem regions_do_not_interfere (ops : List Op) (id : Text) :
    ((performAll [] ops).filter (·.isRegion id)).length ≤ 1 ∧
      answersOn id [] ops = answersOn id [] (ops.filter (·.concerns id)) ∧
      (performAll [] ops).filter Entry.isLine = performAll [] (ops.filter (·.region? = none)) :=
  ⟨length_only_performAll_le (Nat.zero_le _) ops, answersOn_eq id [] ops, still_performAll [] ops⟩

end Transcript

end VirtualTerminal
