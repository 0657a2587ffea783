import Mathlib.Data.List.Basic
import VirtualTerminal.Text.Utf8

/-!
# The order of texts is that of their bytes

Texts are compared character by character. Their UTF-8 forms, compared byte by byte, stand in the same
order (`encode_lt_of_lt`): of two characters the smaller one is told by the first byte in which they
differ, and no character ends where another one goes on (`below_encodeChar`).
-/

namespace VirtualTerminal.Text

/-- Whether bytes are smaller than others at the first place where they differ, which both have. -/
inductive Below : List UInt8 → List UInt8 → Prop where
  | head {a b : UInt8} (h : a < b) (xs ys : List UInt8) : Below (a :: xs) (b :: ys)
  | tail (a : UInt8) {xs ys : List UInt8} (h : Below xs ys) : Below (a :: xs) (a :: ys)

/-- Whatever follows, what is below stays smaller. -/
theorem Below.append_lt {xs ys : List UInt8} (h : Below xs ys) (us vs : List UInt8) :
    xs ++ us < ys ++ vs := by
  induction h with
  | head hlt => exact List.cons_lt_cons_iff.mpr (.inl hlt)
  | tail a _ ih => exact List.cons_lt_cons_iff.mpr (.inr ⟨rfl, ih⟩)

/-- Bytes are below others if the first one is smaller. -/
theorem below_of_lt {m n : Nat} (hn : n < 256) (hlt : m < n) (xs ys : List UInt8) :
    Below (m.toUInt8 :: xs) (n.toUInt8 :: ys) := by
  refine .head (UInt8.lt_iff_toNat_lt.mpr ?_) xs ys
  show m % 256 < n % 256
  rwa [Nat.mod_eq_of_lt (Nat.lt_trans hlt hn), Nat.mod_eq_of_lt hn]

/-- If the first byte may also be the same, those after it must be below the others. -/
theorem below_of_le {m n : Nat} (hn : n < 256) (hle : m ≤ n) {xs ys : List UInt8}
    (heq : m = n → Below xs ys) : Below (m.toUInt8 :: xs) (n.toUInt8 :: ys) := by
  rcases Nat.lt_or_eq_of_le hle with hlt | rfl
  · exact below_of_lt hn hlt xs ys
  · exact .tail _ (heq rfl)

/-- The bytes of a character are below those of a greater one. -/
theorem below_encodeChar {c d : Char} (h : c < d) : Below (encodeChar c) (encodeChar d) := by
  have hlt : c.toNat < d.toNat := h
  have hd : d.toNat < 0x110000 := by
    rcases d.valid with hd | ⟨-, hd⟩
    · exact Nat.lt_trans hd (by decide)
    · exact hd
  unfold encodeChar
  generalize c.toNat = m at hlt ⊢
  generalize d.toNat = n at hlt hd ⊢
  dsimp only
  -- a longer form starts with a greater byte; forms of one length are compared byte by byte
  split
  · split
    · exact below_of_lt (by omega) (by omega) _ _
    · split
      · exact below_of_lt (by omega) (by omega) _ _
      · split
        · exact below_of_lt (by omega) (by omega) _ _
        · exact below_of_lt (by omega) (by omega) _ _
  · rw [if_neg (by omega : ¬ n < 0x80)]
    split
    · split
      · exact below_of_le (by omega) (by omega) fun _ =>
          below_of_lt (by omega) (by omega) _ _
      · split
        · exact below_of_lt (by omega) (by omega) _ _
        · exact below_of_lt (by omega) (by omega) _ _
    · rw [if_neg (by omega : ¬ n < 0x800)]
      split
      · split
        · exact below_of_le (by omega) (by omega) fun _ =>
            below_of_le (by omega) (by omega) fun _ => below_of_lt (by omega) (by omega) _ _
        · exact below_of_lt (by omega) (by omega) _ _
      · rw [if_neg (by omega : ¬ n < 0x10000)]
        exact below_of_le (by omega) (by omega) fun _ =>
          below_of_le (by omega) (by omega) fun _ =>
            below_of_le (by omega) (by omega) fun _ => below_of_lt (by omega) (by omega) _ _

theorem encode_cons (c : Char) (s : Text) : encode (c :: s) = encodeChar c ++ encode s :=
  List.flatMap_cons

theorem encodeChar_ne_nil (c : Char) : encodeChar c ≠ [] := by
  unfold encodeChar
  dsimp only
  split_ifs <;> exact List.cons_ne_nil _ _

theorem encode_lt_of_lt {s t : Text} (h : s < t) : encode s < encode t := by
  induction s generalizing t with
  | nil =>
    cases t with
    | nil => exact absurd h (List.lt_irrefl _)
    | cons d t =>
      obtain ⟨b, bs, hbytes⟩ := List.exists_cons_of_ne_nil (encodeChar_ne_nil d)
      rw [encode_cons, hbytes]
      exact List.nil_lt_cons _ _
  | cons c s ih =>
    cases t with
    | nil => exact absurd h (List.not_lt_nil _)
    | cons d t =>
      rw [encode_cons, encode_cons]
      rcases List.cons_lt_cons_iff.mp h with hlt | ⟨rfl, hlt⟩
      · exact (below_encodeChar hlt).append_lt _ _
      · exact List.append_left_lt (ih hlt)

end VirtualTerminal.Text
