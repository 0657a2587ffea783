import Mathlib.Tactic.Common
import VirtualTerminal.Text.Utf8

/-!
# Reading what was written as bytes

The bytes of a character are read as this character, whatever follows them (`front_encodeChar`). So reading
the UTF-8 form of a text gives the text, and no replacement character stands in it but those of the text
(`decodeLossy_encode`).
-/

namespace VirtualTerminal.Text

theorem toNat_toUInt8 {n : Nat} (h : n < 256) : n.toUInt8.toNat = n :=
  Nat.mod_eq_of_lt h

section Front

variable {b b₁ b₂ b₃ : UInt8}

/-- The least second byte after a lead byte. -/
theorem toNat_secondRange_fst (b : UInt8) : (secondRange b).1.toNat =
    if b.toNat = 0xE0 then 0xA0 else if b.toNat = 0xF0 then 0x90 else 0x80 := by
  unfold secondRange
  simp only [← UInt8.toNat_inj]
  split_ifs <;> simp_all

/-- The greatest second byte after a lead byte. -/
theorem toNat_secondRange_snd (b : UInt8) : (secondRange b).2.toNat =
    if b.toNat = 0xED then 0x9F else if b.toNat = 0xF4 then 0x8F else 0xBF := by
  unfold secondRange
  simp only [← UInt8.toNat_inj]
  split_ifs <;> simp_all

theorem isTail_of_le (h : 0x80 ≤ b.toNat) (h' : b.toNat ≤ 0xBF) : isTail b = true := by
  unfold isTail
  simp [UInt8.le_iff_toNat_le, h, h']

/-- Whether a byte may be the second one after a lead byte of a longer character. -/
structure IsSecond (b b₁ : UInt8) : Prop where
  lead : 0xC2 ≤ b.toNat ∧ b.toNat ≤ 0xF4
  least : (secondRange b).1.toNat ≤ b₁.toNat
  greatest : b₁.toNat ≤ (secondRange b).2.toNat

theorem front_ascii (h : b.toNat < 0x80) (rest : List UInt8) :
    front b rest = .char (Char.ofNat b.toNat) 1 :=
  if_pos (UInt8.lt_iff_toNat_lt.mpr h)

/-- The first two bytes of a longer character pass all tests. -/
theorem front_longer (h : IsSecond b b₁) (rest : List UInt8) :
    front b (b₁ :: rest) =
      if b < 0xE0 then .char (Char.ofNat ((b.toNat - 0xC0) * 0x40 + tailBits b₁)) 2
      else
        match rest with
        | [] => .malformed 2
        | b₂ :: rest =>
          if !isTail b₂ then .malformed 2
          else if b < 0xF0 then
            .char (Char.ofNat ((b.toNat - 0xE0) * 0x1000 + tailBits b₁ * 0x40 + tailBits b₂)) 3
          else
            match rest with
            | [] => .malformed 3
            | b₃ :: _ =>
              if !isTail b₃ then .malformed 3
              else
                .char (Char.ofNat ((b.toNat - 0xF0) * 0x40000 + tailBits b₁ * 0x1000 +
                  tailBits b₂ * 0x40 + tailBits b₃)) 4 := by
  obtain ⟨⟨hlow, hhigh⟩, hleast, hgreatest⟩ := h
  have hascii : ¬ b < 0x80 := fun hlt => by
    have hlt : b.toNat < 0x80 := UInt8.lt_iff_toNat_lt.mp hlt
    omega
  have hlead : ¬ (b < 0xC2 || 0xF4 < b) = true := by
    simp only [UInt8.lt_iff_toNat_lt, Bool.or_eq_true, decide_eq_true_eq]
    exact not_or.mpr ⟨Nat.not_lt.mpr hlow, Nat.not_lt.mpr hhigh⟩
  have hsecond : ¬ (b₁ < (secondRange b).1 || (secondRange b).2 < b₁) = true := by
    simp only [UInt8.lt_iff_toNat_lt, Bool.or_eq_true, decide_eq_true_eq]
    exact not_or.mpr ⟨Nat.not_lt.mpr hleast, Nat.not_lt.mpr hgreatest⟩
  unfold front
  rw [if_neg hascii, if_neg hlead]
  exact if_neg hsecond

section Value

variable {n : Nat}

theorem front_two (hlow : 0x80 ≤ n) (hhigh : n < 0x800) (hb : b.toNat = 0xC0 + n / 0x40)
    (h₁ : b₁.toNat = 0x80 + n % 0x40) (rest : List UInt8) :
    front b (b₁ :: rest) = .char (Char.ofNat n) 2 := by
  have hsecond : IsSecond b b₁ := by
    refine ⟨by omega, ?_, ?_⟩
    · rw [toNat_secondRange_fst]
      split_ifs <;> omega
    · rw [toNat_secondRange_snd]
      split_ifs <;> omega
  have hlead : b.toNat < 0xE0 := by omega
  have hvalue : (b.toNat - 0xC0) * 0x40 + tailBits b₁ = n := by
    unfold tailBits
    omega
  rw [front_longer hsecond, if_pos (UInt8.lt_iff_toNat_lt.mpr hlead), hvalue]

/-- Here the ranges of the second byte leave out the surrogates, and characters that two bytes hold. -/
theorem front_three (hlow : 0x800 ≤ n) (hhigh : n < 0x10000) (hvalid : n < 0xD800 ∨ 0xDFFF < n)
    (hb : b.toNat = 0xE0 + n / 0x1000) (h₁ : b₁.toNat = 0x80 + n / 0x40 % 0x40)
    (h₂ : b₂.toNat = 0x80 + n % 0x40) (rest : List UInt8) :
    front b (b₁ :: b₂ :: rest) = .char (Char.ofNat n) 3 := by
  have hsecond : IsSecond b b₁ := by
    refine ⟨by omega, ?_, ?_⟩
    · rw [toNat_secondRange_fst]
      split_ifs <;> omega
    · rw [toNat_secondRange_snd]
      split_ifs <;> omega
  have hnot : ¬ b.toNat < 0xE0 := by omega
  have hlead : b.toNat < 0xF0 := by omega
  have hvalue : (b.toNat - 0xE0) * 0x1000 + tailBits b₁ * 0x40 + tailBits b₂ = n := by
    unfold tailBits
    omega
  rw [front_longer hsecond, if_neg (mt UInt8.lt_iff_toNat_lt.mp hnot)]
  dsimp only
  rw [isTail_of_le (by omega) (by omega), Bool.not_true, if_neg Bool.false_ne_true,
    if_pos (UInt8.lt_iff_toNat_lt.mpr hlead), hvalue]

theorem front_four (hlow : 0x10000 ≤ n) (hhigh : n < 0x110000) (hb : b.toNat = 0xF0 + n / 0x40000)
    (h₁ : b₁.toNat = 0x80 + n / 0x1000 % 0x40) (h₂ : b₂.toNat = 0x80 + n / 0x40 % 0x40)
    (h₃ : b₃.toNat = 0x80 + n % 0x40) (rest : List UInt8) :
    front b (b₁ :: b₂ :: b₃ :: rest) = .char (Char.ofNat n) 4 := by
  have hsecond : IsSecond b b₁ := by
    refine ⟨by omega, ?_, ?_⟩
    · rw [toNat_secondRange_fst]
      split_ifs <;> omega
    · rw [toNat_secondRange_snd]
      split_ifs <;> omega
  have hnot : ¬ b.toNat < 0xE0 := by omega
  have hlead : ¬ b.toNat < 0xF0 := by omega
  have hvalue : (b.toNat - 0xF0) * 0x40000 + tailBits b₁ * 0x1000 + tailBits b₂ * 0x40 + tailBits b₃ =
      n := by
    unfold tailBits
    omega
  rw [front_longer hsecond, if_neg (mt UInt8.lt_iff_toNat_lt.mp hnot)]
  dsimp only
  rw [isTail_of_le (by omega) (by omega), Bool.not_true, if_neg Bool.false_ne_true,
    if_neg (mt UInt8.lt_iff_toNat_lt.mp hlead), isTail_of_le (by omega) (by omega), Bool.not_true,
    if_neg Bool.false_ne_true, hvalue]

end Value

end Front

/-! ## The bytes of a character -/

/-- The bytes of a character are read as the character, whatever follows them. -/
theorem front_encodeChar (c : Char) : ∃ b tail, encodeChar c = b :: tail ∧
    ∀ rest, front b (tail ++ rest) = .char c (tail.length + 1) := by
  have hvalid : c.toNat < 0xD800 ∨ 0xDFFF < c.toNat ∧ c.toNat < 0x110000 := c.valid
  have hchar : Char.ofNat c.toNat = c := Char.ofNat_toNat c
  unfold encodeChar
  generalize c.toNat = n at hvalid hchar
  dsimp only
  subst hchar
  by_cases h₁ : n < 0x80
  · rw [if_pos h₁]
    refine ⟨_, _, rfl, fun rest => ?_⟩
    have hb := toNat_toUInt8 (n := n) (by omega)
    rw [List.nil_append, front_ascii (by omega), hb]
    rfl
  rw [if_neg h₁]
  by_cases h₂ : n < 0x800
  · rw [if_pos h₂]
    exact ⟨_, _, rfl, front_two (by omega) h₂ (toNat_toUInt8 (by omega)) (toNat_toUInt8 (by omega))⟩
  rw [if_neg h₂]
  by_cases h₃ : n < 0x10000
  · rw [if_pos h₃]
    exact ⟨_, _, rfl, front_three (by omega) h₃ (by omega) (toNat_toUInt8 (by omega))
      (toNat_toUInt8 (by omega)) (toNat_toUInt8 (by omega))⟩
  · rw [if_neg h₃]
    exact ⟨_, _, rfl, front_four (by omega) (by omega) (toNat_toUInt8 (by omega))
      (toNat_toUInt8 (by omega)) (toNat_toUInt8 (by omega)) (toNat_toUInt8 (by omega))⟩

/-! ## Texts -/

theorem encode_ne_nil {s : Text} (h : s ≠ []) : encode s ≠ [] := by
  obtain ⟨c, s, rfl⟩ := List.exists_cons_of_ne_nil h
  obtain ⟨b, tail, hbytes, -⟩ := front_encodeChar c
  rw [encode, List.flatMap_cons, hbytes]
  exact List.cons_ne_nil b _

theorem decodeLossyFrom_length (bytes rest : List UInt8) :
    decodeLossyFrom bytes.length (bytes ++ rest) = decodeLossyFrom 0 rest := by
  induction bytes with
  | nil => rfl
  | cons b bytes ih => exact ih

/-- The bytes of a text are read as the text. -/
theorem decodeLossy_encode (s : Text) : decodeLossy (encode s) = s := by
  induction s with
  | nil => rfl
  | cons c s ih =>
    obtain ⟨b, tail, hbytes, hfront⟩ := front_encodeChar c
    have hencode : encode (c :: s) = b :: (tail ++ encode s) := by
      rw [encode, List.flatMap_cons, hbytes]
      rfl
    rw [hencode, decodeLossy, decodeLossyFrom, hfront (encode s)]
    show c :: decodeLossyFrom tail.length (tail ++ encode s) = c :: s
    rw [decodeLossyFrom_length]
    exact congrArg (c :: ·) ih

end VirtualTerminal.Text
