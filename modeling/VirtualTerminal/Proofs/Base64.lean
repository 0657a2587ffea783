import Mathlib.Tactic.Common
import VirtualTerminal.Base64
import VirtualTerminal.Text.Blank
import VirtualTerminal.Text.Utf8

/-!
# Reading what was written as base64

A symbol is read as the value that it was written for (`value?_symbol`), so a group of symbols is read as
its bytes, and strict reading accepts all that is written: there is as much padding as it asks for, and the
bits that belong to no byte are zero. Hence `decode_encode`.
-/

namespace VirtualTerminal.Base64

/-! ## Symbols -/

/-- The byte of the symbol of a value. -/
def symbolByte (n : Nat) : UInt8 :=
  (symbol n).toNat.toUInt8

section Symbols

variable {n : Nat}

theorem value?_symbol (h : n < 64) : value? (symbolByte n) = some n := by
  have hall : ∀ m < 64, value? (symbolByte m) = some m := by decide +kernel
  exact hall n h

theorem symbolByte_ne_pad (h : n < 64) : symbolByte n ≠ pad := by
  have hall : ∀ m < 64, symbolByte m ≠ pad := by decide +kernel
  exact hall n h

theorem encodeChar_symbol (h : n < 64) : Text.encodeChar (symbol n) = [symbolByte n] := by
  have hall : ∀ m < 64, Text.encodeChar (symbol m) = [symbolByte m] := by decide +kernel
  exact hall n h

theorem valueAt_symbolByte (h : n < 64) (offset : Nat) : valueAt offset (symbolByte n) = .ok n := by
  unfold valueAt
  rw [value?_symbol h]

end Symbols

/-- What holds of all symbols and of the pad holds of all that is written. -/
theorem forall_mem_encode {P : Char → Prop} (hsymbol : ∀ n < 64, P (symbol n)) (hpad : P '=')
    (bytes : List UInt8) : ∀ c ∈ encode bytes, P c := by
  induction bytes using encode.induct with
  | case1 => exact List.forall_mem_nil _
  | case2 a =>
    have ha := a.toNat_lt
    simp only [encode, List.forall_mem_cons]
    exact ⟨hsymbol _ (by omega), hsymbol _ (by omega), hpad, hpad, List.forall_mem_nil _⟩
  | case3 a b =>
    have ha := a.toNat_lt
    have hb := b.toNat_lt
    simp only [encode, List.forall_mem_cons]
    exact ⟨hsymbol _ (by omega), hsymbol _ (by omega), hsymbol _ (by omega), hpad, List.forall_mem_nil _⟩
  | case4 a b c rest ih =>
    have ha := a.toNat_lt
    have hb := b.toNat_lt
    have hc := c.toNat_lt
    simp only [encode, List.forall_mem_append, List.forall_mem_cons]
    exact ⟨⟨hsymbol _ (by omega), hsymbol _ (by omega), hsymbol _ (by omega), hsymbol _ (by omega),
      List.forall_mem_nil _⟩, ih⟩

/-- What is written has no blanks, no backslashes and no dashes. -/
theorem plain_encode (bytes : List UInt8) :
    ∀ c ∈ encode bytes, isBlank c = false ∧ c ≠ '\\' ∧ c ≠ '-' := by
  have hall : ∀ n < 64, isBlank (symbol n) = false ∧ symbol n ≠ '\\' ∧ symbol n ≠ '-' := by
    decide +kernel
  exact forall_mem_encode hall (by decide) bytes

theorem encode_ne_nil {bytes : List UInt8} (h : bytes ≠ []) : encode bytes ≠ [] := by
  unfold encode
  split
  · exact absurd rfl h
  all_goals exact List.cons_ne_nil _ _

/-! ## Groups -/

section Groups

variable {x y z w : Nat}

theorem lastValues_symbolByte (hx : x < 64) (offset index : Nat) (rest : List UInt8) :
    lastValues offset index (symbolByte x :: rest) =
      (lastValues offset (index + 1) rest).map fun p => (x :: p.1, p.2) := by
  rw [lastValues, if_neg (symbolByte_ne_pad hx), valueAt_symbolByte hx]
  cases lastValues offset (index + 1) rest <;> rfl

theorem decodeLast_one_byte (hx : x < 64) (hy : y < 64) (htrailing : y % 16 = 0) (offset : Nat) :
    decodeLast offset [symbolByte x, symbolByte y, pad, pad] = .ok [(x * 4 + y / 16).toUInt8] := by
  have hvalues : lastValues offset 0 [symbolByte x, symbolByte y, pad, pad] = .ok ([x, y], 2) := by
    rw [lastValues_symbolByte hx, lastValues_symbolByte hy]
    rfl
  simp [decodeLast, hvalues, htrailing, bind, Except.bind]

theorem decodeLast_two_bytes (hx : x < 64) (hy : y < 64) (hz : z < 64) (htrailing : z % 4 = 0)
    (offset : Nat) :
    decodeLast offset [symbolByte x, symbolByte y, symbolByte z, pad] =
      .ok [(x * 4 + y / 16).toUInt8, (y % 16 * 16 + z / 4).toUInt8] := by
  have hvalues : lastValues offset 0 [symbolByte x, symbolByte y, symbolByte z, pad] =
      .ok ([x, y, z], 1) := by
    rw [lastValues_symbolByte hx, lastValues_symbolByte hy, lastValues_symbolByte hz]
    rfl
  simp [decodeLast, hvalues, htrailing, bind, Except.bind]

theorem decodeLast_three_bytes (hx : x < 64) (hy : y < 64) (hz : z < 64) (hw : w < 64) (offset : Nat) :
    decodeLast offset [symbolByte x, symbolByte y, symbolByte z, symbolByte w] =
      .ok [(x * 4 + y / 16).toUInt8, (y % 16 * 16 + z / 4).toUInt8, (z % 4 * 64 + w).toUInt8] := by
  have hvalues : lastValues offset 0 [symbolByte x, symbolByte y, symbolByte z, symbolByte w] =
      .ok ([x, y, z, w], 0) := by
    rw [lastValues_symbolByte hx, lastValues_symbolByte hy, lastValues_symbolByte hz,
      lastValues_symbolByte hw]
    rfl
  simp [decodeLast, hvalues, bind, Except.bind]

/-- A group before others is read on its own. -/
theorem decodeGroups_group (hx : x < 64) (hy : y < 64) (hz : z < 64) (hw : w < 64) (offset : Nat)
    {rest : List UInt8} (hrest : rest ≠ []) :
    decodeGroups offset (symbolByte x :: symbolByte y :: symbolByte z :: symbolByte w :: rest) =
      (decodeGroups (offset + 4) rest).map fun more => (x * 4 + y / 16).toUInt8 ::
        (y % 16 * 16 + z / 4).toUInt8 :: (z % 4 * 64 + w).toUInt8 :: more := by
  obtain ⟨e, rest, rfl⟩ := List.exists_cons_of_ne_nil hrest
  rw [decodeGroups, valueAt_symbolByte hx, valueAt_symbolByte hy, valueAt_symbolByte hz,
    valueAt_symbolByte hw]
  cases decodeGroups (offset + 4) (e :: rest) <;> rfl

end Groups

/-! ## Bytes -/

section Bytes

variable {a b c : UInt8} {bytes : List UInt8}

/-- The bytes of the symbols of one byte. -/
theorem encode_one (a : UInt8) : Text.encode (encode [a]) =
    [symbolByte (a.toNat / 4), symbolByte (a.toNat % 4 * 16), pad, pad] := by
  have ha := a.toNat_lt
  simp only [encode, Text.encode, List.flatMap_cons, List.flatMap_nil]
  rw [encodeChar_symbol (by omega), encodeChar_symbol (by omega)]
  rfl

theorem encode_two (a b : UInt8) : Text.encode (encode [a, b]) =
    [symbolByte ((a.toNat * 256 + b.toNat) / 1024), symbolByte ((a.toNat * 256 + b.toNat) / 16 % 64),
      symbolByte ((a.toNat * 256 + b.toNat) % 16 * 4), pad] := by
  have ha := a.toNat_lt
  have hb := b.toNat_lt
  simp only [encode, Text.encode, List.flatMap_cons, List.flatMap_nil]
  rw [encodeChar_symbol (by omega), encodeChar_symbol (by omega), encodeChar_symbol (by omega)]
  rfl

theorem encode_three (a b c : UInt8) (rest : List UInt8) :
    Text.encode (encode (a :: b :: c :: rest)) =
      symbolByte (((a.toNat * 256 + b.toNat) * 256 + c.toNat) / 262144) ::
        symbolByte (((a.toNat * 256 + b.toNat) * 256 + c.toNat) / 4096 % 64) ::
        symbolByte (((a.toNat * 256 + b.toNat) * 256 + c.toNat) / 64 % 64) ::
        symbolByte (((a.toNat * 256 + b.toNat) * 256 + c.toNat) % 64) :: Text.encode (encode rest) := by
  have ha := a.toNat_lt
  have hb := b.toNat_lt
  have hc := c.toNat_lt
  simp only [encode, Text.encode, List.flatMap_append, List.flatMap_cons, List.flatMap_nil]
  rw [encodeChar_symbol (by omega), encodeChar_symbol (by omega), encodeChar_symbol (by omega),
    encodeChar_symbol (by omega)]
  rfl

theorem toUInt8_eq {n : Nat} (h : n = a.toNat) : n.toUInt8 = a := by
  rw [h]
  exact UInt8.ofNat_toNat

/-- All groups of what has been written are read. -/
theorem decodeGroups_encode (bytes : List UInt8) (offset : Nat) :
    decodeGroups offset (Text.encode (encode bytes)) = .ok bytes := by
  induction bytes using encode.induct generalizing offset with
  | case1 => rfl
  | case2 a =>
    have ha := a.toNat_lt
    rw [encode_one, decodeGroups, decodeLast_one_byte (by omega) (by omega) (by omega),
      toUInt8_eq (a := a) (by omega)]
    all_goals simp
  | case3 a b =>
    have ha := a.toNat_lt
    have hb := b.toNat_lt
    rw [encode_two, decodeGroups, decodeLast_two_bytes (by omega) (by omega) (by omega) (by omega),
      toUInt8_eq (a := a) (by omega), toUInt8_eq (a := b) (by omega)]
    all_goals simp
  | case4 a b c rest ih =>
    have ha := a.toNat_lt
    have hb := b.toNat_lt
    have hc := c.toNat_lt
    rw [encode_three]
    have hx : ((a.toNat * 256 + b.toNat) * 256 + c.toNat) / 262144 < 64 := by omega
    have hy : ((a.toNat * 256 + b.toNat) * 256 + c.toNat) / 4096 % 64 < 64 := by omega
    have hz : ((a.toNat * 256 + b.toNat) * 256 + c.toNat) / 64 % 64 < 64 := by omega
    have hw : ((a.toNat * 256 + b.toNat) * 256 + c.toNat) % 64 < 64 := by omega
    by_cases hmore : Text.encode (encode rest) = []
    · -- the group is the last one
      have hrest : rest = [] := by
        have hread := ih 0
        rw [hmore] at hread
        exact (Except.ok.inj hread).symm
      rw [hmore, hrest, decodeGroups, decodeLast_three_bytes hx hy hz hw, toUInt8_eq (a := a) (by omega),
        toUInt8_eq (a := b) (by omega), toUInt8_eq (a := c) (by omega)]
      simp
    · rw [decodeGroups_group hx hy hz hw offset hmore, ih, toUInt8_eq (a := a) (by omega),
        toUInt8_eq (a := b) (by omega), toUInt8_eq (a := c) (by omega)]
      rfl

/-- What has been written comes in groups of four symbols. -/
theorem length_encode_mod (bytes : List UInt8) : (Text.encode (encode bytes)).length % 4 = 0 := by
  induction bytes using encode.induct with
  | case1 => rfl
  | case2 a => simp [encode_one]
  | case3 a b => simp [encode_two]
  | case4 a b c rest ih =>
    rw [encode_three]
    simp only [List.length_cons]
    omega

/-- Reading gives the bytes that have been written. -/
theorem decode_encode (bytes : List UInt8) : decode (Text.encode (encode bytes)) = .ok bytes := by
  have hgroups := decodeGroups_encode bytes 0
  have hlength := length_encode_mod bytes
  generalize Text.encode (encode bytes) = symbols at hgroups hlength
  unfold decode
  split
  next hnil =>
    rw [List.getLast?_eq_none_iff.mp hnil] at hgroups
    exact hgroups
  next last hlast =>
    rw [if_neg fun h => by omega]
    exact hgroups

end Bytes

end VirtualTerminal.Base64
