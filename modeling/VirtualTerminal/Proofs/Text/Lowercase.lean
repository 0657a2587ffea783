import VirtualTerminal.Proofs.Text.Blank
import VirtualTerminal.Text.Lowercase

/-!
# Lower case forms

Lower case forms are lower case themselves, so a text that has been lowered once is not changed by
lowering it again (`lower_lower`). A text that is a lower case form but for the case of ASCII letters
has this form (`lower_eq_of_lowerAscii_eq`), and no blanks around it if the form has none
(`trim_eq_self_of_lowerAscii_eq`).
-/

namespace VirtualTerminal

/-- The code points of the blank characters. -/
def blankCodes : List Nat :=
  [9, 10, 11, 12, 13, 0x20, 0x85, 0xA0, 0x1680, 0x2000, 0x2001, 0x2002, 0x2003, 0x2004, 0x2005, 0x2006,
   0x2007, 0x2008, 0x2009, 0x200A, 0x2028, 0x2029, 0x202F, 0x205F, 0x3000]

theorem mem_blankCodes {c : Char} (h : isBlank c = true) : c.toNat ∈ blankCodes := by
  unfold isBlank at h
  unfold blankCodes
  simp only [Bool.or_eq_true, Bool.and_eq_true, decide_eq_true_eq, beq_iff_eq] at h
  simp only [List.mem_cons, List.not_mem_nil, or_false]
  omega

namespace Unicode

/-! ## The table of lower case mappings -/

/-- Whether no code point that a run maps to is mapped by the run `q`: they lie apart, or they are of
different parity. -/
def CaseRun.avoids (r q : CaseRun) : Bool :=
  Nat.blt q.last r.target || (Nat.blt (r.target + (r.last - r.first)) q.first ||
    (Nat.beq q.step 2 && (Nat.beq r.step 2 || Nat.beq r.first r.last) &&
      Nat.beq ((r.target + q.first) % 2) 1))

theorem CaseRun.image?_eq_none_of_avoids {r q : CaseRun} (havoids : r.avoids q = true) {n m : Nat}
    (h : r.image? n = some m) : q.image? m = none := by
  unfold CaseRun.avoids at havoids
  simp only [Bool.or_eq_true, Bool.and_eq_true, Nat.blt_eq, Nat.beq_eq] at havoids
  unfold CaseRun.image? at h ⊢
  split at h
  next hn =>
    cases h
    refine if_neg fun hm => ?_
    rcases havoids with hlt | hlt | ⟨⟨hq, hr⟩, hparity⟩
    · omega
    · omega
    · rw [hq] at hm
      rcases hr with hr | hr
      · rw [hr] at hn
        omega
      · omega
  · cases h

/-- Whether a run maps to code points of characters, none of them a blank or the capital I with a
dot. -/
def CaseRun.Lands (r : CaseRun) : Prop :=
  (r.target + (r.last - r.first) < 0xD800 ∨
      0xE000 ≤ r.target ∧ r.target + (r.last - r.first) < 0x110000) ∧
    ∀ n ∈ 0x130 :: blankCodes, n < r.target ∨ r.target + (r.last - r.first) < n

instance (r : CaseRun) : Decidable r.Lands :=
  inferInstanceAs (Decidable (_ ∧ _))

theorem lowercaseRuns_avoid : (lowercaseRuns.all fun r => lowercaseRuns.all r.avoids) = true := by
  decide +kernel

theorem lowercaseRuns_land : ∀ r ∈ lowercaseRuns, r.Lands := by
  decide +kernel

theorem image?_eq_none_of_image {r q : CaseRun} (hr : r ∈ lowercaseRuns) (hq : q ∈ lowercaseRuns)
    {n m : Nat} (h : r.image? n = some m) : q.image? m = none := by
  have havoid := List.all_eq_true.mp lowercaseRuns_avoid r hr
  exact CaseRun.image?_eq_none_of_avoids (List.all_eq_true.mp havoid q hq) h

/-- A code point that the table maps to is mapped to itself. -/
theorem lowerCode_eq_self_of_image {r : CaseRun} (hr : r ∈ lowercaseRuns) {n m : Nat}
    (h : r.image? n = some m) : lowerCode m = m := by
  have hnone : lowercaseRuns.findSome? (·.image? m) = none :=
    List.findSome?_eq_none_iff.mpr fun _ hq => image?_eq_none_of_image hr hq h
  unfold lowerCode
  rw [hnone]
  rfl

/-- A code point maps to itself or to a code point that a run of the table maps to. -/
theorem lowerCode_eq_self_or (n : Nat) :
    lowerCode n = n ∨ ∃ r ∈ lowercaseRuns, r.image? n = some (lowerCode n) := by
  unfold lowerCode
  cases h : lowercaseRuns.findSome? (·.image? n) with
  | none => exact .inl rfl
  | some m => exact .inr (List.exists_of_findSome?_eq_some h)

theorem bounds_of_image {r : CaseRun} {n m : Nat} (h : r.image? n = some m) :
    r.target ≤ m ∧ m ≤ r.target + (r.last - r.first) := by
  unfold CaseRun.image? at h
  split at h
  · cases h
    omega
  · cases h

/-! ## Characters -/

/-- Whether a character is its own lower case form. -/
structure Settled (c : Char) : Prop where
  lowerChar_eq : lowerChar c = c
  ne_dotted : c ≠ 'İ'

instance (c : Char) : Decidable (Settled c) :=
  decidable_of_iff (lowerChar c = c ∧ c ≠ 'İ') ⟨fun ⟨h, hd⟩ => ⟨h, hd⟩, fun ⟨h, hd⟩ => ⟨h, hd⟩⟩

theorem Settled.ne_sigma {c : Char} (h : Settled c) : c ≠ 'Σ' := by
  rintro rfl
  exact absurd h.lowerChar_eq (by decide +kernel)

/-- What holds of all ASCII characters can be checked one by one. -/
theorem forall_ascii {P : Char → Prop} (h : ∀ n < 0x80, P (Char.ofNat n)) {c : Char}
    (hc : c.toNat < 0x80) : P c := by
  rw [← Char.ofNat_toNat c]
  exact h c.toNat hc

theorem toLower_eq_self {c : Char} (h : c.toNat < 0x41 ∨ 0x5A < c.toNat) : c.toLower = c := by
  refine dif_neg fun hupper => ?_
  have hbounds : 0x41 ≤ c.toNat ∧ c.toNat ≤ 0x5A := hupper
  omega

theorem lowerChar_of_ascii {c : Char} (h : c.toNat < 0x80) : lowerChar c = c.toLower :=
  if_pos h

theorem Settled.toLower_eq {c : Char} (h : Settled c) : c.toLower = c := by
  by_cases hc : c.toNat < 0x80
  · rw [← lowerChar_of_ascii hc]
    exact h.lowerChar_eq
  · exact toLower_eq_self (by omega)

theorem toLower_eq_of_isBlank {c : Char} (h : isBlank c = true) : c.toLower = c := by
  by_cases hc : c.toNat < 0x80
  · revert h
    exact forall_ascii (P := fun c => isBlank c = true → c.toLower = c) (by decide +kernel) hc
  · exact toLower_eq_self (by omega)

/-- A character outside of ASCII is its own lower case form, or that form is a character that a run of
the table maps to. -/
theorem lowerChar_eq_self_or {c : Char} (h : 0x80 ≤ c.toNat) :
    lowerChar c = c ∨ ∃ r ∈ lowercaseRuns, r.image? c.toNat = some (lowerChar c).toNat := by
  have hform : lowerChar c = Char.ofNat (lowerCode c.toNat) := if_neg (Nat.not_lt.mpr h)
  rcases lowerCode_eq_self_or c.toNat with heq | ⟨r, hr, himage⟩
  · refine .inl ?_
    rw [hform, heq, Char.ofNat_toNat]
  · refine .inr ⟨r, hr, ?_⟩
    obtain ⟨hvalid, -⟩ := lowercaseRuns_land r hr
    have hbounds := bounds_of_image himage
    have hchar : (lowerCode c.toNat).isValidChar := by
      unfold Nat.isValidChar
      omega
    rw [himage, hform, Char.ofNat, dif_pos hchar]
    rfl

theorem settled_lowerChar {c : Char} (h : c ≠ 'İ') : Settled (lowerChar c) := by
  by_cases hc : c.toNat < 0x80
  · exact forall_ascii (P := fun c => Settled (lowerChar c)) (by decide +kernel) hc
  · rcases lowerChar_eq_self_or (Nat.le_of_not_lt hc) with heq | ⟨r, hr, himage⟩
    · rw [heq]
      exact ⟨heq, h⟩
    · have hbounds := bounds_of_image himage
      obtain ⟨-, hland⟩ := lowercaseRuns_land r hr
      refine ⟨?_, fun hdotted => ?_⟩
      · by_cases hascii : (lowerChar c).toNat < 0x80
        · -- the first run of the table maps the capital letters of ASCII
          have hcapital := image?_eq_none_of_image hr (q := ⟨0x41, 0x5A, 1, 0x61⟩)
            List.mem_cons_self himage
          rw [lowerChar_of_ascii hascii]
          refine toLower_eq_self ?_
          unfold CaseRun.image? at hcapital
          dsimp only at hcapital
          split at hcapital
          · cases hcapital
          · omega
        · have hform : lowerChar (lowerChar c) = Char.ofNat (lowerCode (lowerChar c).toNat) :=
            if_neg hascii
          rw [hform, lowerCode_eq_self_of_image hr himage, Char.ofNat_toNat]
      · have hne := hland 0x130 List.mem_cons_self
        rw [hdotted] at hbounds
        have hcode : 'İ'.toNat = 0x130 := rfl
        omega

/-- Only blanks have a blank as their lower case form. -/
theorem isBlank_of_isBlank_lowerChar {c : Char} (h : isBlank (lowerChar c) = true) :
    isBlank c = true := by
  by_cases hc : c.toNat < 0x80
  · revert h
    exact forall_ascii (P := fun c => isBlank (lowerChar c) = true → isBlank c = true)
      (by decide +kernel) hc
  · rcases lowerChar_eq_self_or (Nat.le_of_not_lt hc) with heq | ⟨r, hr, himage⟩
    · rwa [heq] at h
    · have hbounds := bounds_of_image himage
      have hne := (lowercaseRuns_land r hr).2 _ (List.mem_cons_of_mem _ (mem_blankCodes h))
      omega

theorem lowercaseRuns_target : ∀ r ∈ lowercaseRuns, 0x41 ≤ r.target := by
  decide +kernel

/-- The ASCII characters before the letters are lower case forms of themselves only. -/
theorem lowerChar_eq_self_of_lt {c : Char} (h : (lowerChar c).toNat < 0x41) : lowerChar c = c := by
  by_cases hc : c.toNat < 0x80
  · revert h
    exact forall_ascii (P := fun c => (lowerChar c).toNat < 0x41 → lowerChar c = c)
      (by decide +kernel) hc
  · rcases lowerChar_eq_self_or (Nat.le_of_not_lt hc) with heq | ⟨r, hr, himage⟩
    · exact heq
    · have hbounds := bounds_of_image himage
      have htarget := lowercaseRuns_target r hr
      omega

end Unicode

namespace Text

open Unicode

/-! ## Texts -/

/-- The lower case form of a text starts with that of its first character, which has blanks only for
a blank. -/
theorem exists_lowerAfter_cons (before : Text) (c : Char) (rest : Text) :
    ∃ form, lowerAfter before (c :: rest) = form ++ lowerAfter (c :: before) rest ∧ form ≠ [] ∧
      ∀ d ∈ form, Settled d ∧ (isBlank d = true → isBlank c = true) := by
  refine ⟨_, rfl, ?_⟩
  split
  next hsigma =>
    have hforms : ∀ d ∈ ['ς', 'σ'], Settled d ∧ isBlank d = false :=
      List.forall_mem_cons.mpr ⟨by decide +kernel, List.forall_mem_singleton.mpr (by decide +kernel)⟩
    refine ⟨List.cons_ne_nil _ _, fun d hd => ?_⟩
    have hmem : d ∈ ['ς', 'σ'] := by
      rw [List.mem_singleton.mp hd]
      unfold lowerSigma
      split
      · exact List.mem_cons_self
      · exact List.mem_cons_of_mem _ List.mem_cons_self
    obtain ⟨hsettled, hblank⟩ := hforms d hmem
    exact ⟨hsettled, fun h => absurd h (Bool.eq_false_iff.mp hblank)⟩
  · split
    · have hform : ∀ d ∈ ['i', '\u0307'], Settled d ∧ isBlank d = false :=
        List.forall_mem_cons.mpr
          ⟨by decide +kernel, List.forall_mem_singleton.mpr (by decide +kernel)⟩
      refine ⟨List.cons_ne_nil _ _, fun d hd => ?_⟩
      obtain ⟨hsettled, hblank⟩ := hform d hd
      exact ⟨hsettled, fun h => absurd h (Bool.eq_false_iff.mp hblank)⟩
    next hdotted =>
      refine ⟨List.cons_ne_nil _ _, fun d hd => ?_⟩
      obtain rfl := List.mem_singleton.mp hd
      exact ⟨settled_lowerChar hdotted, isBlank_of_isBlank_lowerChar⟩

theorem lower_eq_nil_iff {s : Text} : lower s = [] ↔ s = [] := by
  cases s with
  | nil => exact Iff.rfl
  | cons c rest =>
    obtain ⟨form, heq, hne, -⟩ := exists_lowerAfter_cons [] c rest
    refine iff_of_false (fun hnil => hne ?_) (List.cons_ne_nil c rest)
    exact (List.append_eq_nil_iff.mp (heq.symm.trans hnil)).1

/-- Lower case keeps the ASCII characters before the letters. -/
theorem mem_lowerAfter {before s : Text} {c : Char} (hc : c.toNat < 0x41) (h : c ∈ s) :
    c ∈ lowerAfter before s := by
  induction s generalizing before with
  | nil => cases h
  | cons d rest ih =>
    unfold lowerAfter
    rcases List.mem_cons.mp h with rfl | h
    · have hlower : lowerChar c = c :=
        (lowerChar_of_ascii (by omega)).trans (toLower_eq_self (.inl hc))
      have hsigma : c ≠ 'Σ' := by
        rintro rfl
        exact absurd hc (by decide)
      have hdotted : c ≠ 'İ' := by
        rintro rfl
        exact absurd hc (by decide)
      rw [if_neg hsigma, if_neg hdotted, hlower]
      exact List.mem_append_left _ List.mem_cons_self
    · exact List.mem_append_right _ (ih h)

/-- Lower case makes none of the ASCII characters before the letters. -/
theorem mem_of_mem_lowerAfter {before s : Text} {d : Char} (hd : d.toNat < 0x41)
    (h : d ∈ lowerAfter before s) : d ∈ s := by
  induction s generalizing before with
  | nil => cases h
  | cons c rest ih =>
    unfold lowerAfter at h
    rcases List.mem_append.mp h with hform | hrest
    · split at hform
      · obtain rfl := List.mem_singleton.mp hform
        unfold lowerSigma at hd
        split at hd <;> exact absurd hd (by decide)
      · split at hform
        · rcases List.mem_cons.mp hform with rfl | hform
          · exact absurd hd (by decide)
          · obtain rfl := List.mem_singleton.mp hform
            exact absurd hd (by decide)
        · obtain rfl := List.mem_singleton.mp hform
          rw [lowerChar_eq_self_of_lt hd]
          exact List.mem_cons_self
    · exact List.mem_cons_of_mem c (ih hrest)

/-- Lower case makes no blanks. -/
theorem not_blank_of_mem_lowerAfter {before s : Text} (hs : ∀ c ∈ s, isBlank c = false) :
    ∀ d ∈ lowerAfter before s, isBlank d = false := by
  induction s generalizing before with
  | nil =>
    intro d hd
    cases hd
  | cons c rest ih =>
    obtain ⟨hc, hrest⟩ := List.forall_mem_cons.mp hs
    obtain ⟨form, heq, -, hform⟩ := exists_lowerAfter_cons before c rest
    intro d hd
    rw [heq] at hd
    rcases List.mem_append.mp hd with hd | hd
    · exact Bool.eq_false_iff.mpr fun hblank => Bool.eq_false_iff.mp hc ((hform d hd).2 hblank)
    · exact ih hrest d hd

theorem settled_of_mem_lowerAfter {before s : Text} {d : Char} (h : d ∈ lowerAfter before s) :
    Settled d := by
  induction s generalizing before with
  | nil => cases h
  | cons c rest ih =>
    obtain ⟨form, heq, -, hform⟩ := exists_lowerAfter_cons before c rest
    rw [heq] at h
    rcases List.mem_append.mp h with h | h
    · exact (hform d h).1
    · exact ih h

/-- A text all of whose characters are settled, but for the case of ASCII letters. -/
theorem lowerAfter_eq_lowerAscii {before s : Text} (h : ∀ c ∈ lowerAscii s, Settled c) :
    lowerAfter before s = lowerAscii s := by
  induction s generalizing before with
  | nil => rfl
  | cons c rest ih =>
    obtain ⟨hc, hrest⟩ := List.forall_mem_cons.mp h
    have hchar : lowerChar c = c.toLower := by
      by_cases hascii : c.toNat < 0x80
      · exact lowerChar_of_ascii hascii
      · have hself : c.toLower = c := toLower_eq_self (by omega)
        rw [hself] at hc ⊢
        exact hc.lowerChar_eq
    have hsigma : c ≠ 'Σ' := by
      rintro rfl
      exact hc.ne_sigma rfl
    have hdotted : c ≠ 'İ' := by
      rintro rfl
      exact hc.ne_dotted rfl
    unfold lowerAfter
    rw [if_neg hsigma, if_neg hdotted, hchar, ih hrest]
    rfl

theorem lowerAscii_lower (s : Text) : lowerAscii (lower s) = lower s := by
  have hmap : (lower s).map Char.toLower = (lower s).map id :=
    List.map_congr_left fun _ hc => (settled_of_mem_lowerAfter hc).toLower_eq
  exact hmap.trans (List.map_id _)

/-- A text that is a lower case form but for the case of ASCII letters has this form. -/
theorem lower_eq_of_lowerAscii_eq {s t : Text} (h : lowerAscii s = lower t) : lower s = lower t := by
  have hsettled : ∀ c ∈ lowerAscii s, Settled c := by
    rw [h]
    exact fun c hc => settled_of_mem_lowerAfter hc
  rw [← h]
  exact lowerAfter_eq_lowerAscii hsettled

/-- A lower case form is its own lower case form. -/
theorem lower_lower (s : Text) : lower (lower s) = lower s :=
  lower_eq_of_lowerAscii_eq (lowerAscii_lower s)

/-! ## Blanks at the ends -/

theorem isBlank_head?_of_lowerAfter {before s : Text} {d : Char}
    (h : (lowerAfter before s).head? = some d) (hd : isBlank d = true) :
    ∃ c, s.head? = some c ∧ isBlank c = true := by
  cases s with
  | nil => cases h
  | cons c rest =>
    obtain ⟨form, heq, hne, hform⟩ := exists_lowerAfter_cons before c rest
    rw [heq, List.head?_append_of_ne_nil _ hne] at h
    exact ⟨c, rfl, (hform d (List.mem_of_head? h)).2 hd⟩

theorem isBlank_getLast?_of_lowerAfter {before s : Text} {d : Char}
    (h : (lowerAfter before s).getLast? = some d) (hd : isBlank d = true) :
    ∃ c, s.getLast? = some c ∧ isBlank c = true := by
  induction s generalizing before with
  | nil => cases h
  | cons c rest ih =>
    obtain ⟨form, heq, -, hform⟩ := exists_lowerAfter_cons before c rest
    rw [heq, List.getLast?_append] at h
    cases hrest : (lowerAfter (c :: before) rest).getLast? with
    | some e =>
      rw [hrest] at h
      cases h
      obtain ⟨b, hb, hblank⟩ := ih hrest
      refine ⟨b, ?_, hblank⟩
      rw [List.getLast?_cons, hb]
      rfl
    | none =>
      rw [hrest, Option.none_or] at h
      cases rest with
      | nil => exact ⟨c, rfl, (hform d (List.mem_of_getLast? h)).2 hd⟩
      | cons b rest =>
        -- the lower case form of what follows is not empty
        obtain ⟨form', heq', hne, -⟩ := exists_lowerAfter_cons (c :: before) b rest
        rw [heq', List.getLast?_eq_none_iff] at hrest
        exact absurd (List.append_eq_nil_iff.mp hrest).1 hne

/-- A text that is the lower case form of a trimmed text but for the case of ASCII letters is trimmed
itself. -/
theorem trim_eq_self_of_lowerAscii_eq {s t : Text} (h : lowerAscii s = lower (trim t)) :
    trim s = s := by
  obtain ⟨hhead, hlast⟩ := trim_eq_self_iff.mp (trim_trim t)
  refine trim_eq_self_iff.mpr ⟨fun c hc => ?_, fun c hc => ?_⟩
  · refine Bool.eq_false_iff.mpr fun hblank => ?_
    have hhead' : (lower (trim t)).head? = some c := by
      rw [← h, lowerAscii, List.head?_map, hc, Option.map_some, toLower_eq_of_isBlank hblank]
    obtain ⟨d, hd, hdblank⟩ := isBlank_head?_of_lowerAfter hhead' hblank
    exact absurd hdblank (Bool.eq_false_iff.mp (hhead d hd))
  · refine Bool.eq_false_iff.mpr fun hblank => ?_
    have hlast' : (lower (trim t)).getLast? = some c := by
      rw [← h, lowerAscii, List.getLast?_map, hc, Option.map_some, toLower_eq_of_isBlank hblank]
    obtain ⟨d, hd, hdblank⟩ := isBlank_getLast?_of_lowerAfter hlast' hblank
    exact absurd hdblank (Bool.eq_false_iff.mp (hlast d hd))

end Text

end VirtualTerminal
