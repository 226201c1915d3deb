-- Lower-casing. What is lower case stays as it is, so that lower-casing twice is lower-casing once.
-- White space and brackets stay as they are too, and what stands before them is lower-cased as if
-- the text ended there.
import Mathlib.Data.List.Basic
import SqlTree.Proofs.SignedNumerals
import SqlTree.Text.Lowercase

namespace SqlTree.Text

/-! ## Sets of code points as numbers -/

/-- A set of numbers as one number: its bits say which ones are in the set. The case data is large,
and it is compared in this form. -/
def bitSet (ns : List Nat) : Nat := ns.foldr (fun n set => set ||| 1 <<< n) 0

theorem testBit_bitSet (ns : List Nat) (n : Nat) : (bitSet ns).testBit n = decide (n ∈ ns) := by
  induction ns with
  | nil => simp [bitSet]
  | cons m ns ih =>
    have hm : (1 <<< m).testBit n = decide (m = n) := by
      rw [Nat.one_shiftLeft, Nat.testBit_two_pow]
    show (bitSet ns ||| 1 <<< m).testBit n = _
    rw [Nat.testBit_or, ih, hm]
    by_cases h : m = n
    · simp [h]
    · simp [h, Ne.symm h]

theorem not_mem_of_bitSet {ms ns : List Nat} (h : bitSet ms &&& bitSet ns = 0) {n : Nat}
    (hn : n ∈ ms) : n ∉ ns := by
  intro hin
  have hbit : (bitSet ms &&& bitSet ns).testBit n = true := by
    rw [Nat.testBit_and, testBit_bitSet, testBit_bitSet]
    simp [hn, hin]
  rw [h, Nat.zero_testBit] at hbit
  cases hbit

/-- The part of a set that lies in a range. -/
def bitsWithin (set : Nat) (range : Nat × Nat) : Nat :=
  set >>> range.1 % 1 <<< (range.2 + 1 - range.1)

theorem inRanges_eq_false {ns : List Nat} {ranges : List (Nat × Nat)}
    (h : ranges.all (fun range => bitsWithin (bitSet ns) range == 0) = true) {n : Nat}
    (hn : n ∈ ns) : inRanges ranges n = false := by
  unfold inRanges
  rw [List.any_eq_false]
  intro range hrange hin
  obtain ⟨hfirst, hlast⟩ : range.1 ≤ n ∧ n ≤ range.2 := by simpa using hin
  have hnone : bitsWithin (bitSet ns) range = 0 := by
    simpa using List.all_eq_true.mp h range hrange
  have hbit : (bitsWithin (bitSet ns) range).testBit (n - range.1) = true := by
    rw [bitsWithin, Nat.one_shiftLeft, Nat.testBit_mod_two_pow, Nat.testBit_shiftRight,
      Nat.add_sub_cancel' hfirst, testBit_bitSet]
    simp [hn]
    omega
  rw [hnone, Nat.zero_testBit] at hbit
  cases hbit

/-! ## The case data -/

/-- The code points of the blanks. -/
def blankCodes : List Nat :=
  [9, 10, 11, 12, 13, 0x20, 0x85, 0xa0, 0x1680, 0x2000, 0x2001, 0x2002, 0x2003, 0x2004, 0x2005,
    0x2006, 0x2007, 0x2008, 0x2009, 0x200a, 0x2028, 0x2029, 0x202f, 0x205f, 0x3000]

theorem mem_blankCodes {c : Char} (h : isBlank c = true) : c.toNat ∈ blankCodes := by
  simp only [isBlank, Bool.or_eq_true, Bool.and_eq_true, decide_eq_true_eq, beq_iff_eq] at h
  simp only [blankCodes, List.mem_cons, List.not_mem_nil, or_false]
  omega

/-- The code points of a run. -/
def CaseRun.codes (r : CaseRun) : List Nat :=
  List.range' r.first ((r.last - r.first) / r.step + 1) r.step

theorem CaseRun.mem_codes {r : CaseRun} {n : Nat} (h : r.covers n = true) : n ∈ r.codes := by
  obtain ⟨⟨hfirst, hlast⟩, hstep⟩ : (r.first ≤ n ∧ n ≤ r.last) ∧ (n - r.first) % r.step = 0 := by
    simpa [covers] using h
  rw [codes, List.mem_range']
  refine ⟨(n - r.first) / r.step, ?_, ?_⟩
  · have := Nat.div_le_div_right (c := r.step) (show n - r.first ≤ r.last - r.first by omega)
    omega
  · rw [Nat.mul_div_cancel' (Nat.dvd_of_mod_eq_zero hstep)]
    omega

/-- The code points that lower-casing changes. -/
def upperCodes : List Nat := lowerRuns.flatMap CaseRun.codes ++ (0x130 :: List.range' 0x41 26)

/-- The code points that lower-casing changes others to: by the runs, in ASCII, and by the rules for
single letters. Zero is what a number that is no code point would be changed to. -/
def lowerCodes : List Nat :=
  lowerRuns.flatMap (fun r => r.codes.map fun n => (Int.ofNat n + r.shift).toNat) ++
    (0 :: 0x307 :: 0x3c2 :: List.range' 0x61 26)

theorem lowerCodes_apart : bitSet lowerCodes &&& bitSet (upperCodes ++ blankCodes) = 0 := by
  decide +kernel

/-- The code points of blanks and brackets. -/
def breakCodes : List Nat := 0x5b :: 0x5d :: blankCodes

theorem breakCodes_apart :
    bitSet breakCodes &&& bitSet upperCodes = 0 ∧
      casedRanges.all (fun range => bitsWithin (bitSet breakCodes) range == 0) = true ∧
      ignorableRanges.all (fun range => bitsWithin (bitSet breakCodes) range == 0) = true := by
  decide +kernel

/-! ## Characters -/

/-- A character that lower-casing leaves as it is, wherever it stands. -/
structure IsSettled (c : Char) : Prop where
  lower : lowerChar c = [c]
  ne_sigma : c ≠ 'Σ'

/-- A character that stays as it is and ends the word before it. -/
structure IsBreak (c : Char) : Prop where
  settled : IsSettled c
  not_cased : isCased c = false
  not_ignorable : isCaseIgnorable c = false

theorem isSettled_of_not_mem {c : Char} (h : c.toNat ∉ upperCodes) : IsSettled c := by
  have hruns : ∀ r ∈ lowerRuns, r.covers c.toNat ≠ true := by
    intro r hr hcovers
    exact h (List.mem_append_left _ (List.mem_flatMap.mpr ⟨r, hr, r.mem_codes hcovers⟩))
  have hdotted : c.toNat ≠ 0x130 := by
    intro heq
    exact h (List.mem_append_right _ (heq ▸ List.mem_cons_self))
  have hcapital : ¬ (0x41 ≤ c.toNat ∧ c.toNat ≤ 0x5a) := by
    intro hrange
    refine h (List.mem_append_right _ (List.mem_cons_of_mem _ (List.mem_range'.mpr ?_)))
    exact ⟨c.toNat - 0x41, by omega, by omega⟩
  constructor
  · have hcapital : (decide (0x41 ≤ c.toNat) && decide (c.toNat ≤ 0x5a)) = false := by
      simpa using hcapital
    simp only [lowerChar, hcapital, beq_eq_false_iff_ne.mpr hdotted, List.find?_eq_none.mpr hruns,
      Bool.false_eq_true, if_false, ite_self]
  · rintro rfl
    exact h (by decide)

theorem isBreak_of_mem {c : Char} (h : c.toNat ∈ breakCodes) : IsBreak c where
  settled := isSettled_of_not_mem (not_mem_of_bitSet breakCodes_apart.1 h)
  not_cased := inRanges_eq_false breakCodes_apart.2.1 h
  not_ignorable := inRanges_eq_false breakCodes_apart.2.2 h

theorem isBreak_of_blank {c : Char} (h : isBlank c = true) : IsBreak c :=
  isBreak_of_mem (List.mem_cons_of_mem _ (List.mem_cons_of_mem _ (mem_blankCodes h)))

theorem isBreak_open : IsBreak '[' := isBreak_of_mem (by decide)

theorem isBreak_close : IsBreak ']' := isBreak_of_mem (by decide)

theorem isSettled_of_mem {c : Char} (h : c.toNat ∈ lowerCodes) :
    IsSettled c ∧ isBlank c = false := by
  have hapart := not_mem_of_bitSet lowerCodes_apart h
  rw [List.mem_append, not_or] at hapart
  refine ⟨isSettled_of_not_mem hapart.1, ?_⟩
  by_contra hblank
  exact hapart.2 (mem_blankCodes (by simpa using hblank))

theorem toNat_ofNat_mem {n : Nat} (h : n ∈ lowerCodes) : (Char.ofNat n).toNat ∈ lowerCodes := by
  by_cases hvalid : n.isValidChar
  · rw [Char.ofNat, dif_pos hvalid]
    exact h
  · rw [Char.ofNat, dif_neg hvalid]
    exact List.mem_append_right _ List.mem_cons_self

/-- A character stays as it is, or its lower-case form is made of characters that others are changed
to. -/
theorem lowerChar_cases (c : Char) :
    lowerChar c = [c] ∨ ∀ d ∈ lowerChar c, d.toNat ∈ lowerCodes := by
  have hsingle : ∀ n ∈ 0x307 :: List.range' 0x61 26, n ∈ lowerCodes := by
    intro n hn
    refine List.mem_append_right _ (List.mem_cons_of_mem _ ?_)
    rcases List.mem_cons.mp hn with rfl | hn
    · exact List.mem_cons_self
    · exact List.mem_cons_of_mem _ (List.mem_cons_of_mem _ hn)
  unfold lowerChar
  by_cases hascii : c.toNat < 0x80
  · by_cases hupper : 0x41 ≤ c.toNat ∧ c.toNat ≤ 0x5a
    · right
      intro d hd
      obtain rfl : d = Char.ofNat (c.toNat + 32) := by simpa [hascii, hupper] using hd
      refine toNat_ofNat_mem (hsingle _ (List.mem_cons_of_mem _ (List.mem_range'.mpr ?_)))
      exact ⟨c.toNat - 0x41, by omega, by omega⟩
    · left
      have hupper : (decide (0x41 ≤ c.toNat) && decide (c.toNat ≤ 0x5a)) = false := by
        simpa using hupper
      simp [hascii, hupper]
  · by_cases hdotted : c.toNat = 0x130
    · right
      intro d hd
      obtain rfl | rfl : d = 'i' ∨ d = Char.ofNat 0x307 := by simpa [hdotted] using hd
      · exact hsingle _ (by decide)
      · exact toNat_ofNat_mem (hsingle _ (by decide))
    · simp only [hascii, if_false, beq_eq_false_iff_ne.mpr hdotted, Bool.false_eq_true]
      cases hfind : lowerRuns.find? (·.covers c.toNat) with
      | none => exact .inl rfl
      | some r =>
        right
        intro d hd
        obtain rfl : d = r.image c.toNat := by simpa using hd
        have hcovers : r.covers c.toNat = true := by simpa using List.find?_some hfind
        have hcode := r.mem_codes hcovers
        exact toNat_ofNat_mem (List.mem_append_left _ (List.mem_flatMap.mpr
          ⟨r, List.mem_of_find?_eq_some hfind, List.mem_map_of_mem hcode⟩))

theorem lowerChar_ne_nil (c : Char) : lowerChar c ≠ [] := by
  unfold lowerChar
  dsimp only
  split_ifs
  · simp
  · simp
  · simp
  · split <;> simp

/-! ## Texts -/

/-- What a character becomes where it stands. -/
def lowerAt (before : List Char) (c : Char) (after : List Char) : List Char :=
  if c == 'Σ' then [if meetsCased before && !meetsCased after then 'ς' else 'σ'] else lowerChar c

theorem lowerAfter_cons (before : List Char) (c : Char) (cs : List Char) :
    lowerAfter before (c :: cs) = lowerAt before c cs ++ lowerAfter (c :: before) cs := rfl

theorem lowerAt_ne_nil (before : List Char) (c : Char) (after : List Char) :
    lowerAt before c after ≠ [] := by
  unfold lowerAt
  split
  · simp
  · exact lowerChar_ne_nil c

theorem lowerAt_of_settled {c : Char} (h : IsSettled c) (before after : List Char) :
    lowerAt before c after = [c] := by
  rw [lowerAt, if_neg (by simpa using h.ne_sigma), h.lower]

/-- What a character becomes is settled, and no blank unless the character is one. -/
theorem isSettled_of_mem_lowerAt {before after : List Char} {c d : Char}
    (hd : d ∈ lowerAt before c after) :
    IsSettled d ∧ (isBlank c = false → isBlank d = false) := by
  by_cases hc : c = 'Σ'
  · subst hc
    have hsigma : d = 'ς' ∨ d = 'σ' := by
      have hd : d = if meetsCased before && !meetsCased after then 'ς' else 'σ' := by
        simpa [lowerAt] using hd
      split at hd
      · exact .inl hd
      · exact .inr hd
    have hcode : d.toNat ∈ lowerCodes := by
      rcases hsigma with rfl | rfl
      · exact List.mem_append_right _ (by decide)
      · exact toNat_ofNat_mem (List.mem_append_left _ (by decide))
    obtain ⟨hsettled, hblank⟩ := isSettled_of_mem hcode
    exact ⟨hsettled, fun _ => hblank⟩
  · rw [lowerAt, if_neg (by simpa using hc)] at hd
    rcases lowerChar_cases c with hsame | hcodes
    · rw [hsame, List.mem_singleton] at hd
      subst hd
      exact ⟨⟨hsame, hc⟩, id⟩
    · obtain ⟨hsettled, hblank⟩ := isSettled_of_mem (hcodes d hd)
      exact ⟨hsettled, fun _ => hblank⟩

theorem isSettled_of_mem_lowerAfter {before cs : List Char} {d : Char}
    (hd : d ∈ lowerAfter before cs) : IsSettled d := by
  induction cs generalizing before with
  | nil => cases hd
  | cons c cs ih =>
    rw [lowerAfter_cons, List.mem_append] at hd
    rcases hd with hd | hd
    · exact (isSettled_of_mem_lowerAt hd).1
    · exact ih hd

/-- A text of settled characters stays as it is. -/
theorem lowerAfter_of_settled {cs : List Char} (h : ∀ c ∈ cs, IsSettled c) (before : List Char) :
    lowerAfter before cs = cs := by
  induction cs generalizing before with
  | nil => rfl
  | cons c cs ih =>
    obtain ⟨hc, hcs⟩ := List.forall_mem_cons.mp h
    rw [lowerAfter_cons, lowerAt_of_settled hc, ih hcs]
    rfl

/-- What stands before a break does not see beyond it. -/
theorem meetsCased_append {breaks : List Char} (h : ∀ c ∈ breaks, IsBreak c) (cs : List Char) :
    meetsCased (cs ++ breaks) = meetsCased cs := by
  induction cs with
  | nil =>
    cases breaks with
    | nil => rfl
    | cons c breaks =>
      have hc := h c List.mem_cons_self
      simp [meetsCased, hc.not_ignorable, hc.not_cased]
  | cons c cs ih =>
    by_cases hc : isCaseIgnorable c = true
    · simpa [meetsCased, hc] using ih
    · simp [meetsCased, hc]

/-- A text is lower-cased before breaks as if it ended there. -/
theorem lowerAfter_append {breaks : List Char} (h : ∀ c ∈ breaks, IsBreak c)
    (before cs : List Char) :
    lowerAfter before (cs ++ breaks) = lowerAfter before cs ++ breaks := by
  induction cs generalizing before with
  | nil => exact lowerAfter_of_settled (fun c hc => (h c hc).settled) before
  | cons c cs ih =>
    rw [List.cons_append, lowerAfter_cons, lowerAfter_cons, ih, List.append_assoc]
    simp only [lowerAt, meetsCased_append h]

theorem lowerAfter_ne_nil {cs : List Char} (h : cs ≠ []) (before : List Char) :
    lowerAfter before cs ≠ [] := by
  cases cs with
  | nil => exact absurd rfl h
  | cons c cs => simp [lowerAfter_cons, lowerAt_ne_nil]

theorem last_lowerAfter {cs : List Char} (h : ∀ c ∈ cs.getLast?, isBlank c = false)
    (before : List Char) : ∀ d ∈ (lowerAfter before cs).getLast?, isBlank d = false := by
  induction cs generalizing before with
  | nil => simp [lowerAfter]
  | cons c cs ih =>
    rw [lowerAfter_cons]
    cases cs with
    | nil =>
      intro d hd
      rw [lowerAfter, List.append_nil] at hd
      exact (isSettled_of_mem_lowerAt (List.mem_of_getLast? hd)).2 (h c rfl)
    | cons c' cs =>
      rw [List.getLast?_append_of_ne_nil _ (lowerAfter_ne_nil (by simp) _)]
      rw [List.getLast?_cons_cons] at h
      exact ih h (c :: before)

/-- A text without white space at its ends has none there in lower case either. -/
theorem isTrimmed_lowerAfter {cs : List Char} (h : IsTrimmed cs) (before : List Char) :
    IsTrimmed (lowerAfter before cs) := by
  refine ⟨?_, last_lowerAfter h.last before⟩
  cases cs with
  | nil => simp [lowerAfter]
  | cons c cs =>
    intro d hd
    rw [lowerAfter_cons, List.head?_append_of_ne_nil _ (lowerAt_ne_nil _ _ _)] at hd
    exact (isSettled_of_mem_lowerAt (List.mem_of_mem_head? hd)).2 (h.first c rfl)

end SqlTree.Text
