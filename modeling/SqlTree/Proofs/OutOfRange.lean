-- Numbers that an integer column has no room for. A list of values loses them, whether they are
-- integers, doubles or spelled out, except that a spelled number has to fit a word: one that does
-- not is taken for no number at all.
import SqlTree.Proofs.CandidateFilter
import SqlTree.Proofs.IntegerWords

namespace SqlTree

namespace Column

variable {column : Column Caster} {v : Value} {n : Nat} {z : Int}

/-- The column drops a value: it is out of range, and a list loses it whatever else it holds. -/
structure Drops (column : Column Caster) (v : Value) : Prop where
  outOfRange : ∃ number,
    column.type.serialize v = .error (.outOfRange number column.type.sqlType)
  not_serializable : column.type.isSerializable v = false
  lost : ∀ polarity before after,
    (⟨column, before ++ v :: after, polarity⟩ : InList Caster Value).candidates =
      (⟨column, before ++ after, polarity⟩ : InList Caster Value).candidates

/-- The column fails for a value: it is invalid, and a list has no candidates for holding it. -/
structure FailsFor (column : Column Caster) (v : Value) : Prop where
  invalid : column.type.serialize v = .error (.invalid v column.type.sqlType)
  serializable : column.type.isSerializable v = true
  fails : ∀ polarity before after kept,
    (⟨column, before, polarity⟩ : InList Caster Value).candidates = .ok kept →
      (⟨column, before ++ v :: after, polarity⟩ : InList Caster Value).candidates =
        .error (.invalid v column.type.sqlType)

theorem drops_of_outOfRange {number : String}
    (h : column.type.serialize v = .error (.outOfRange number column.type.sqlType)) :
    column.Drops v := by
  refine ⟨⟨number, h⟩, Caster.isSerializable_of_outOfRange h, ?_⟩
  intro polarity before after
  have hrest : InList.filterCandidates column.type (v :: after)
      = InList.filterCandidates column.type after := by
    rw [InList.filterCandidates, InList.isCandidate_of_outOfRange h]
    cases InList.filterCandidates column.type after <;> rfl
  rw [InList.candidates, InList.candidates, InList.filterCandidates_append,
    InList.filterCandidates_append, hrest]

theorem failsFor_of_invalid (hv : v ≠ .null)
    (h : column.type.serialize v = .error (.invalid v column.type.sqlType)) :
    column.FailsFor v := by
  have hrefuses : column.type.Refuses v (.invalid v column.type.sqlType) := ⟨hv, h, rfl⟩
  refine ⟨h, Caster.isSerializable_of_refuses hrefuses, ?_⟩
  intro polarity before after kept hkept
  rw [InList.candidates] at hkept ⊢
  rw [InList.filterCandidates_append, hkept, InList.filterCandidates,
    InList.isCandidate_of_refuses hrefuses]
  rfl

theorem drops_of_not_inRange (hcolumn : column.type = .ofBytes n) (hv : v.Denotes z)
    (hz : ¬ (Width.clamp n).InRange z) (hsize : v.isNumber = true ∨ fitsInt64 z = true) :
    column.Drops v := by
  obtain ⟨number, hnumber⟩ := Width.serialize_of_not_inRange hv hz hsize
  have hserialize : column.type.serialize v
      = .error (.outOfRange number column.type.sqlType) := by
    rw [hcolumn]
    exact hnumber
  exact drops_of_outOfRange hserialize

theorem failsFor_of_not_fits {s : String} (hcolumn : column.type = .ofBytes n)
    (hs : Text.Denotes s z) (hz : fitsInt64 z = false) : column.FailsFor (.text s) := by
  have htext : (Width.clamp n).serialize (.text s)
      = .error (.invalid (.text s) (Width.clamp n).sqlType) := by
    rw [Width.serialize_text hs, if_neg (by simp [hz])]
  apply failsFor_of_invalid (by simp)
  rw [hcolumn]
  exact htext

/-! ## The law -/

/-- Of the numbers that an integer column has no room for, those that are integers or doubles are
dropped, of any size. A text that spells one is dropped as well if the number fits a word, and
makes the list fail if it does not. -/
theorem numbers_out_of_range_are_dropped (column : Column Caster) (n : Nat)
    (hcolumn : column.type = .ofBytes n) (z : Int)
    (hz : ¬ (-2 ^ (8 * max 1 (min n 8) - 1) ≤ z ∧ z < 2 ^ (8 * max 1 (min n 8) - 1))) :
    (∀ v : Value, v.isNumber = true → v.Denotes z → column.Drops v) ∧
    (∀ s, Text.Denotes s z → fitsInt64 z = true → column.Drops (.text s)) ∧
    (∀ s, Text.Denotes s z → fitsInt64 z = false → column.FailsFor (.text s)) := by
  have hrange : ¬ (Width.clamp n).InRange z := hz
  refine ⟨?_, ?_, ?_⟩
  · intro v hnumber hv
    exact drops_of_not_inRange hcolumn hv hrange (.inl hnumber)
  · intro s hs hfits
    exact drops_of_not_inRange (v := .text s) hcolumn hs hrange (.inr hfits)
  · intro s hs hfits
    exact failsFor_of_not_fits hcolumn hs hfits

/-- A spelled number that is too large for two bytes is dropped. Beyond a word the double is still
dropped, and the text fails. -/
theorem numbers_out_of_range_are_dropped_from_two_bytes :
    let column : Column Caster := ⟨none, "id", .ofBytes 2⟩
    let double : Value := .float (Double.ofInt Int64.maxValue.toInt)
    Text.Denotes " +40000 " 40000 ∧ column.Drops (.text " +40000 ") ∧
    double.Denotes (2 ^ 63) ∧ column.Drops double ∧
    Text.Denotes "9223372036854775808" (2 ^ 63) ∧
    column.FailsFor (.text "9223372036854775808") := by
  intro column double
  have hsmall : Text.Denotes " +40000 " 40000 := Text.readInt_trimChars.mp rfl
  have hlarge : Text.Denotes "9223372036854775808" (2 ^ 63) := Text.readInt_trimChars.mp rfl
  obtain ⟨-, hdrops, -⟩ := numbers_out_of_range_are_dropped column 2 rfl 40000 (by decide)
  obtain ⟨hnumbers, -, hfails⟩ := numbers_out_of_range_are_dropped column 2 rfl (2 ^ 63) (by decide)
  exact ⟨hsmall, hdrops _ hsmall rfl, Double.denotes_ofInt_maxValue,
    hnumbers _ rfl Double.denotes_ofInt_maxValue, hlarge, hfails _ hlarge rfl⟩

/-- The same number, one more than the largest integer of eight bytes, is dropped as a double and
makes the list fail as a text. -/
theorem text_beyond_a_word_is_not_dropped :
    let column : Column Caster := ⟨none, "id", .ofBytes 8⟩
    let text : Value := .text "9223372036854775808"
    let double : Value := .float (Double.ofInt Int64.maxValue.toInt)
    text.Denotes (2 ^ 63) ∧ double.Denotes (2 ^ 63) ∧ ¬ (Width.clamp 8).InRange (2 ^ 63) ∧
    (⟨column, [double], .isIn⟩ : InList Caster Value).candidates = .ok [] ∧
    column.type.serialize text = .error (.invalid text "bigint") ∧
    column.type.isSerializable text = true ∧
    (⟨column, [text], .isIn⟩ : InList Caster Value).candidates =
      .error (.invalid text "bigint") := by
  intro column text double
  have htext : text.Denotes (2 ^ 63) := Text.readInt_trimChars.mp rfl
  have hrange : ¬ (Width.clamp 8).InRange (2 ^ 63) := by decide
  have hdrops : column.Drops double :=
    drops_of_not_inRange rfl Double.denotes_ofInt_maxValue hrange (.inl rfl)
  have hfails : column.FailsFor text := failsFor_of_not_fits rfl htext rfl
  exact ⟨htext, Double.denotes_ofInt_maxValue, hrange, hdrops.lost .isIn [] [], hfails.invalid,
    hfails.serializable, hfails.fails .isIn [] [] [] rfl⟩

end Column

end SqlTree
