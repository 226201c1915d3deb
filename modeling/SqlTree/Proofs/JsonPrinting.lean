-- The compact text of JSON values. It is one of the texts of the value, so that it reads back as
-- the value, whatever characters the strings are made of, if the numbers are integers.
import SqlTree.Json.Printer
import SqlTree.Proofs.JsonText
import SqlTree.Proofs.SignedNumerals

namespace SqlTree.Json

/-! ## Values by their parts -/

/-- What holds of the values that hold no others, and of an array or object whenever it holds of
what is in it, holds of every value. -/
@[elab_as_elim]
theorem parts_induction {P : Json → Prop} (null : P .null) (bool : ∀ b, P (.bool b))
    (number : ∀ n, P (.number n)) (string : ∀ s, P (.string s))
    (array : ∀ items, (∀ j ∈ items, P j) → P (.array items))
    (object : ∀ fields, (∀ field ∈ fields, P field.2) → P (.object fields)) (j : Json) : P j := by
  cases j with
  | null => exact null
  | bool b => exact bool b
  | number n => exact number n
  | string s => exact string s
  | array items =>
    exact array items fun j _ => parts_induction null bool number string array object j
  | object fields =>
    exact object fields fun field _ =>
      parts_induction null bool number string array object field.2
termination_by sizeOf j
decreasing_by
  · have := List.sizeOf_lt_of_mem ‹_›
    rw [Json.array.sizeOf_spec]
    omega
  · have := List.sizeOf_lt_of_mem ‹_›
    obtain ⟨key, value⟩ := field
    rw [Json.object.sizeOf_spec]
    simp at this ⊢
    omega

/-- A value whose numbers are all integers of sixty-four bits with their sign. -/
inductive IsWhole : Json → Prop
  | null : IsWhole .null
  | bool (b : Bool) : IsWhole (.bool b)
  | number (n : Int64) : IsWhole (.number (.int n.toInt))
  | string (s : String) : IsWhole (.string s)
  | array {items : List Json} (whole : ∀ j ∈ items, IsWhole j) : IsWhole (.array items)
  | object {fields : List (String × Json)} (whole : ∀ field ∈ fields, IsWhole field.2) :
      IsWhole (.object fields)

/-! ## Strings -/

theorem hexValue?_digitChar : ∀ n < 16, Text.hexValue? (Nat.digitChar n) = some n := by decide

theorem isUnit_of_lt {n : Nat} (h : n < 0x20) :
    IsUnit ['0', '0', Nat.digitChar (n / 16), Nat.digitChar (n % 16)] n := by
  have hunit := IsUnit.digits (show Text.hexValue? '0' = some 0 by decide)
    (show Text.hexValue? '0' = some 0 by decide) (hexValue?_digitChar (n / 16) (by omega))
    (hexValue?_digitChar (n % 16) (by omega))
  have hvalue : 16 * (16 * (16 * 0 + 0) + n / 16) + n % 16 = n := by omega
  rwa [hvalue] at hunit

theorem spellsChar_escapeChar (c : Char) : SpellsChar c (escapeChar c) := by
  have hletter (e d : Char) (hmem : (e, d) ∈ letterEscapes) (h : (c == d) = true) :
      SpellsChar c ['\\', e] := by
    rw [eq_of_beq h]
    exact .letter hmem
  unfold escapeChar
  split_ifs with hquote hbackslash hn hr ht hb hf hcontrol
  · exact hletter '"' '"' (by decide) hquote
  · exact hletter '\\' '\\' (by decide) hbackslash
  · exact hletter 'n' '\n' (by decide) hn
  · exact hletter 'r' '\r' (by decide) hr
  · exact hletter 't' '\t' (by decide) ht
  · exact hletter 'b' '\x08' (by decide) hb
  · exact hletter 'f' '\x0c' (by decide) hf
  · exact .unit (isUnit_of_lt hcontrol)
  · exact .plain (by omega) (by simpa using hquote) (by simpa using hbackslash)

theorem spellsChars_flatMap_escapeChar (cs : List Char) :
    SpellsChars cs (cs.flatMap escapeChar) := by
  induction cs with
  | nil => exact .nil
  | cons c cs ih => exact .cons (spellsChar_escapeChar c) ih

theorem spells_stringChars (s : String) : (Token.string s).Spells (stringChars s) :=
  .string (spellsChars_flatMap_escapeChar s.toList)

/-! ## Numbers -/

/-- The numeral of a number, without point and exponent. -/
def numeralOf (n : Nat) : Double.Numeral := ⟨Text.natDigits n, false, [], none⟩

theorem ofNumeral?_numeralOf {negative : Bool} {n : Nat}
    (hfits : if negative then n ≠ 0 ∧ n ≤ Nat.pow 2 63 else n < Nat.pow 2 64) :
    Number.ofNumeral? negative (numeralOf n) = some (.int (if negative then -n else n)) := by
  have hstart : ((Text.natDigits n).isEmpty ||
      (decide ((Text.natDigits n).length > 1) && (Text.natDigits n).head? == some '0')) =
        false := by
    have hne := (Text.isNumeral_natDigits n).1
    rcases Nat.eq_zero_or_pos n with rfl | hn
    · rfl
    · simp [hne, Text.head?_natDigits hn]
  cases negative with
  | true =>
    have hfits : (n != 0 && decide (n ≤ Nat.pow 2 63)) = true := by simpa using hfits
    simp [Number.ofNumeral?, numeralOf, Text.numeralValue_natDigits, hstart, hfits]
  | false =>
    have hfits : decide (n < Nat.pow 2 64) = true := by simpa using hfits
    simp [Number.ofNumeral?, numeralOf, Text.numeralValue_natDigits, hstart, hfits]

theorem spells_numeralOf {negative : Bool} {n : Nat}
    (hfits : if negative then n ≠ 0 ∧ n ≤ Nat.pow 2 63 else n < Nat.pow 2 64) :
    (Token.number (.int (if negative then -n else n))).Spells
      ((if negative then ['-'] else []) ++ Text.natDigits n) := by
  have hspells : SpellsNumber (.int (if negative then -n else n)) negative (numeralOf n) 'e' :=
    { whole := List.all_eq_true.mpr (Text.isNumeral_natDigits n).2
      fraction := rfl
      point := fun _ => rfl
      mark := .inl rfl
      denotes := ofNumeral?_numeralOf hfits }
  have hchars : numeralChars 'e' (numeralOf n) = Text.natDigits n := by
    simp [numeralChars, numeralOf, exponentChars]
  have hnumber := Token.Spells.number hspells
  rwa [hchars] at hnumber

theorem spells_int (n : Int64) :
    (Token.number (.int n.toInt)).Spells (Number.int n.toInt).chars := by
  have hlow := n.le_toInt
  have hhigh := n.toInt_lt
  cases hn : n.toInt with
  | ofNat k =>
    have hfits : k < 2 ^ 64 := by
      rw [hn, Int.ofNat_eq_natCast] at hhigh
      omega
    exact @spells_numeralOf false k hfits
  | negSucc k =>
    have hfits : k + 1 ≠ 0 ∧ k + 1 ≤ 2 ^ 63 := by omega
    exact @spells_numeralOf true (k + 1) hfits

/-! ## Values -/

theorem IsLayout.mark {t : Token} {ts : List Token} {c : Char} {rest : List Char}
    (ht : t.Spells [c]) (h : IsLayout ts rest) : IsLayout (t :: ts) (c :: rest) :=
  h.token ht

/-- The compact text of a value spells its tokens, before whatever else is spelled. -/
def Prints (j : Json) : Prop :=
  ∀ ⦃ts : List Token⦄ ⦃rest : List Char⦄, IsLayout ts rest →
    IsLayout (j.tokens ++ ts) (j.compactChars ++ rest)

theorem isLayout_compactItems {items : List Json} (h : ∀ j ∈ items, j.Prints) {ts : List Token}
    {rest : List Char} (hrest : IsLayout ts rest) :
    IsLayout (itemTokens items ++ ts) (compactItems items ++ rest) := by
  match items with
  | [] => exact hrest
  | [j] => exact h j (.head _) hrest
  | j :: k :: more =>
    obtain ⟨hj, hmore⟩ := List.forall_mem_cons.mp h
    rw [itemTokens, compactItems, List.append_assoc, List.append_assoc]
    exact hj (.mark .comma (isLayout_compactItems hmore hrest))

theorem isLayout_compactFields {fields : List (String × Json)}
    (h : ∀ field ∈ fields, field.2.Prints) {ts : List Token} {rest : List Char}
    (hrest : IsLayout ts rest) :
    IsLayout (fieldTokens fields ++ ts) (compactFields fields ++ rest) := by
  match fields with
  | [] => exact hrest
  | [(key, j)] =>
    rw [fieldTokens, compactFields, List.append_assoc]
    exact .token (spells_stringChars key) (.mark .colon (h (key, j) (.head _) hrest))
  | (key, j) :: field :: more =>
    obtain ⟨hj, hmore⟩ := List.forall_mem_cons.mp h
    have hvalue := hj (.mark .comma (isLayout_compactFields hmore hrest))
    simp only [fieldTokens, compactFields, List.append_assoc, List.cons_append]
    exact .token (spells_stringChars key) (.mark .colon hvalue)

theorem prints_null : null.Prints := fun _ _ => .token .nullWord

theorem prints_number {n : Number} (h : (Token.number n).Spells n.chars) : (number n).Prints :=
  fun _ _ => .token h

theorem prints_string (s : String) : (string s).Prints :=
  fun _ _ => .token (spells_stringChars s)

theorem prints_array {items : List Json} (h : ∀ j ∈ items, j.Prints) : (array items).Prints := by
  intro ts rest hrest
  simp only [tokens, compactChars, List.append_assoc, List.cons_append]
  exact .mark .openArray (isLayout_compactItems h (.mark .closeArray hrest))

theorem prints_object {fields : List (String × Json)} (h : ∀ field ∈ fields, field.2.Prints) :
    (object fields).Prints := by
  intro ts rest hrest
  simp only [tokens, compactChars, List.append_assoc, List.cons_append]
  exact .mark .openObject (isLayout_compactFields h (.mark .closeObject hrest))

theorem prints_of_isWhole {j : Json} (h : j.IsWhole) : j.Prints := by
  induction h with
  | null => exact prints_null
  | bool b =>
    cases b with
    | true => exact fun _ _ => .token .trueWord
    | false => exact fun _ _ => .token .falseWord
  | number n => exact prints_number (spells_int n)
  | string s => exact prints_string s
  | array _ ih => exact prints_array ih
  | object _ ih => exact prints_object ih

theorem isText_of_prints {j : Json} (h : j.Prints) : j.IsText j.compact.toList := by
  have hnone : ([] : List Char).all isGap = true := rfl
  have htext := h (.nil hnone)
  rw [List.append_nil, List.append_nil] at htext
  rw [compact, String.toList_ofList]
  exact htext

theorem isText_compact {j : Json} (h : j.IsWhole) : j.IsText j.compact.toList :=
  isText_of_prints (prints_of_isWhole h)

/-- The compact text of a value reads back as the value. -/
theorem read?_compact {j : Json} (h : j.IsWhole) (hdepth : j.depth ≤ maxDepth) :
    read? j.compact = some j :=
  read?_of_isText (isText_compact h) hdepth

end SqlTree.Json
