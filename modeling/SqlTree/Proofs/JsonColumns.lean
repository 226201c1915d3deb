-- What JSON columns receive: a text that reads back as the value that the document has for them.
-- Two values count as the same if they agree where objects are maps from keys to values, in which
-- the last of equal keys wins.
import Mathlib.Data.List.Forall2
import SqlTree.Proofs.JsonPrinting
import SqlTree.Proofs.Presentation
import SqlTree.Proofs.Resolution
import SqlTree.Proofs.Substitution

namespace SqlTree

namespace Json

/-! ## Values as maps -/

/-- The value of a key; the last of equal keys counts. -/
def last? (key : String) : List (String × Json) → Option Json
  | [] => none
  | (k, v) :: rest => (last? key rest).or (if k = key then some v else none)

/-- Two values that agree but for the order of keys and for fields that later ones replace. -/
inductive Agrees : Json → Json → Prop
  | null : Agrees .null .null
  | bool (b : Bool) : Agrees (.bool b) (.bool b)
  | number (n : Number) : Agrees (.number n) (.number n)
  | string (s : String) : Agrees (.string s) (.string s)
  | array {items others : List Json} (agree : List.Forall₂ Agrees items others) :
      Agrees (.array items) (.array others)
  | object {fields others : List (String × Json)}
      (agree : ∀ key, Option.Rel Agrees (last? key fields) (last? key others)) :
      Agrees (.object fields) (.object others)

/-! ## Fields -/

theorem last?_append_singleton (key k : String) (v : Json) (fields : List (String × Json)) :
    last? key (fields ++ [(k, v)]) = if k = key then some v else last? key fields := by
  induction fields with
  | nil => rfl
  | cons field fields ih =>
    rw [List.cons_append, last?, ih, last?]
    split <;> simp

theorem last?_eq_none {key : String} {fields : List (String × Json)}
    (h : ∀ field ∈ fields, field.1 ≠ key) : last? key fields = none := by
  induction fields with
  | nil => rfl
  | cons field fields ih =>
    obtain ⟨hfield, hfields⟩ := List.forall_mem_cons.mp h
    rw [last?, ih hfields, if_neg hfield]
    rfl

theorem mem_of_last? {key : String} {v : Json} {fields : List (String × Json)}
    (h : last? key fields = some v) : (key, v) ∈ fields := by
  induction fields with
  | nil => cases h
  | cons field fields ih =>
    rw [last?, Option.or_eq_some_iff] at h
    rcases h with h | ⟨-, h⟩
    · exact .tail _ (ih h)
    · obtain ⟨rfl, rfl⟩ : field.1 = key ∧ field.2 = v := by simpa using h
      exact .head _

/-- Fields in the order of their keys, no key twice. -/
def IsSorted (fields : List (String × Json)) : Prop := fields.Pairwise (·.1 < ·.1)

theorem mem_insertField {key : String} {value : Json} {field : String × Json}
    {fields : List (String × Json)} (h : field ∈ insertField key value fields) :
    field = (key, value) ∨ field ∈ fields := by
  fun_induction insertField key value fields with
  | case1 => exact .inl (List.mem_singleton.mp h)
  | case2 k v rest hlt => exact List.mem_cons.mp h
  | case3 k v rest hlt heq =>
    rcases List.mem_cons.mp h with h | h
    · exact .inl h
    · exact .inr (.tail _ h)
  | case4 k v rest hlt heq ih =>
    rcases List.mem_cons.mp h with h | h
    · exact .inr (h ▸ .head _)
    · rcases ih h with h | h
      · exact .inl h
      · exact .inr (.tail _ h)

theorem lt_of_not_lt {a b : String} (h : ¬ a < b) (hne : a ≠ b) : b < a := by
  by_contra hba
  exact hne (String.le_antisymm (String.not_lt.mp hba) (String.not_lt.mp h))

theorem isSorted_insertField {fields : List (String × Json)} (h : IsSorted fields) (key : String)
    (value : Json) : IsSorted (insertField key value fields) := by
  fun_induction insertField key value fields with
  | case1 => exact List.pairwise_singleton _ _
  | case2 k v rest hlt =>
    refine List.pairwise_cons.mpr ⟨?_, h⟩
    intro field hfield
    rcases List.mem_cons.mp hfield with rfl | hfield
    · exact hlt
    · exact String.lt_trans hlt ((List.pairwise_cons.mp h).1 field hfield)
  | case3 k v rest hlt heq =>
    obtain rfl : key = k := eq_of_beq heq
    exact List.pairwise_cons.mpr (List.pairwise_cons.mp h)
  | case4 k v rest hlt hne ih =>
    obtain ⟨hk, hrest⟩ := List.pairwise_cons.mp h
    refine List.pairwise_cons.mpr ⟨?_, ih hrest⟩
    intro field hfield
    rcases mem_insertField hfield with rfl | hfield
    · exact lt_of_not_lt hlt (by simpa using hne)
    · exact hk field hfield

/-- A field that is put in counts for its key, and the other keys keep their values. -/
theorem last?_insertField {fields : List (String × Json)} (h : IsSorted fields)
    (key k : String) (value : Json) :
    last? key (insertField k value fields) = if k = key then some value else last? key fields := by
  -- in sorted fields, a key does not come again behind a place where it is not the greater one
  have hnone {k' : String} {v' : Json} {rest : List (String × Json)}
      (hsorted : IsSorted ((k', v') :: rest)) : last? k' rest = none :=
    last?_eq_none fun field hfield heq =>
      String.lt_irrefl k' (heq ▸ (List.pairwise_cons.mp hsorted).1 field hfield)
  fun_induction insertField k value fields with
  | case1 => rfl
  | case2 k' v' rest hlt =>
    have hsorted : IsSorted ((k, value) :: (k', v') :: rest) := by
      simpa [insertField, hlt] using isSorted_insertField h k value
    rw [last?]
    by_cases hkey : k = key
    · subst hkey
      rw [hnone hsorted, if_pos rfl]
      rfl
    · rw [if_neg hkey, if_neg hkey, Option.or_none]
  | case3 k' v' rest hlt heq =>
    obtain rfl : k = k' := eq_of_beq heq
    rw [last?, last?]
    by_cases hkey : k = key
    · subst hkey
      rw [hnone h, if_pos rfl, if_pos rfl]
      rfl
    · rw [if_neg hkey, if_neg hkey, if_neg hkey]
  | case4 k' v' rest hlt hne ih =>
    rw [last?, last?, ih (List.pairwise_cons.mp h).2]
    split <;> simp

/-! ## Canonical values -/

theorem canonicalItems_eq_map (items : List Json) : canonicalItems items = items.map canonical := by
  induction items with
  | nil => rfl
  | cons j js ih => rw [canonicalItems, ih, List.map_cons]

theorem canonicalFields_append (sorted fields : List (String × Json)) (key : String) (v : Json) :
    canonicalFields sorted (fields ++ [(key, v)]) =
      insertField key v.canonical (canonicalFields sorted fields) := by
  induction fields generalizing sorted with
  | nil => rfl
  | cons field fields ih => exact ih _

theorem isSorted_canonicalFields (fields : List (String × Json)) :
    IsSorted (canonicalFields [] fields) := by
  induction fields using List.reverseRecOn with
  | nil => exact .nil
  | append_singleton fields field ih =>
    rw [canonicalFields_append]
    exact isSorted_insertField ih _ _

theorem last?_canonicalFields (key : String) (fields : List (String × Json)) :
    last? key (canonicalFields [] fields) = (last? key fields).map canonical := by
  induction fields using List.reverseRecOn with
  | nil => rfl
  | append_singleton fields field ih =>
    rw [canonicalFields_append, last?_insertField (isSorted_canonicalFields fields),
      last?_append_singleton, ih]
    split <;> rfl

theorem mem_canonicalFields {fields : List (String × Json)} {field : String × Json}
    (h : field ∈ canonicalFields [] fields) :
    ∃ v, (field.1, v) ∈ fields ∧ field.2 = v.canonical := by
  induction fields using List.reverseRecOn with
  | nil => cases h
  | append_singleton fields last ih =>
    rw [canonicalFields_append] at h
    rcases mem_insertField h with rfl | h
    · exact ⟨last.2, by simp, rfl⟩
    · obtain ⟨v, hv, heq⟩ := ih h
      exact ⟨v, List.mem_append_left _ hv, heq⟩

/-- The canonical form of a value is the same value. -/
theorem agrees_canonical (j : Json) : j.Agrees j.canonical := by
  induction j using parts_induction with
  | null => exact .null
  | bool b => exact .bool b
  | number n => exact .number n
  | string s => exact .string s
  | array items ih =>
    rw [canonical, canonicalItems_eq_map]
    refine .array ?_
    rw [List.forall₂_map_right_iff, List.forall₂_same]
    exact ih
  | object fields ih =>
    rw [canonical]
    refine .object fun key => ?_
    rw [last?_canonicalFields]
    cases h : last? key fields with
    | none => exact .none
    | some v => exact .some (ih (key, v) (mem_of_last? h))

theorem isWhole_canonical {j : Json} (h : j.IsWhole) : j.canonical.IsWhole := by
  induction h with
  | null => exact .null
  | bool b => exact .bool b
  | number n => exact .number n
  | string s => exact .string s
  | array _ ih =>
    rw [canonical, canonicalItems_eq_map]
    exact .array (List.forall_mem_map.mpr ih)
  | object _ ih =>
    rw [canonical]
    refine .object fun field hfield => ?_
    obtain ⟨v, hv, heq⟩ := mem_canonicalFields hfield
    exact heq ▸ ih _ hv

theorem canonical_ne_null {j : Json} (h : j ≠ .null) : j.canonical ≠ .null := by
  cases j with
  | null => exact absurd rfl h
  | _ => simp [canonical]

theorem itemsDepth_le {items : List Json} {n : Nat} :
    itemsDepth items ≤ n ↔ ∀ j ∈ items, j.depth ≤ n := by
  induction items with
  | nil => simp [itemsDepth]
  | cons j js ih => simp [itemsDepth, ih]

theorem fieldsDepth_le {fields : List (String × Json)} {n : Nat} :
    fieldsDepth fields ≤ n ↔ ∀ field ∈ fields, field.2.depth ≤ n := by
  induction fields with
  | nil => simp [fieldsDepth]
  | cons field fields ih => simp [fieldsDepth, ih]

theorem depth_canonical_le (j : Json) : j.canonical.depth ≤ j.depth := by
  induction j using parts_induction with
  | null => exact Nat.le_refl _
  | bool b => exact Nat.le_refl _
  | number n => exact Nat.le_refl _
  | string s => exact Nat.le_refl _
  | array items ih =>
    rw [canonical, canonicalItems_eq_map, depth, depth, Nat.add_le_add_iff_right, itemsDepth_le,
      List.forall_mem_map]
    intro j hj
    exact Nat.le_trans (ih j hj) (itemsDepth_le.mp (Nat.le_refl _) j hj)
  | object fields ih =>
    rw [canonical, depth, depth, Nat.add_le_add_iff_right, fieldsDepth_le]
    intro field hfield
    obtain ⟨v, hv, heq⟩ := mem_canonicalFields hfield
    rw [heq]
    exact Nat.le_trans (ih _ hv) (fieldsDepth_le.mp (Nat.le_refl _) _ hv)

end Json

/-! ## Documents with a value -/

namespace Document

/-- A part that must be there lies deeper than the record. -/
theorem IsRecord.exists_shown {parts : List Part} {j : Json} (h : IsRecord parts j)
    (hnames : (parts.map (·.name)).Nodup) {p : Part} (hp : p ∈ parts) (hrequired : ¬ p.IsDefault) :
    ∃ k, p.Shows k ∧ k.depth < j.depth := by
  cases h with
  | @object own others fields hown hothers hperm =>
    rcases hown.mem_or_omitted hnames hp with ⟨k, hk, hmem⟩ | ⟨hdefault, -⟩
    · have hfield : (p.name, k) ∈ fields := hperm.mem_iff.mpr (List.mem_append_left _ hmem)
      have hdepth := Json.fieldsDepth_le.mp (Nat.le_refl _) _ hfield
      exact ⟨k, hk, Nat.lt_succ_of_le hdepth⟩
    · exact absurd hdefault hrequired
  | @array items hitems =>
    rcases hitems.showsFields.mem_or_omitted hnames hp with ⟨k, hk, hmem⟩ | ⟨hdefault, -⟩
    · have hdepth := Json.itemsDepth_le.mp (Nat.le_refl _) _ (List.of_mem_zip hmem).2
      exact ⟨k, hk, Nat.lt_succ_of_le hdepth⟩
    · exact absurd hdefault hrequired

theorem depth_of_isWritten {b : Bind String Json} {text : String}
    (h : IsWritten (.bind b) text) :
    ∃ j : Json, j.canonical = b.value ∧ j.depth ≤ Json.maxDepth := by
  obtain ⟨w, hshown, hdepth, -⟩ := h
  have hvalue : Part.value "value" b.value ∈ [.text "node" "bind",
      .required "attribute" fun j => ∃ table, IsRecord (partsOfColumn table b.name b.type) j,
      .value "value" b.value] := by simp
  have hnames : ["node", "attribute", "value"].Nodup := by decide
  obtain ⟨j, hj, hlt⟩ := IsRecord.exists_shown hshown hnames hvalue id
  exact ⟨j, hj, Nat.le_of_lt (Nat.lt_of_lt_of_le hlt hdepth)⟩

/-! ## JSON columns -/

theorem columnValue_of_json {c : Caster} (hc : c.kind = .json) {j : Json} (hj : j ≠ .null) :
    columnValue c j = .json j := by
  unfold columnValue
  rw [hc]
  cases j with
  | null => exact absurd rfl hj
  | _ => rfl

theorem toQuery_bind {types : TypeMap} {name type : String} {j : Json} {c : Caster}
    (hc : types.lookup type = .ok c) :
    toQuery types (.bind ⟨name, j, type⟩) = .ok (.bind ⟨name, columnValue c j, c⟩) := by
  have hmentions : mentions (.bind ⟨name, j, type⟩) = [⟨name, type⟩] := by
    rw [mentions_eq]
    rfl
  have hagrees : Agrees types (fun _ => c) (mentions (.bind ⟨name, j, type⟩)) := by
    rw [hmentions, Agrees, List.forall_mem_singleton]
    exact hc
  exact toQuery_of_agrees hagrees

end Document

theorem Caster.serialize_json {c : Caster} (hc : c.kind = .json) (j : Json) :
    c.serialize (.json j) = .ok (.text j.compact) := by
  cases c with
  | json | jsonb => rfl
  | _ => cases hc

theorem Node.compile_bind (d : Dialect) (b : Bind Caster Value) :
    ∃ s, compile d (.bind b) = .ok s ∧ s.binds = [b] :=
  ⟨_, compile_eq_ok.mpr ⟨rfl, rfl⟩, rfl⟩

/-- A JSON column receives the value that the document has for it: the text that is sent reads back
as that value, whatever the value is made of, if its numbers are integers of sixty-four bits. -/
theorem Document.json_columns_receive_the_value_itself {j : Json} (hnull : j ≠ .null)
    (hwhole : j.IsWhole) {types : TypeMap} {c : Caster} (hc : c.kind = .json)
    {name type : String} (htype : types.lookup type = .ok c) {text : String}
    (htext : IsWritten (.bind ⟨name, j.canonical, type⟩) text) (d : Dialect) :
    ∃ q s b t k, Query.read types text = .ok q ∧ q.compile d = .ok s ∧ s.binds = [b] ∧
      b.serialize = .ok (.text t) ∧ Json.read? t = some k ∧ j.Agrees k := by
  have hquery : Query.read types text = .ok (.bind ⟨name, .json j.canonical, c⟩) := by
    rw [read_of_isWritten htext, toQuery_bind htype,
      columnValue_of_json hc (Json.canonical_ne_null hnull)]
  obtain ⟨s, hs, hbinds⟩ := Node.compile_bind d ⟨name, .json j.canonical, c⟩
  refine ⟨_, s, _, j.canonical.compact, j.canonical, hquery, hs, hbinds, ?_, ?_,
    j.agrees_canonical⟩
  · exact Caster.serialize_json hc j.canonical
  · obtain ⟨shown, hshown, hdepth⟩ := depth_of_isWritten htext
    refine Json.read?_compact (Json.isWhole_canonical hwhole) ?_
    calc j.canonical.depth
      _ = shown.canonical.depth := by rw [hshown]
      _ ≤ shown.depth := shown.depth_canonical_le
      _ ≤ Json.maxDepth := hdepth

/-- A value with a key that comes twice, the least integer, and characters that are escaped. -/
def mixedJson : Json := .object [
  ("\x01", .number (.int (Int64.minValue).toInt)),
  ("\"\\", .array [.bool true, .null, .array []]),
  ("\x01", .string "\n\x7f😀")]

theorem mixedJson_isWhole : mixedJson.IsWhole := by
  refine .object ?_
  simp only [List.forall_mem_cons]
  refine ⟨.number _, .array ?_, .string _, nofun⟩
  simp only [List.forall_mem_cons]
  exact ⟨.bool _, .null, .array nofun, nofun⟩

/-- A document with the value for a column of the type `JSONB`. -/
def mixedDocument : Json := .object [
  ("attribute", .array [.null, .string "c", .string " JSONB"]),
  ("node", .string "bind"),
  ("value", mixedJson)]

theorem mixedDocument_isWhole : mixedDocument.IsWhole := by
  refine .object ?_
  simp only [List.forall_mem_cons]
  refine ⟨.array ?_, .string _, mixedJson_isWhole, nofun⟩
  simp only [List.forall_mem_cons]
  exact ⟨.null, .string _, .string _, nofun⟩

theorem isWritten_mixedDocument :
    Document.IsWritten (.bind ⟨"c", mixedJson.canonical, " JSONB"⟩) mixedDocument.compact := by
  refine ⟨mixedDocument, ?_, by decide, Json.isText_compact mixedDocument_isWhole⟩
  have hcolumn : Document.IsRecord (Document.partsOfColumn none "c" " JSONB")
      (.array [.null, .string "c", .string " JSONB"]) :=
    .array (.cons rfl (.cons rfl (.cons rfl (.nil nofun))))
  have hothers :
      ∀ field ∈ ([] : List (String × Json)), field.1 ∉ ["node", "attribute", "value"] := by
    simp
  exact .object (.shown rfl (.shown ⟨none, hcolumn⟩ (.shown rfl .nil))) hothers (.swap _ _ _)

theorem Document.json_columns_receive_the_value_itself_with_escapes :
    ∃ q s b t k, Query.read .postgres mixedDocument.compact = .ok q ∧
      q.compile .postgres = .ok s ∧ s.binds = [b] ∧ b.serialize = .ok (.text t) ∧
        Json.read? t = some k ∧ mixedJson.Agrees k := by
  have htype : TypeMap.postgres.lookup " JSONB" = .ok .jsonb := by rfl
  have hnull : mixedJson ≠ .null := nofun
  exact json_columns_receive_the_value_itself hnull mixedJson_isWhole rfl htype
    isWritten_mixedDocument .postgres

end SqlTree
