-- Casting a value a second time. A column takes what it has received as it is, so that a second
-- cast changes nothing. JSON columns are the exception: they put a text in quotes each time.
import SqlTree.Proofs.Received

namespace SqlTree

/-! ## JSON texts grow -/

namespace Json

theorem length_escapeChar_pos (c : Char) : 0 < (escapeChar c).length := by
  unfold escapeChar
  split_ifs <;> simp

theorem length_le_flatMap_escapeChar (cs : List Char) :
    cs.length ≤ (cs.flatMap escapeChar).length := by
  induction cs with
  | nil => simp
  | cons c cs ih =>
    have hc := length_escapeChar_pos c
    rw [List.flatMap_cons, List.length_append, List.length_cons]
    omega

/-- The JSON text of a string is longer than the string. -/
theorem compact_string_ne (s : String) : compact (.string s) ≠ s := by
  intro h
  have hlength := congrArg (·.toList.length) h
  have hescaped := length_le_flatMap_escapeChar s.toList
  simp only [compact, compactChars, scalarChars, stringChars, String.toList_ofList,
    List.length_cons, List.length_append] at hlength
  omega

end Json

/-! ## A second cast -/

namespace Caster

variable {c : Caster} {v w : Value}

theorem isSerializable_of_ok (h : c.serialize v = .ok w) : c.isSerializable v = true := by
  simp [isSerializable, h]

/-- Every column but a JSON one takes what it receives as it is. -/
theorem serialize_of_receives (hc : c.kind ≠ .json) (h : c.Receives w) : c.serialize w = .ok w := by
  cases c with
  | integer width =>
    cases w with
    | integer n =>
      have hcheck := Width.check_of_inRange (show width.InRange n.toInt from h)
      rw [Int64.ofInt_toInt] at hcheck
      exact hcheck
    | _ => exact h.elim
  | json | jsonb => exact absurd rfl hc
  | float =>
    cases w with
    | float d => rfl
    | _ => exact h.elim
  | boolean =>
    cases w with
    | bool b => rfl
    | _ => exact h.elim
  | date =>
    cases w with
    | date d => rfl
    | _ => exact h.elim
  | timestamp =>
    cases w with
    | timestamp t => rfl
    | _ => exact h.elim
  | bytea =>
    cases w with
    | bytes data => rfl
    | _ => exact h.elim
  | text | array =>
    cases w with
    | text s => rfl
    | _ => exact h.elim

/-- A JSON column takes a text for a string, not for JSON text. -/
theorem serialize_json_of_receives (hc : c.kind = .json) (h : c.Receives w) :
    ∃ s t, w = .text s ∧ c.serialize w = .ok (.text t) ∧ t ≠ s := by
  cases c with
  | json | jsonb =>
    cases w with
    | text s => exact ⟨s, _, rfl, rfl, Json.compact_string_ne s⟩
    | _ => exact h.elim
  | _ => cases hc

/-- A second cast changes nothing: what a column receives for a value is what it receives for that
again. Only JSON columns change what they have received, unless it is null. -/
theorem cast_values_stay_as_they_are (h : c.serialize v = .ok w) :
    (c.kind ≠ .json → c.serialize w = .ok w ∧ c.isSerializable w = true) ∧
      (c.kind = .json → w ≠ .null → ∃ u, c.serialize w = .ok u ∧ u ≠ w) := by
  by_cases hv : v = .null
  · subst hv
    rw [serialize_null] at h
    cases h
    exact ⟨fun _ => ⟨serialize_null, isSerializable_of_ok serialize_null⟩,
      fun _ hnull => absurd rfl hnull⟩
  · have hreceives := receives_of_serialize hv h
    constructor
    · intro hc
      have hagain := serialize_of_receives hc hreceives
      exact ⟨hagain, isSerializable_of_ok hagain⟩
    · intro hc _
      obtain ⟨s, t, rfl, hagain, hne⟩ := serialize_json_of_receives hc hreceives
      exact ⟨.text t, hagain, fun heq => hne (Value.text.inj heq)⟩

/-- A literal of JSON texts with a delimiter of its own, the largest integer of two bytes from a
text, and a JSON string. -/
theorem cast_values_stay_as_they_are_in_three_columns :
    let documents : Caster := .array .json ';'
    let literal : Value := .text "\x7b\"\\\"a\\\"\";NULL\x7d"
    (documents.serialize (.array [.text "a", .null]) = .ok literal ∧
      documents.serialize literal = .ok literal) ∧
    ((ofBytes 2).serialize (.text " 32767 ") = .ok (.integer 32767) ∧
      (ofBytes 2).serialize (.integer 32767) = .ok (.integer 32767)) ∧
    (json.serialize (.text "a") = .ok (.text "\"a\"") ∧
      ∃ u, json.serialize (.text "\"a\"") = .ok u ∧ u ≠ .text "\"a\"") := by
  intro documents literal
  have hdocuments : documents.serialize (.array [.text "a", .null]) = .ok literal := by rfl
  have hread : Text.readInt (Text.trimChars " 32767 ".toList) = some 32767 := by decide +kernel
  have hinteger : (ofBytes 2).serialize (.text " 32767 ") = .ok (.integer 32767) := by
    show (Width.clamp 2).serialize (.text " 32767 ") = _
    rw [Width.serialize, hread]
    rfl
  have hstring : json.serialize (.text "a") = .ok (.text "\"a\"") := by rfl
  refine ⟨⟨hdocuments, ?_⟩, ⟨hinteger, ?_⟩, hstring, ?_⟩
  · exact ((cast_values_stay_as_they_are hdocuments).1 (by decide)).1
  · exact ((cast_values_stay_as_they_are hinteger).1 (by decide)).1
  · have hnull : Value.text "\"a\"" ≠ .null := by simp
    exact (cast_values_stay_as_they_are hstring).2 rfl hnull

end Caster

end SqlTree
