-- The plain texts of what columns receive. Literals and array items send nothing else, so a column
-- of scalars other than doubles has to read each of them back as the value it was written for.
import SqlTree.Proofs.CalendarText
import SqlTree.Proofs.Received

namespace SqlTree.Caster

variable {c : Caster} {w : Value}

/-- The column takes the plain text of a value for the value itself. -/
def ReadsBack (c : Caster) (w : Value) : Prop :=
  ∃ s, w.toText? = some s ∧ c.serialize (.text s) = .ok w

/-! ## One kind of column after the other -/

theorem readsBack_integer {width : Width} {n : Int64} (hn : width.InRange n.toInt) :
    (integer width).ReadsBack (.integer n) := by
  have hdenotes : (Value.text (integerText n)).Denotes n.toInt := Text.denotes_integerText n
  exact ⟨integerText n, rfl, Width.serialize_eq_integer.mpr ⟨hdenotes, hn⟩⟩

theorem readsBack_boolean (b : Bool) : boolean.ReadsBack (.bool b) := by
  cases b with
  | true => exact ⟨"t", rfl, rfl⟩
  | false => exact ⟨"f", rfl, rfl⟩

theorem readsBack_date (d : Date) : date.ReadsBack (.date d) := by
  refine ⟨d.text, rfl, ?_⟩
  rw [serialize, serializeDate, Date.read?_text]
  rfl

theorem readsBack_timestamp (t : Timestamp) : timestamp.ReadsBack (.timestamp t) := by
  refine ⟨t.text, rfl, ?_⟩
  rw [serialize, serializeTimestamp, Timestamp.read?_text]
  rfl

theorem readsBack_of_receives (hscalar : c.kind = .scalar) (hfloat : c ≠ .float)
    (hw : c.Receives w) : c.ReadsBack w := by
  cases c with
  | integer width =>
    cases w with
    | integer n => exact readsBack_integer hw
    | _ => exact hw.elim
  | float => exact absurd rfl hfloat
  | boolean =>
    cases w with
    | bool b => exact readsBack_boolean b
    | _ => exact hw.elim
  | text =>
    cases w with
    | text s => exact ⟨s, rfl, rfl⟩
    | _ => exact hw.elim
  | date =>
    cases w with
    | date d => exact readsBack_date d
    | _ => exact hw.elim
  | timestamp =>
    cases w with
    | timestamp t => exact readsBack_timestamp t
    | _ => exact hw.elim
  | bytea | json | jsonb | array _ _ => cases hscalar

/-- What is read back is received, for the text that it is read from. -/
theorem receives_of_readsBack (h : c.ReadsBack w) : c.Receives w := by
  obtain ⟨s, -, hs⟩ := h
  exact receives_of_serialize (by simp) hs

/-! ## The law -/

/-- Columns of integers, truth values, texts, dates and timestamps read back the plain text of
whatever they receive, null apart. They read back every integer of their range, both truth values,
every text, every date and every timestamp, and nothing else. -/
theorem plain_texts_are_read_back (c : Caster) (hscalar : c.kind = .scalar) (hfloat : c ≠ .float) :
    (∀ v w, c.serialize v = .ok w → w ≠ .null → c.ReadsBack w) ∧
    (∀ w, c.ReadsBack w ↔ c.Receives w) := by
  refine ⟨?_, fun w => ⟨receives_of_readsBack, readsBack_of_receives hscalar hfloat⟩⟩
  intro v w hv hw
  have hnull : v ≠ .null := by
    rintro rfl
    rw [serialize_null] at hv
    cases hv
    exact hw rfl
  exact readsBack_of_receives hscalar hfloat (receives_of_serialize hnull hv)

/-- The least integer, the first day of the calendar and its last leap second are read back. -/
theorem plain_texts_are_read_back_at_the_ends :
    let first : Date := ⟨-262143, 1, 1, by decide⟩
    let last : Timestamp := ⟨⟨262142, 12, 31, by decide⟩, 23, 59, 59, 1500000000, by decide⟩
    ((Value.integer Int64.minValue).toText? = some "-9223372036854775808" ∧
      (ofBytes 8).serialize (.text "-9223372036854775808") = .ok (.integer Int64.minValue)) ∧
    ((Value.date first).toText? = some "-262143-01-01" ∧
      date.serialize (.text "-262143-01-01") = .ok (.date first)) ∧
    ((Value.timestamp last).toText? = some "+262142-12-31 23:59:60.500" ∧
      timestamp.serialize (.text "+262142-12-31 23:59:60.500") = .ok (.timestamp last)) := by
  intro first last
  have hread (c : Caster) (hscalar : c.kind = .scalar) (hfloat : c ≠ .float) (w : Value)
      (hw : c.Receives w) (s : String) (hs : w.toText? = some s) :
      w.toText? = some s ∧ c.serialize (.text s) = .ok w := by
    obtain ⟨s', hs', hread⟩ := ((plain_texts_are_read_back c hscalar hfloat).2 w).mpr hw
    rw [hs] at hs'
    cases hs'
    exact ⟨hs, hread⟩
  have hleast : (Width.clamp 8).InRange Int64.minValue.toInt := by decide
  exact ⟨hread (ofBytes 8) rfl nofun (.integer Int64.minValue) hleast _ (by decide),
    hread date rfl nofun (.date first) trivial _ (by decide),
    hread timestamp rfl nofun (.timestamp last) trivial _ (by decide)⟩

end SqlTree.Caster
