-- What the columns of each type receive: null for null alone, and for everything else that they
-- take a value of their own kind, integers within the range of the column.
import SqlTree.Proofs.IntegerCasting

namespace SqlTree.Caster

/-- The values, null apart, that a column receives. -/
def Receives : Caster → Value → Prop
  | integer width, .integer n => width.InRange n.toInt
  | float, .float _ => True
  | boolean, .bool _ => True
  | text, .text _ => True
  | date, .date _ => True
  | timestamp, .timestamp _ => True
  | bytea, .bytes _ => True
  | json, .text _ => True
  | jsonb, .text _ => True
  | array _ _, .text _ => True
  | _, _ => False

variable {c : Caster} {v w : Value}

theorem receives_of_orInvalid {α : Type} {sqlType : String} {read : Option α} (make : α → Value)
    (hmake : ∀ a, c.Receives (make a)) (h : orInvalid sqlType v (read.map make) = .ok w) :
    c.Receives w := by
  obtain ⟨a, -, rfl⟩ := Option.map_eq_some_iff.mp (orInvalid_eq_ok.mp h)
  exact hmake a

theorem receives_integer {width : Width} (hv : v ≠ .null) (h : width.serialize v = .ok w) :
    (integer width).Receives w := by
  rcases Width.denotes_of_serialize h with ⟨hnull, -⟩ | ⟨z, -, hz, rfl⟩
  · exact absurd hnull hv
  · have hword : width.InRange (Int64.ofInt z).toInt := by
      rw [hz.toInt_ofInt]
      exact hz
    exact hword

theorem receives_boolean (hv : v ≠ .null) (h : serializeBoolean v = .ok w) :
    boolean.Receives w := by
  cases v with
  | null => exact absurd rfl hv
  | bool b =>
    cases h
    trivial
  | integer n =>
    simp only [serializeBoolean] at h
    split at h
    · cases h
      trivial
    · split at h
      · cases h
        trivial
      · cases h
  | text s =>
    simp only [serializeBoolean] at h
    exact receives_of_orInvalid .bool (fun _ => trivial) h
  | _ => cases h

theorem receives_array {element : Caster} {delimiter : Char} (hv : v ≠ .null)
    (h : (array element delimiter).serialize v = .ok w) :
    (array element delimiter).Receives w := by
  cases v with
  | null => exact absurd rfl hv
  | text s =>
    cases h
    trivial
  | array items =>
    simp only [serialize, serializeArray] at h
    cases hcast : castItems element.serialize items with
    | error e => simp [hcast, bind, Except.bind] at h
    | ok ws =>
      simp only [hcast, bind, Except.bind, pure, Except.pure, Except.ok.injEq] at h
      subst h
      trivial
  | _ => cases h

/-- A column receives a value of its own kind for whatever it takes, null apart. -/
theorem receives_of_serialize (hv : v ≠ .null) (h : c.serialize v = .ok w) : c.Receives w := by
  cases c with
  | integer width => exact receives_integer hv h
  | boolean => exact receives_boolean hv h
  | array element delimiter => exact receives_array hv h
  | float =>
    cases v with
    | null => exact absurd rfl hv
    | text s => exact receives_of_orInvalid .float (fun _ => trivial) h
    | integer _ | float _ =>
      cases h
      trivial
    | _ => cases h
  | date =>
    cases v with
    | null => exact absurd rfl hv
    | text s => exact receives_of_orInvalid .date (fun _ => trivial) h
    | date _ | timestamp _ =>
      cases h
      trivial
    | _ => cases h
  | timestamp =>
    cases v with
    | null => exact absurd rfl hv
    | text s => exact receives_of_orInvalid .timestamp (fun _ => trivial) h
    | date _ | timestamp _ =>
      cases h
      trivial
    | _ => cases h
  | text | bytea | json | jsonb =>
    cases v with
    | null => exact absurd rfl hv
    | _ =>
      cases h
      all_goals trivial

theorem serialize_null : c.serialize .null = .ok .null := by
  cases c <;> rfl

theorem not_receives_null : ¬ c.Receives .null := by
  cases c <;> exact id

/-- Only for null does a column receive null. -/
theorem ne_null_of_serialize (hv : v ≠ .null) (h : c.serialize v = .ok w) : w ≠ .null := by
  rintro rfl
  exact not_receives_null (receives_of_serialize hv h)

end SqlTree.Caster
