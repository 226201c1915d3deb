-- Records in a document: the ways to write one, as an object or as an array, and the slots that
-- hold its parts however it is written.
import Mathlib.Data.List.Nodup
import SqlTree.Document.Slots

namespace SqlTree.Document

/-! ## Parts and records -/

/-- A part of a record: its name, the values that show it, and whether it has its default, so that
it may be left out. -/
structure Part where
  name : String
  Shows : Json → Prop
  IsDefault : Prop

namespace Part

def required (name : String) (Shows : Json → Prop) : Part := ⟨name, Shows, False⟩

def text (name s : String) : Part := required name (· = .string s)

def textOrNull (name : String) (o : Option String) : Part :=
  ⟨name, (· = o.elim .null .string), o = none⟩

def flag (name : String) (default b : Bool) : Part := ⟨name, (· = .bool b), b = default⟩

/-- A plain value, with its objects in any order. -/
def value (name : String) (v : Json) : Part := required name (·.canonical = v)

end Part

/-- The fields of an object that show parts; those that have their default may be left out. -/
inductive ShowsFields : List Part → List (String × Json) → Prop
  | nil : ShowsFields [] []
  | shown {p : Part} {ps : List Part} {j : Json} {fields : List (String × Json)} :
      p.Shows j → ShowsFields ps fields → ShowsFields (p :: ps) ((p.name, j) :: fields)
  | omitted {p : Part} {ps : List Part} {fields : List (String × Json)} :
      p.IsDefault → ShowsFields ps fields → ShowsFields (p :: ps) fields

/-- The items of an array that show parts in order; the last ones may be left out where they have
their defaults. -/
inductive ShowsItems : List Part → List Json → Prop
  | nil {ps : List Part} : (∀ p ∈ ps, p.IsDefault) → ShowsItems ps []
  | cons {p : Part} {ps : List Part} {j : Json} {items : List Json} :
      p.Shows j → ShowsItems ps items → ShowsItems (p :: ps) (j :: items)

/-- The ways to write a record: as an object, in any order and with other keys among its own, or as
an array. -/
inductive IsRecord (parts : List Part) : Json → Prop
  | object {own others fields : List (String × Json)} :
      ShowsFields parts own → (∀ field ∈ others, field.1 ∉ parts.map (·.name)) →
        fields.Perm (own ++ others) → IsRecord parts (.object fields)
  | array {items : List Json} : ShowsItems parts items → IsRecord parts (.array items)

/-! ## Slots by name -/

/-- A key that occurs once, wherever it stands. -/
theorem filter_key_of_perm {α : Type} {key : String} {a : α} {rest fields : List (String × α)}
    (hperm : fields.Perm ((key, a) :: rest)) (hrest : ∀ field ∈ rest, field.1 ≠ key) :
    fields.filter (·.1 == key) = [(key, a)] ∧ (fields.filter (·.1 != key)).Perm rest := by
  have hnone : rest.filter (·.1 == key) = [] :=
    List.filter_eq_nil_iff.mpr fun field h => by simpa using hrest field h
  have hall : rest.filter (·.1 != key) = rest :=
    List.filter_eq_self.mpr fun field h => by simpa using hrest field h
  have hkey := hperm.filter (·.1 == key)
  have hothers := hperm.filter (·.1 != key)
  rw [List.filter_cons_of_pos (by simp), hnone] at hkey
  rw [List.filter_cons_of_neg (by simp), hall] at hothers
  exact ⟨List.perm_singleton.mp hkey, hothers⟩

namespace Slots

variable {α β : Type}

theorem hasRepeats_eq_false {names : List String} : hasRepeats names = false ↔ names.Nodup := by
  induction names with
  | nil => simp [hasRepeats]
  | cons name names ih => simp [hasRepeats, ih]

theorem get?_eq_some {s : Slots α} {name : String} {a : α} (hs : (s.entries.map (·.1)).Nodup)
    (h : (name, a) ∈ s.entries) : s.get? name = some a := by
  obtain ⟨entries⟩ := s
  induction entries with
  | nil => cases h
  | cons entry entries ih =>
    obtain ⟨hentry, hrest⟩ := List.nodup_cons.mp hs
    rcases List.mem_cons.mp h with rfl | hmem
    · simp [get?]
    · have hne : entry.1 ≠ name := fun heq => hentry (List.mem_map.mpr ⟨_, hmem, heq.symm⟩)
      simpa [get?, hne] using ih hrest hmem

theorem get?_eq_none {s : Slots α} {name : String} (h : name ∉ s.entries.map (·.1)) :
    s.get? name = none := by
  rw [get?, Option.map_eq_none_iff, List.find?_eq_none]
  rintro entry hentry heq
  exact h (eq_of_beq heq ▸ List.mem_map_of_mem hentry)

end Slots

/-! ## Slots of a record -/

/-- A part is in its slot, or has its default and the slot is empty. The values are in the slots as
`f` has them. -/
def Part.HeldBy {α : Type} (f : Json → α) (s : Slots α) (p : Part) : Prop :=
  (∃ j, p.Shows j ∧ s.get? p.name = some (f j)) ∨ (p.IsDefault ∧ s.get? p.name = none)

namespace Part.HeldBy

variable {α β : Type} {f : Json → α} {s : Slots α} {p : Part}

theorem required {read : α → Option β} {b : β} (h : p.HeldBy f s) (hp : ¬ p.IsDefault)
    (hread : ∀ j, p.Shows j → read (f j) = some b) : s.required p.name read = some b := by
  obtain ⟨j, hj, hget⟩ | ⟨hdefault, -⟩ := h
  · rw [Slots.required, hget]
    exact hread j hj
  · exact absurd hdefault hp

theorem withDefault {read : α → Option β} {b default : β} (h : p.HeldBy f s)
    (hp : p.IsDefault → b = default) (hread : ∀ j, p.Shows j → read (f j) = some b) :
    s.withDefault p.name default read = some b := by
  obtain ⟨j, hj, hget⟩ | ⟨hdefault, hget⟩ := h
  · rw [Slots.withDefault, hget]
    exact hread j hj
  · rw [Slots.withDefault, hget, hp hdefault]

end Part.HeldBy

section

variable {α : Type} {parts : List Part} {own others fields : List (String × Json)}

theorem ShowsFields.sublist (h : ShowsFields parts own) :
    (own.map (·.1)).Sublist (parts.map (·.name)) := by
  induction h with
  | nil => exact .slnil
  | shown _ _ ih => exact ih.cons_cons _
  | omitted _ _ ih => exact ih.cons _

/-- Every part is among the fields under its name, or has its default and is not there. -/
theorem ShowsFields.mem_or_omitted (h : ShowsFields parts own)
    (hnames : (parts.map (·.name)).Nodup) {p : Part} (hp : p ∈ parts) :
    (∃ j, p.Shows j ∧ (p.name, j) ∈ own) ∨ (p.IsDefault ∧ p.name ∉ own.map (·.1)) := by
  induction h with
  | nil => cases hp
  | @shown q ps j fields hq _ ih =>
    obtain ⟨hqs, hps⟩ := List.nodup_cons.mp hnames
    rcases List.mem_cons.mp hp with rfl | hmem
    · exact .inl ⟨j, hq, .head _⟩
    · have hne : p.name ≠ q.name := fun heq => hqs (List.mem_map.mpr ⟨p, hmem, heq⟩)
      rcases ih hps hmem with ⟨k, hk, hin⟩ | ⟨hdefault, hnot⟩
      · exact .inl ⟨k, hk, .tail _ hin⟩
      · exact .inr ⟨hdefault, by simpa [hne] using hnot⟩
  | @omitted q ps fields hq hrest ih =>
    obtain ⟨hqs, hps⟩ := List.nodup_cons.mp hnames
    rcases List.mem_cons.mp hp with rfl | hmem
    · exact .inr ⟨hq, fun hin => hqs (hrest.sublist.subset hin)⟩
    · exact ih hps hmem

theorem ShowsFields.heldBy (h : ShowsFields parts own) (hnames : (parts.map (·.name)).Nodup)
    (f : Json → α) {entries : List (String × α)} (hperm : entries.Perm (own.map (Prod.map id f))) :
    ∀ p ∈ parts, p.HeldBy f ⟨entries⟩ := by
  intro p hp
  have hkeys : (entries.map (·.1)).Perm (own.map (·.1)) := by
    simpa [Function.comp_def] using hperm.map (·.1)
  rcases h.mem_or_omitted hnames hp with ⟨j, hj, hin⟩ | ⟨hdefault, hnot⟩
  · have hdistinct : (entries.map (·.1)).Nodup := hkeys.nodup_iff.mpr (h.sublist.nodup hnames)
    exact .inl ⟨j, hj, Slots.get?_eq_some hdistinct
      (hperm.mem_iff.mpr (List.mem_map_of_mem (f := Prod.map id f) hin))⟩
  · exact .inr ⟨hdefault, Slots.get?_eq_none fun hin => hnot (hkeys.mem_iff.mp hin)⟩

theorem ShowsFields.of_defaults (h : ∀ p ∈ parts, p.IsDefault) : ShowsFields parts [] := by
  induction parts with
  | nil => exact .nil
  | cons p ps ih =>
    obtain ⟨hp, hps⟩ := List.forall_mem_cons.mp h
    exact .omitted hp (ih hps)

/-- An array of parts shows them as the object does that has their names for keys. -/
theorem ShowsItems.showsFields {items : List Json} (h : ShowsItems parts items) :
    ShowsFields parts ((parts.map (·.name)).zip items) := by
  induction h with
  | nil hdefaults => simpa using ShowsFields.of_defaults hdefaults
  | cons hj _ ih => exact .shown hj ih

theorem ShowsItems.length_le {items : List Json} (h : ShowsItems parts items) :
    items.length ≤ parts.length := by
  induction h with
  | nil => exact Nat.zero_le _
  | cons _ _ ih => exact Nat.succ_le_succ ih

/-- The slots of an object hold the parts that it shows. -/
theorem ShowsFields.exists_slots (h : ShowsFields parts own)
    (hothers : ∀ field ∈ others, field.1 ∉ parts.map (·.name)) (hperm : fields.Perm (own ++ others))
    (hnames : (parts.map (·.name)).Nodup) (f : Json → α) :
    ∃ s, Slots.ofObject? (parts.map (·.name)) (fields.map (Prod.map id f)) = some s ∧
      ∀ p ∈ parts, p.HeldBy f s := by
  have hknown : ((fields.map (Prod.map id f)).filter
      fun field => (parts.map (·.name)).contains field.1).Perm (own.map (Prod.map id f)) := by
    have hown : own.filter (fun field => (parts.map (·.name)).contains field.1) = own :=
      List.filter_eq_self.mpr fun field hfield => List.contains_iff_mem.mpr
        (h.sublist.subset (List.mem_map_of_mem hfield))
    have hrest : others.filter (fun field => (parts.map (·.name)).contains field.1) = [] :=
      List.filter_eq_nil_iff.mpr fun field hfield hin =>
        hothers field hfield (List.contains_iff_mem.mp hin)
    have hfilter := (hperm.filter fun field => (parts.map (·.name)).contains field.1).map
      (Prod.map id f)
    rw [List.filter_append, hown, hrest, List.append_nil] at hfilter
    rw [List.filter_map]
    exact hfilter
  have hkeys := hknown.map (·.1)
  refine ⟨_, ?_, h.heldBy hnames f hknown⟩
  have hdistinct : ((own.map (Prod.map id f)).map (·.1)).Nodup := by
    simpa [Function.comp_def] using h.sublist.nodup hnames
  rw [Slots.ofObject?, Slots.hasRepeats_eq_false.mpr (hkeys.nodup_iff.mpr hdistinct)]
  rfl

/-- The slots of an array hold the parts that it shows. -/
theorem ShowsItems.exists_slots {items : List Json} (h : ShowsItems parts items)
    (hnames : (parts.map (·.name)).Nodup) (f : Json → α) :
    ∃ s, Slots.ofArray? (parts.map (·.name)) (items.map f) = some s ∧
      ∀ p ∈ parts, p.HeldBy f s := by
  refine ⟨⟨(parts.map (·.name)).zip (items.map f)⟩, ?_, h.showsFields.heldBy hnames f ?_⟩
  · simp [Slots.ofArray?, h.length_le]
  · rw [List.zip_map_right]

end

end SqlTree.Document
