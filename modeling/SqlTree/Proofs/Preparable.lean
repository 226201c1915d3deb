-- Which statements may be prepared. A statement may be prepared unless its text changes with a
-- number of values, and the text of one that may be prepared shows nothing of the values that are
-- bound to it.
import SqlTree.Proofs.BindOrder
import SqlTree.Proofs.Congruence

namespace SqlTree

/-! ## The mark -/

namespace Node

/-- Whether the text of a node changes with a number of values: it is a test against a list that is
not empty, or one against values that are bound one by one. -/
def isVarying (g : Grammar) : Query → Bool
  | .binary op _ (.list (_ :: _)) => op.isElementTest
  | .inList m => m.isPerValue g
  | _ => false

/-- The mark of a node whose text changes. -/
def ownMark (g : Grammar) (n : Query) : List Unit := if n.isVarying g then [()] else []

end Node

/-- A rendering that goes through is marked exactly if there is a mark. -/
def Rendering.IsMarked (r : Rendering) (marks : List Unit) : Prop :=
  r.error = none → (r.perValue = true ↔ () ∈ marks)

namespace Rendering

theorem isMarked_addsUp : AddsUp IsMarked where
  empty := fun _ => by simp [empty]
  text := fun _ _ => by simp [text]
  append := by
    intro a b x y ha hb h
    obtain ⟨hea, heb⟩ := append_error_eq_none.mp h
    rw [append_of_ok hea, Bool.or_eq_true, ha hea, hb heb, List.mem_append]

theorem isMarked_fail (e : CompileError) (marks : List Unit) : (fail e).IsMarked marks := by
  intro h
  simp at h

theorem isMarked_bind (b : Bind Caster Value) : (bind b).IsMarked [] := fun _ => by simp [bind]

theorem isMarked_perValueInList (d : Dialect) (m : InList Caster Value) :
    (Render.perValueInList d m).IsMarked [()] := by
  intro _
  have hmark : (Render.perValueInList d m).perValue = true := rfl
  simp [hmark]

theorem isMarked_arrayInList (d : Dialect) (m : InList Caster Value) :
    (Render.arrayInList d m).IsMarked [] := by
  refine isMarked_addsUp.append (isMarked_addsUp.column _)
    (isMarked_addsUp.before _ (isMarked_addsUp.after _ ?_))
  cases m.candidates with
  | error e => exact isMarked_fail _ _
  | ok vs => exact isMarked_bind _

theorem isMarked_tally (d : Dialect) : Tally d (Node.ownMark d.grammar) IsMarked where
  toAddsUp := isMarked_addsUp
  bind := isMarked_bind
  casted := by
    intro c v
    cases c.type.serialize v with
    | error e => exact isMarked_fail _ _
    | ok w => exact isMarked_addsUp.text _
  inList := by
    intro m
    rw [Render.inList_eq, Node.ownMark, Node.isVarying]
    split
    · exact isMarked_perValueInList d m
    · exact isMarked_arrayInList d m
  elements := by
    intro op l e es hop _
    simp [Node.ownMark, Node.isVarying, hop, varying]
  unsupported := fun n _ _ => isMarked_fail _ _
  quiet := by
    intro n h
    cases n with
    | inList m => cases h
    | binary op l r =>
      cases r with
      | list items =>
        cases items with
        | nil => rfl
        | cons e es =>
          have hop : op.isElementTest = false := by simpa [Node.isQuiet] using h
          simp [Node.ownMark, Node.isVarying, hop]
      | _ => rfl
    | _ => rfl
  null := by
    intro n h
    cases n with
    | quoted v => rfl
    | casted c v => rfl
    | _ => cases h

end Rendering

/-- A statement may be prepared unless the text of some node that is rendered changes with a number
of values. -/
theorem Node.preparable_eq_false {d : Dialect} {n : Query} {s : Statement}
    (h : n.compile d = .ok s) :
    s.preparable = false ↔ ∃ c ∈ n.renderedNodes, c.isVarying d.grammar = true := by
  obtain ⟨hr, rfl⟩ := compile_eq_ok.mp h
  have hmark := (Rendering.isMarked_tally d).render n hr
  show (!(n.render d).perValue) = false ↔ _
  rw [Bool.not_eq_false', hmark, mem_gatherVisited]
  simp [ownMark]

/-! ## Templates -/

/-- The bind without its value. -/
def Bind.blank (b : Bind Caster Value) : Bind Caster Value := { b with value := .null }

/-- The piece without a bound value. -/
def Piece.blank : Piece → Piece
  | .text s => .text s
  | .bind b => .bind b.blank

/-- The leaf without bound values. -/
def Node.blank : Query → Query
  | .bind b => .bind b.blank
  | .inList m => .inList { m with values := [] }
  | n => n

/-- The tree without the values that are bound and the values that columns are tested against. Two
trees that differ in nothing else have one template. -/
def Node.template (n : Query) : Query := n.mapLeaves Node.blank

namespace Piece

theorem binds_map_blank (ps : List Piece) :
    binds (ps.map blank) = (binds ps).map Bind.blank := by
  induction ps with
  | nil => rfl
  | cons p ps ih => cases p <;> simp [blank, binds, ih]

theorem weave_map_blank (fills : List String) (ps : List Piece) :
    weave fills (ps.map blank) = weave fills ps := by
  induction ps generalizing fills with
  | nil => rfl
  | cons p ps ih =>
    cases p with
    | text s => simp [blank, weave, ih]
    | bind b => cases fills <;> simp [blank, weave, ih]

end Piece

/-- A rendering that goes through fits a template: the template goes through too and has the same
mark, and the pieces are the same but for the values, as long as there is no mark. -/
def Rendering.Fits (r template : Rendering) : Prop :=
  r.error = none → template.error = none ∧ template.perValue = r.perValue ∧
    (r.perValue = false → template.pieces.map Piece.blank = r.pieces.map Piece.blank)

namespace Rendering

theorem fits_congruence : Congruence Fits where
  refl := fun r h => ⟨h, rfl, fun _ => rfl⟩
  append := by
    intro a a' b b' ha hb h
    obtain ⟨hea, heb⟩ := append_error_eq_none.mp h
    obtain ⟨hea', hva, hpa⟩ := ha hea
    obtain ⟨heb', hvb, hpb⟩ := hb heb
    rw [append_of_ok hea, append_of_ok hea']
    refine ⟨heb', by rw [hva, hvb], ?_⟩
    intro hv
    obtain ⟨hav, hbv⟩ := Bool.or_eq_false_iff.mp hv
    simp only [List.map_append, hpa hav, hpb hbv]

theorem fits_fail (e : CompileError) (template : Rendering) : (fail e).Fits template := by
  intro h
  simp at h

theorem fits_perValueInList (d : Dialect) (m : InList Caster Value) :
    (Render.perValueInList d m).Fits (Render.perValueInList d { m with values := [] }) := by
  have hblank : (Render.perValueInList d { m with values := [] }).error = none := by
    have hcolumn := (Render.column_goes_through d m.column).1
    show (Render.column d m.column ++ _).error = none
    rw [append_of_ok hcolumn]
    rfl
  -- Both are marked, so nothing is asked of the pieces.
  exact fun _ => ⟨hblank, rfl, fun h => Bool.noConfusion h⟩

theorem fits_arrayInList (d : Dialect) (m : InList Caster Value) :
    (Render.arrayInList d m).Fits (Render.arrayInList d { m with values := [] }) := by
  refine fits_congruence.append (fits_congruence.refl _)
    (fits_congruence.before _ (fits_congruence.after _ ?_))
  cases m.candidates with
  | error e => exact fits_fail _ _
  | ok vs => exact fun _ => ⟨rfl, rfl, fun _ => rfl⟩

theorem fits_blank (d : Dialect) (n : Query) : (n.render d).Fits (n.blank.render d) := by
  cases n with
  | bind b => exact fun _ => ⟨rfl, rfl, fun _ => rfl⟩
  | inList m =>
    show (Render.inList d.grammar d m).Fits (Render.inList d.grammar d { m with values := [] })
    rw [Render.inList_eq, Render.inList_eq]
    have hper : InList.isPerValue d.grammar { m with values := [] } = m.isPerValue d.grammar := rfl
    rw [hper]
    split
    · exact fits_perValueInList d m
    · exact fits_arrayInList d m
  | _ => exact fits_congruence.refl _

theorem fits_template (d : Dialect) (n : Query) : (n.render d).Fits (n.template.render d) := by
  refine fits_congruence.mapLeaves ?_ (fits_blank d) n
  intro n
  cases n <;> rfl

end Rendering

/-- Two renderings that fit one template differ in nothing but values unless they are marked. -/
theorem Rendering.Fits.pieces_eq {r r' template : Rendering} (h : r.Fits template)
    (h' : r'.Fits template) (hr : r.error = none) (hr' : r'.error = none)
    (hvalue : r.perValue = false) :
    r'.perValue = false ∧ r'.pieces.map Piece.blank = r.pieces.map Piece.blank := by
  obtain ⟨-, hmark, hpieces⟩ := h hr
  obtain ⟨-, hmark', hpieces'⟩ := h' hr'
  have hvalue' : r'.perValue = false := by rw [← hmark', hmark, hvalue]
  refine ⟨hvalue', ?_⟩
  rw [← hpieces' hvalue', hpieces hvalue]

/-- Pieces that differ in nothing but values have binds of the same names and types. -/
theorem Piece.binds_of_blank_eq {ps qs : List Piece} (h : qs.map blank = ps.map blank) :
    (binds qs).length = (binds ps).length ∧
      (binds qs).map (·.name) = (binds ps).map (·.name) ∧
      (binds qs).map (·.type.sqlType) = (binds ps).map (·.type.sqlType) := by
  have hbinds : (binds qs).map Bind.blank = (binds ps).map Bind.blank := by
    rw [← binds_map_blank, ← binds_map_blank, h]
  have hlength := congrArg List.length hbinds
  have hnames := congrArg (List.map (·.name)) hbinds
  have htypes := congrArg (List.map (·.type.sqlType)) hbinds
  rw [List.length_map, List.length_map] at hlength
  rw [List.map_map, List.map_map] at hnames htypes
  exact ⟨hlength, hnames, htypes⟩

/-! ## The law -/

/-- A statement may be prepared unless a node that is rendered has a text that changes with a number
of values. If it may be prepared, then whatever other values are bound and columns tested against,
the statement has the same text, may be prepared as well, and has binds of the same names and
types. -/
theorem Node.preparable_statements_show_no_values (d : Dialect) (n : Query) (s : Statement)
    (hs : n.compile d = .ok s) :
    (s.preparable = false ↔ ∃ c ∈ n.renderedNodes, c.isVarying d.grammar = true) ∧
    (s.preparable = true → ∀ (n' : Query) (s' : Statement), n'.template = n.template →
      n'.compile d = .ok s' →
        s'.sql = s.sql ∧ s'.preparable = true ∧ s'.binds.length = s.binds.length ∧
        s'.binds.map (·.name) = s.binds.map (·.name) ∧
        s'.binds.map (·.type.sqlType) = s.binds.map (·.type.sqlType)) := by
  refine ⟨preparable_eq_false hs, ?_⟩
  intro hprep n' s' htemplate hs'
  obtain ⟨hr, rfl⟩ := compile_eq_ok.mp hs
  obtain ⟨hr', rfl⟩ := compile_eq_ok.mp hs'
  -- Both fit the one template, so they are compared through it.
  have hfits := Rendering.fits_template d n
  have hfits' := Rendering.fits_template d n'
  rw [htemplate] at hfits'
  obtain ⟨hvalue', hpieces⟩ := hfits.pieces_eq hfits' hr hr' (by simpa using hprep)
  obtain ⟨hlength, hnames, htypes⟩ := Piece.binds_of_blank_eq hpieces
  refine ⟨?_, ?_, hlength, hnames, htypes⟩
  · simp only [hlength]
    rw [← Piece.weave_map_blank _ (n'.render d).pieces, hpieces, Piece.weave_map_blank]
  · simp [hvalue']

/-- A list of another length and another bound value leave the statement as it is, a list of binds
makes it unfit to be prepared. -/
theorem Node.preparable_statements_show_no_values_of_three :
    let name : Column Caster := ⟨none, "name", .text⟩
    let n (v : Value) (vs : List Value) : Query := .and [name.equals v, name.inValues vs]
    let listed : Query := .binary .isIn name.node (.list [name.bind (.text "a")])
    (∃ s s', (n (.text "a") []).compile .postgres = .ok s ∧
      (n (.text "it's") [.text "b", .null, .text "c"]).compile .postgres = .ok s' ∧
      s'.sql = s.sql ∧ s'.preparable = true ∧ s'.binds.length = s.binds.length) ∧
    (∃ s, listed.compile .postgres = .ok s ∧ s.preparable = false ∧
      ∃ c ∈ listed.renderedNodes, c.isVarying .postgres = true) := by
  intro name n listed
  constructor
  · obtain ⟨-, hsame⟩ :=
      preparable_statements_show_no_values .postgres (n (.text "a") []) _ rfl
    obtain ⟨hsql, hprep, hlength, -⟩ :=
      hsame rfl (n (.text "it's") [.text "b", .null, .text "c"]) _ rfl rfl
    exact ⟨_, _, rfl, rfl, hsql, hprep, hlength⟩
  · obtain ⟨hvarying, -⟩ := preparable_statements_show_no_values .postgres listed _ rfl
    exact ⟨_, rfl, rfl, hvarying.mp rfl⟩

end SqlTree
