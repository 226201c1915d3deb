-- What a rendering makes of the two collectors: one numbers the binds on from those that it has,
-- the other writes values up to the first that cannot be cast.
import SqlTree.Proofs.Visits
import SqlTree.Render.Statement

namespace SqlTree

open Collector Rendering

/-! ## Growth -/

namespace Collector

variable {σ : Type} [Collector σ] {c later last : σ}

theorem Extends.refl (c : σ) : Extends c c :=
  ⟨⟨"", String.append_empty.symm⟩, Nat.le_refl _⟩

theorem Extends.trans (h : Extends c later) (h' : Extends later last) : Extends c last := by
  obtain ⟨⟨text, htext⟩, hcount⟩ := h
  obtain ⟨⟨text', htext'⟩, hcount'⟩ := h'
  refine ⟨⟨text ++ text', ?_⟩, Nat.le_trans hcount hcount'⟩
  rw [htext', htext, String.append_assoc]

theorem extends_bind {v w : Visit σ Unit} (hv : ∀ c, Extends c (v.on c).1)
    (hw : ∀ c, Extends c (w.on c).1) (c : σ) : Extends c ((do v; w : Visit σ Unit).on c).1 := by
  have hc := hv c
  rcases h : v.on c with ⟨c', _ | e⟩
  · rw [Visit.on_of_ok h]
    rw [h] at hc
    exact hc.trans (hw c')
  · rw [Visit.on_of_error h]
    rwa [h] at hc

variable [LawfulCollector σ]

theorem extends_push (s : String) (c : σ) : Extends c ((Visitor.push s).on c).1 :=
  ⟨⟨s, LawfulCollector.sql_pushText c s⟩,
    Nat.le_of_eq (LawfulCollector.bindCount_pushText c s).symm⟩

theorem extends_mark (p : Bool) (c : σ) : Extends c ((Visitor.mark p).on c).1 :=
  ⟨⟨"", (LawfulCollector.sql_setPreparable c p).trans String.append_empty.symm⟩,
    Nat.le_of_eq (LawfulCollector.bindCount_setPreparable c p).symm⟩

theorem extends_replayPieces (d : Dialect) (ps : List Piece) :
    ∀ c : σ, Extends c ((replayPieces d ps).on c).1 := by
  induction ps with
  | nil => exact Extends.refl
  | cons p ps ih =>
    cases p with
    | text s => exact extends_bind (extends_push s) ih
    | bind b => exact extends_bind (LawfulCollector.extends_addBind d b) ih

/-- Whatever a rendering does to a collector, and wherever it ends, nothing is taken back. -/
theorem extends_replay (d : Dialect) (r : Rendering) (c : σ) :
    Extends c ((replay d r).on c).1 := by
  refine extends_bind ?_ (extends_bind (extends_replayPieces d r.pieces) ?_) c
  · cases r.perValue with
    | true => exact extends_mark false
    | false => exact Extends.refl
  · cases r.error <;> exact Extends.refl

end Collector

/-! ## Keeping binds -/

namespace Piece

/-- The binds among pieces, in order. -/
def binds : List Piece → List (Bind Caster Value)
  | [] => []
  | .text _ :: ps => binds ps
  | .bind b :: ps => b :: binds ps

/-- The text of pieces with placeholders for the binds, the first of which has this number. -/
def withPlaceholders (d : Dialect) (index : Nat) : List Piece → String
  | [] => ""
  | .text s :: ps => s ++ withPlaceholders d index ps
  | .bind _ :: ps => d.placeholder index ++ withPlaceholders d (index + 1) ps

end Piece

namespace BindCollector

/-- Adds a rendering, as far as it goes. -/
def add (d : Dialect) (c : BindCollector) (r : Rendering) : BindCollector × Option CompileError :=
  ({ sql := c.sql ++ Piece.withPlaceholders d (c.binds.length + 1) r.pieces
     binds := c.binds ++ Piece.binds r.pieces
     preparable := c.preparable && !r.perValue },
   r.error)

theorem on_addBind (d : Dialect) (b : Bind Caster Value) (c : BindCollector) :
    (addBind d b : Visit BindCollector Unit).on c = (c.keep d b, none) := rfl

theorem on_replayPieces (d : Dialect) (c : BindCollector) (ps : List Piece) :
    (replayPieces d ps).on c =
      ({ c with
          sql := c.sql ++ Piece.withPlaceholders d (c.binds.length + 1) ps
          binds := c.binds ++ Piece.binds ps }, none) := by
  -- the number of the next placeholder is read off the binds, which each bind adds to
  induction ps generalizing c with
  | nil =>
    simp only [replayPieces, Piece.withPlaceholders, Piece.binds, String.append_empty,
      List.append_nil]
    rfl
  | cons p ps ih =>
    cases p with
    | text s =>
      rw [replayPieces, Visit.on_of_ok (Visitor.on_push s c), ih]
      simp [pushText, Piece.withPlaceholders, Piece.binds, String.append_assoc]
    | bind b =>
      rw [replayPieces, Visit.on_of_ok (on_addBind d b c), ih]
      simp [keep, Piece.withPlaceholders, Piece.binds, String.append_assoc]

theorem on_replay (d : Dialect) (c : BindCollector) (r : Rendering) :
    (replay d r).on c = c.add d r := by
  have hflag : (replayFlag r.perValue).on c =
      ({ c with preparable := c.preparable && !r.perValue }, none) := by
    cases r.perValue with
    | true =>
      rw [Bool.not_true, Bool.and_false]
      rfl
    | false =>
      rw [Bool.not_false, Bool.and_true]
      rfl
  rw [replay, Visit.on_of_ok hflag, Visit.on_of_ok (on_replayPieces d _ r.pieces), add]
  cases r.error <;> rfl

end BindCollector

/-! ## Writing values -/

namespace LiteralCollector

/-- Adds pieces up to the first value that cannot be cast. -/
def addPieces (c : LiteralCollector) : List Piece → LiteralCollector × Option CastError
  | [] => (c, none)
  | .text s :: ps => addPieces { c with sql := c.sql ++ s } ps
  | .bind b :: ps =>
    match b.serialize with
    | .ok v => addPieces (c.write v) ps
    | .error e => (c, some e)

/-- Adds a rendering, as far as it goes and its values can be cast. -/
def add (c : LiteralCollector) (r : Rendering) : LiteralCollector × Option CompileError :=
  match c.addPieces r.pieces with
  | (c, some e) => (c, some (.cast e))
  | (c, none) => (c, r.error)

theorem on_replayPieces (d : Dialect) (c : LiteralCollector) (ps : List Piece) :
    (replayPieces d ps).on c = ((c.addPieces ps).1, (c.addPieces ps).2.map .cast) := by
  induction ps generalizing c with
  | nil => rfl
  | cons p ps ih =>
    cases p with
    | text s =>
      rw [replayPieces, Visit.on_of_ok (Visitor.on_push s c), ih, addPieces]
      rfl
    | bind b =>
      cases hb : b.serialize with
      | ok v => rw [replayPieces, Visit.on_of_ok (on_addBind_of_ok hb c), ih, addPieces, hb]
      | error e =>
        rw [replayPieces, Visit.on_of_error (on_addBind_of_error hb c), addPieces, hb]
        rfl

theorem on_replay (d : Dialect) (c : LiteralCollector) (r : Rendering) :
    (replay d r).on c = c.add r := by
  have hflag : (replayFlag r.perValue).on c = (c, none) := by
    cases r.perValue <;> rfl
  have hpieces := on_replayPieces d c r.pieces
  rw [replay, Visit.on_of_ok hflag, add]
  rcases hadd : c.addPieces r.pieces with ⟨c', _ | e⟩
  · rw [hadd] at hpieces
    rw [Visit.on_of_ok hpieces]
    cases r.error <;> rfl
  · rw [hadd] at hpieces
    rw [Visit.on_of_error hpieces]

end LiteralCollector

/-! ## Statements -/

namespace Node

/-- A query compiles to what its rendering adds to an empty collector. -/
theorem compile_eq (d : Dialect) (n : Query) :
    n.compile d = match BindCollector.empty.add d (n.render d) with
      | (_, some e) => .error e
      | (c, none) => .ok { sql := c.sql, binds := c.binds, preparable := c.preparable } := by
  rw [compile, compileWith, visit_eq_replay, BindCollector.on_replay]
  rcases BindCollector.empty.add d (n.render d) with ⟨c, _ | e⟩ <;> rfl

theorem toSql_eq (d : Dialect) (n : Query) :
    n.toSql d = match LiteralCollector.empty.add (n.render d) with
      | (_, some e) => .error e
      | (c, none) => .ok c.sql := by
  rw [toSql, compileWith, visit_eq_replay, LiteralCollector.on_replay]
  rcases LiteralCollector.empty.add (n.render d) with ⟨c, _ | e⟩ <;> rfl

end Node

end SqlTree
