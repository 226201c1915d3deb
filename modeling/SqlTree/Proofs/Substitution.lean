-- A statement with placeholders and the same statement with its values written in. The visits that
-- make them replay one rendering, so they differ only in what stands in the places of the binds.
import SqlTree.Proofs.Collecting

namespace SqlTree

/-! ## Weaving -/

namespace Piece

/-- The text of pieces, with a text of choice in the place of each bind. -/
def weave : List String → List Piece → String
  | _, [] => ""
  | fills, .text s :: ps => s ++ weave fills ps
  | [], .bind _ :: ps => weave [] ps
  | fill :: fills, .bind _ :: ps => fill ++ weave fills ps

@[simp] theorem binds_append (ps qs : List Piece) : binds (ps ++ qs) = binds ps ++ binds qs := by
  induction ps with
  | nil => rfl
  | cons p ps ih => cases p <;> simp [binds, ih]

theorem weave_append (fills more : List String) (ps qs : List Piece)
    (h : fills.length = (binds ps).length) :
    weave (fills ++ more) (ps ++ qs) = weave fills ps ++ weave more qs := by
  induction ps generalizing fills with
  | nil =>
    have : fills = [] := by simpa [binds] using h
    simp [this, weave]
  | cons p ps ih =>
    cases p with
    | text s => simp only [List.cons_append, weave, ih fills h, String.append_assoc]
    | bind b =>
      cases fills with
      | nil => simp [binds] at h
      | cons fill fills =>
        have hlen : fills.length = (binds ps).length := by simpa [binds] using h
        simp only [List.cons_append, weave, ih fills hlen, String.append_assoc]

theorem withPlaceholders_eq_weave (d : Dialect) (index : Nat) (ps : List Piece) :
    withPlaceholders d index ps =
      weave ((List.range' index (binds ps).length).map d.placeholder) ps := by
  induction ps generalizing index with
  | nil => rfl
  | cons p ps ih =>
    cases p with
    | text s => simp only [withPlaceholders, binds, weave, ih]
    | bind b => simp only [withPlaceholders, binds, List.length_cons, List.range'_succ,
        List.map_cons, weave, ih]

/-- The texts before, between and after the binds. -/
def texts : List Piece → List String
  | [] => [""]
  | .text s :: ps => (texts ps).modifyHead (s ++ ·)
  | .bind _ :: ps => "" :: texts ps

theorem texts_length (ps : List Piece) : (texts ps).length = (binds ps).length + 1 := by
  induction ps with
  | nil => rfl
  | cons p ps ih => cases p <;> simp [texts, binds, ih]

end Piece

/-- Texts with fillings between them: the first text, the first filling, the second text, and so
on up to the last text. -/
def interleave : List String → List String → String
  | [], _ => ""
  | t :: _, [] => t
  | t :: ts, fill :: fills => t ++ (fill ++ interleave ts fills)

theorem interleave_modifyHead (s : String) (ts fills : List String) (h : ts ≠ []) :
    interleave (ts.modifyHead (s ++ ·)) fills = s ++ interleave ts fills := by
  cases ts with
  | nil => exact absurd rfl h
  | cons t ts => cases fills <;> simp [interleave, String.append_assoc]

theorem Piece.weave_eq_interleave (fills : List String) (ps : List Piece)
    (h : fills.length = (binds ps).length) : weave fills ps = interleave (texts ps) fills := by
  induction ps generalizing fills with
  | nil =>
    have : fills = [] := by simpa [binds] using h
    simp [this, weave, texts, interleave]
  | cons p ps ih =>
    cases p with
    | text s =>
      have hne : texts ps ≠ [] := by
        intro h0
        have := texts_length ps
        simp [h0] at this
      rw [weave, texts, interleave_modifyHead s _ _ hne, ih fills h]
    | bind b =>
      cases fills with
      | nil => simp [binds] at h
      | cons fill fills =>
        have hlen : fills.length = (binds ps).length := by simpa [binds] using h
        simp [weave, texts, interleave, ih fills hlen]

/-! ## The statement with placeholders -/

namespace Node

/-- A query compiles exactly when its rendering goes through, and then to the placeholders woven
into its pieces. -/
theorem compile_eq_ok {d : Dialect} {n : Query} {s : Statement} :
    n.compile d = .ok s ↔ (n.render d).error = none ∧
      s = { sql := Piece.weave
              ((List.range' 1 (Piece.binds (n.render d).pieces).length).map d.placeholder)
              (n.render d).pieces
            binds := Piece.binds (n.render d).pieces
            preparable := !(n.render d).perValue } := by
  rw [compile_eq, BindCollector.add]
  cases h : (n.render d).error with
  | some e => simp
  | none =>
    simp only [BindCollector.empty, Except.ok.injEq, true_and, eq_comm (a := s),
      Piece.withPlaceholders_eq_weave]
    simp

theorem compile_eq_error {d : Dialect} {n : Query} {e : CompileError} :
    n.compile d = .error e ↔ (n.render d).error = some e := by
  rw [compile_eq, BindCollector.add]
  cases h : (n.render d).error <;> simp

end Node

/-! ## The statement with values -/

section

variable {α β ε : Type} {f : α → Except ε β} {x : α} {xs : List α}

theorem mapM_cons_eq_ok {ys : List β} :
    (x :: xs).mapM f = .ok ys ↔
      ∃ y zs, f x = .ok y ∧ xs.mapM f = .ok zs ∧ ys = y :: zs := by
  rw [List.mapM_cons]
  cases hx : f x with
  | error e => simp [bind, Except.bind]
  | ok y =>
    cases hxs : xs.mapM f with
    | error e => simp [bind, Except.bind]
    | ok zs => simp [bind, Except.bind, pure, Except.pure, eq_comm]

theorem mapM_cons_eq_error {e : ε} :
    (x :: xs).mapM f = .error e ↔
      f x = .error e ∨ ∃ y, f x = .ok y ∧ xs.mapM f = .error e := by
  rw [List.mapM_cons]
  cases hx : f x with
  | error e => simp [bind, Except.bind]
  | ok y =>
    cases hxs : xs.mapM f with
    | error e => simp [bind, Except.bind]
    | ok zs => simp [bind, Except.bind, pure, Except.pure]

theorem mapM_length {ys : List β} (h : xs.mapM f = .ok ys) : ys.length = xs.length := by
  induction xs generalizing ys with
  | nil => cases h; rfl
  | cons x xs ih =>
    obtain ⟨y, zs, _, hzs, rfl⟩ := mapM_cons_eq_ok.mp h
    simp [ih hzs]

end

namespace LiteralCollector

/-- If every bind can be cast, all pieces are added. -/
theorem addPieces_ok (c : LiteralCollector) (ps : List Piece) (vs : List Value)
    (h : (Piece.binds ps).mapM (·.serialize) = .ok vs) :
    c.addPieces ps =
      (⟨c.sql ++ Piece.weave (vs.map Value.literal) ps, c.count + vs.length⟩, none) := by
  induction ps generalizing c vs with
  | nil =>
    cases h
    simp [addPieces, Piece.weave]
  | cons p ps ih =>
    cases p with
    | text s =>
      rw [addPieces, ih _ vs h]
      simp [Piece.weave, String.append_assoc]
    | bind b =>
      obtain ⟨v, ws, hb, hrest, rfl⟩ := mapM_cons_eq_ok.mp h
      simp only [addPieces, hb]
      rw [ih _ ws hrest]
      simp [write, Piece.weave, String.append_assoc, Nat.add_assoc, Nat.add_comm 1]

/-- If some bind cannot be cast, the first of these ends the work: the binds before it have been
written, and its error is the answer. -/
theorem addPieces_error (c : LiteralCollector) (ps : List Piece) (e : CastError)
    (h : (Piece.binds ps).mapM (·.serialize) = .error e) :
    ∃ before b after, Piece.binds ps = before ++ b :: after ∧
      (∀ x ∈ before, ∃ v, x.serialize = .ok v) ∧ b.serialize = .error e ∧
      (c.addPieces ps).2 = some e ∧ (c.addPieces ps).1.count = c.count + before.length := by
  induction ps generalizing c with
  | nil => cases h
  | cons p ps ih =>
    cases p with
    | text s => exact ih _ h
    | bind b =>
      rcases mapM_cons_eq_error.mp h with hb | ⟨v, hb, hrest⟩
      · exact ⟨[], b, Piece.binds ps, rfl, by simp, hb, by simp [addPieces, hb],
          by simp [addPieces, hb]⟩
      · obtain ⟨before, b', after, hsplit, hbefore, hfail, herr, hcount⟩ :=
          ih (c.write v) hrest
        refine ⟨b :: before, b', after, ?_, ?_, hfail, ?_, ?_⟩
        · rw [Piece.binds, hsplit, List.cons_append]
        · intro x hx
          rcases List.mem_cons.mp hx with rfl | hx
          · exact ⟨v, hb⟩
          · exact hbefore x hx
        · simp only [addPieces, hb]
          exact herr
        · have hwrite : (c.write v).count = c.count + 1 := rfl
          simp only [addPieces, hb, hcount, List.length_cons]
          omega

end LiteralCollector

namespace Node

/-- If its rendering goes through and its binds can be cast, a query has its values woven into its
pieces. -/
theorem toSql_of_values {d : Dialect} {n : Query} {vs : List Value}
    (hr : (n.render d).error = none)
    (hv : (Piece.binds (n.render d).pieces).mapM (·.serialize) = .ok vs) :
    n.toSql d = .ok (Piece.weave (vs.map Value.literal) (n.render d).pieces) := by
  rw [toSql_eq, LiteralCollector.add, LiteralCollector.addPieces_ok _ _ vs hv]
  simp [hr, LiteralCollector.empty]

/-- A bind that cannot be cast makes an end, before anything that cannot be rendered. -/
theorem add_of_cast_error {d : Dialect} {n : Query} {e : CastError}
    (hv : (Piece.binds (n.render d).pieces).mapM (·.serialize) = .error e) :
    LiteralCollector.empty.add (n.render d) =
      ((LiteralCollector.empty.addPieces (n.render d).pieces).1, some (.cast e)) := by
  obtain ⟨_, _, _, _, _, _, herr, _⟩ := LiteralCollector.addPieces_error .empty _ e hv
  rw [LiteralCollector.add]
  rcases hp : LiteralCollector.empty.addPieces (n.render d).pieces with ⟨c, _ | e'⟩
  · simp [hp] at herr
  · simp only [hp, Option.some.injEq] at herr
    rw [herr]

theorem toSql_of_cast_error {d : Dialect} {n : Query} {e : CastError}
    (hv : (Piece.binds (n.render d).pieces).mapM (·.serialize) = .error e) :
    n.toSql d = .error (.cast e) := by
  rw [toSql_eq, add_of_cast_error hv]

/-- A query that does not compile has no statement with values either. -/
theorem toSql_of_error {d : Dialect} {n : Query} {e : CompileError}
    (hr : (n.render d).error = some e) : ∃ e', n.toSql d = .error e' := by
  rw [toSql_eq, LiteralCollector.add]
  rcases LiteralCollector.empty.addPieces (n.render d).pieces with ⟨c, _ | e'⟩
  · exact ⟨e, by simp [hr]⟩
  · exact ⟨.cast e', rfl⟩

theorem toSql_eq_ok {d : Dialect} {n : Query} {sql : String} :
    n.toSql d = .ok sql ↔ (n.render d).error = none ∧
      ∃ vs, (Piece.binds (n.render d).pieces).mapM (·.serialize) = .ok vs ∧
        sql = Piece.weave (vs.map Value.literal) (n.render d).pieces := by
  constructor
  · intro h
    cases hr : (n.render d).error with
    | some e =>
      obtain ⟨e', he⟩ := toSql_of_error hr
      rw [he] at h
      cases h
    | none =>
      refine ⟨rfl, ?_⟩
      cases hv : (Piece.binds (n.render d).pieces).mapM (·.serialize) with
      | error e =>
        rw [toSql_of_cast_error hv] at h
        cases h
      | ok vs =>
        rw [toSql_of_values hr hv] at h
        cases h
        exact ⟨vs, rfl, rfl⟩
  · rintro ⟨hr, vs, hv, rfl⟩
    exact toSql_of_values hr hv

/-! ## The law -/

/-- The two statements of a query have the same texts around their placeholders and their values.
If a value cannot be cast, the first such bind is where writing the values ends, and its error is
the answer. -/
theorem values_stand_where_the_placeholders_do (d : Dialect) (n : Query) :
    (∀ s, n.compile d = .ok s →
      ∃ texts : List String, texts.length = s.binds.length + 1 ∧
        s.sql = interleave texts ((List.range' 1 s.binds.length).map d.placeholder) ∧
        (∀ vs, s.values = .ok vs → vs.length = s.binds.length ∧
          n.toSql d = .ok (interleave texts (vs.map Value.literal))) ∧
        (∀ e, s.values = .error e → n.toSql d = .error (.cast e) ∧
          ∃ before b after, s.binds = before ++ b :: after ∧
            (∀ x ∈ before, ∃ v, x.serialize = .ok v) ∧ b.serialize = .error e ∧
            ((n.visit d).on LiteralCollector.empty).1.count = before.length)) ∧
    (∀ e, n.compile d = .error e → ∃ e', n.toSql d = .error e') := by
  refine ⟨?_, fun e he => toSql_of_error (compile_eq_error.mp he)⟩
  intro s hs
  obtain ⟨hr, rfl⟩ := compile_eq_ok.mp hs
  refine ⟨Piece.texts (n.render d).pieces, Piece.texts_length _, ?_, ?_, ?_⟩
  · exact Piece.weave_eq_interleave _ _ (by simp)
  · intro vs hvs
    have hlen := mapM_length hvs
    refine ⟨hlen, ?_⟩
    rw [toSql_of_values hr hvs, Piece.weave_eq_interleave _ _ (by simpa using hlen)]
  · intro e he
    obtain ⟨before, b, after, hsplit, hbefore, hfail, herr, hcount⟩ :=
      LiteralCollector.addPieces_error .empty (n.render d).pieces e he
    refine ⟨toSql_of_cast_error he, before, b, after, hsplit, hbefore, hfail, ?_⟩
    rw [visit_eq_replay, LiteralCollector.on_replay, add_of_cast_error he]
    simpa [LiteralCollector.empty] using hcount

/-- Two values that are written in, one that its column does not take, and a node that the
standard has no rule for. -/
theorem values_stand_where_the_placeholders_do_in_three_queries :
    (∃ texts : List String, texts.length = 3 ∧
      "name BETWEEN $1 AND $2" = interleave texts ["$1", "$2"] ∧
      (between (.sql "name") (.bind ⟨"low", .text "it's", .text⟩)
        (.bind ⟨"high", .text "$1", .text⟩)).toSql .postgres
          = .ok (interleave texts ["'it''s'", "'$1'"])) ∧
    (and [.bind ⟨"name", .text "?", .text⟩, .bind ⟨"old", .bytes [], .boolean⟩]).toSql .generic
      = .error (.cast (.invalid (.bytes []) "boolean")) ∧
    (∃ e, (regexp false (.bind ⟨"name", .text "?", .text⟩) (.sql "a") true).toSql .generic
      = .error e) := by
  refine ⟨?_, ?_, ?_⟩
  · obtain ⟨texts, hlen, hsql, hvalues, -⟩ :=
      (values_stand_where_the_placeholders_do .postgres
        (between (.sql "name") (.bind ⟨"low", .text "it's", .text⟩)
          (.bind ⟨"high", .text "$1", .text⟩))).1 _ rfl
    exact ⟨texts, hlen, hsql, (hvalues _ rfl).2⟩
  · obtain ⟨_, -, -, -, herror⟩ :=
      (values_stand_where_the_placeholders_do .generic
        (and [.bind ⟨"name", .text "?", .text⟩, .bind ⟨"old", .bytes [], .boolean⟩])).1 _ rfl
    exact (herror _ rfl).1
  · exact (values_stand_where_the_placeholders_do .generic _).2 _ rfl

end Node

end SqlTree
