-- Collectors over many steps, some of which fail. A step only appends, and what it appends depends
-- on the collector in nothing but the number of the first placeholder.
import SqlTree.Proofs.Substitution

namespace SqlTree

open Rendering

/-! ## Steps -/

namespace Step

/-- What a step writes. -/
def rendering (d : Dialect) : Step → Rendering
  | push sql => .text sql
  | bind b => .bind b
  | binds bs => .binds bs
  | visit n => n.render d
  | visitStandard n => n.renderStandard d
  | visitJoined ns separator => .joined separator (ns.map (·.render d))
  | visitBetween l op r => .between op (l.render d) (r.render d)
  | visitPattern l op r escape =>
    Render.pattern op (l.render d) (r.render d) (escape.map (·.render d))
  | refuse n => Render.unsupported d n.kind

theorem act_eq_replay {σ : Type} [Collector σ] [LawfulCollector σ] (d : Dialect) (s : Step) :
    s.act d = (replay d (s.rendering d) : Visit σ Unit) := by
  cases s with
  | push | refuse => rfl
  | bind b => exact (replay_bind b).symm
  | binds bs => exact Visitor.addBinds_eq_replay bs
  | visit n => exact n.visit_eq_replay d
  | visitStandard n => exact n.visitStandard_eq_replay d
  | visitJoined ns separator =>
    rw [rendering, ← Visitor.joined_replay, List.map_map]
    exact congrArg _ (List.map_congr_left fun n _ => n.visit_eq_replay d)
  | visitBetween l op r =>
    rw [rendering, ← Visitor.between_replay, ← Node.visit_eq_replay, ← Node.visit_eq_replay]
    rfl
  | visitPattern l op r escape =>
    rw [rendering, ← Visitor.pattern_replay, ← Node.visit_eq_replay, ← Node.visit_eq_replay,
      Option.map_map]
    cases escape with
    | none => rfl
    | some n =>
      rw [Option.map_some, Function.comp_apply, ← Node.visit_eq_replay]
      rfl

/-- All that steps write, in order. A step that fails has written what comes before its fault. -/
def written (d : Dialect) (steps : List Step) : List Piece :=
  steps.flatMap fun s => (s.rendering d).pieces

end Step

namespace Collector

variable {σ : Type} [Collector σ]

/-- The collector after steps, each of them taken however the ones before it ended. -/
def run (d : Dialect) (c : σ) (steps : List Step) : σ :=
  steps.foldl (fun c s => (s.take d c).1) c

theorem run_append (d : Dialect) (c : σ) (steps more : List Step) :
    run d c (steps ++ more) = run d (run d c steps) more := List.foldl_append

variable [LawfulCollector σ]

theorem extends_step (d : Dialect) (c : σ) (s : Step) : Extends c (s.take d c).1 := by
  rw [Step.take, Step.act_eq_replay]
  exact extends_replay d _ c

/-- Nothing is taken back over steps, whichever of them fail. -/
theorem extends_run (d : Dialect) (c : σ) (steps : List Step) : Extends c (run d c steps) := by
  induction steps generalizing c with
  | nil => exact .refl c
  | cons s steps ih => exact (extends_step d c s).trans (ih (s.take d c).1)

end Collector

/-! ## Placeholders -/

namespace Piece

variable (d : Dialect)

theorem withPlaceholders_append (index : Nat) (ps qs : List Piece) :
    withPlaceholders d index (ps ++ qs) =
      withPlaceholders d index ps ++ withPlaceholders d (index + (binds ps).length) qs := by
  induction ps generalizing index with
  | nil => simp [withPlaceholders, binds]
  | cons p ps ih =>
    cases p with
    | text s => simp only [List.cons_append, withPlaceholders, binds, ih, String.append_assoc]
    | bind b =>
      have hindex : index + 1 + (binds ps).length = index + ((binds ps).length + 1) := by omega
      simp only [List.cons_append, withPlaceholders, binds, List.length_cons, ih, hindex,
        String.append_assoc]

/-- Whatever number comes first, the placeholders stand between the same texts. -/
theorem withPlaceholders_eq_interleave (index : Nat) (ps : List Piece) :
    withPlaceholders d index ps = interleave (texts ps)
      ((List.range' index (binds ps).length).map d.placeholder) := by
  rw [withPlaceholders_eq_weave, weave_eq_interleave]
  simp

/-- A bind among pieces has its place among them. -/
theorem exists_split_of_binds {ps : List Piece} {k : Nat} {b : Bind Caster Value}
    (h : (binds ps)[k]? = some b) :
    ∃ before after, ps = before ++ .bind b :: after ∧ (binds before).length = k := by
  induction ps generalizing k with
  | nil => simp [binds] at h
  | cons p ps ih =>
    cases p with
    | text s =>
      obtain ⟨before, after, rfl, hk⟩ := ih h
      exact ⟨.text s :: before, after, rfl, hk⟩
    | bind x =>
      cases k with
      | zero =>
        simp only [binds, List.getElem?_cons_zero, Option.some.injEq] at h
        subst h
        exact ⟨[], ps, rfl, rfl⟩
      | succ k =>
        simp only [binds, List.getElem?_cons_succ] at h
        obtain ⟨before, after, rfl, hk⟩ := ih h
        refine ⟨.bind x :: before, after, rfl, ?_⟩
        simp only [binds, List.length_cons, hk]

end Piece

open Collector (run Extends)

namespace BindCollector

variable (d : Dialect)

theorem take_eq (c : BindCollector) (s : Step) : s.take d c = c.add d (s.rendering d) := by
  rw [Step.take, Step.act_eq_replay, on_replay]

/-- After steps a collector has the pieces that they wrote, with the placeholders numbered from
where it stood. -/
theorem run_eq (c : BindCollector) (steps : List Step) :
    (run d c steps).sql =
        c.sql ++ Piece.withPlaceholders d (c.binds.length + 1) (Step.written d steps) ∧
      (run d c steps).binds = c.binds ++ Piece.binds (Step.written d steps) := by
  -- for every collector, since the rest of a run starts from where its first step stopped numbering
  induction steps generalizing c with
  | nil => simp [run, Step.written, Piece.withPlaceholders, Piece.binds]
  | cons s steps ih =>
    obtain ⟨hsql, hbinds⟩ := ih (s.take d c).1
    have hwritten : Step.written d (s :: steps) =
        (s.rendering d).pieces ++ Step.written d steps := by
      simp [Step.written]
    have hindex : (c.binds ++ Piece.binds (s.rendering d).pieces).length + 1 =
        c.binds.length + 1 + (Piece.binds (s.rendering d).pieces).length := by
      rw [List.length_append]
      omega
    have hrun : run d c (s :: steps) = run d (c.add d (s.rendering d)).1 steps := by
      rw [← take_eq]
      rfl
    rw [take_eq] at hsql hbinds
    rw [hrun, hwritten, Piece.withPlaceholders_append, Piece.binds_append, ← String.append_assoc,
      ← List.append_assoc, ← hindex]
    exact ⟨hsql, hbinds⟩

/-- The place of a bind in the text is that of the placeholder with its number. -/
theorem run_split {steps : List Step} {k : Nat} {b : Bind Caster Value}
    (h : (run d empty steps).binds[k]? = some b) :
    ∃ before after, Step.written d steps = before ++ .bind b :: after ∧
      (Piece.binds before).length = k ∧
      (run d empty steps).sql = Piece.withPlaceholders d 1 before ++
        (d.placeholder (k + 1) ++ Piece.withPlaceholders d (k + 2) after) := by
  obtain ⟨hsql, hbinds⟩ := run_eq d empty steps
  rw [hbinds] at h
  obtain ⟨before, after, hsplit, hk⟩ := Piece.exists_split_of_binds h
  refine ⟨before, after, hsplit, hk, ?_⟩
  have hindex : 1 + k = k + 1 := by omega
  rw [hsql, hsplit, Piece.withPlaceholders_append]
  simp only [empty, List.length_nil, Nat.zero_add, String.empty_append, Piece.withPlaceholders, hk,
    hindex]

end BindCollector

/-! ## Literals -/

namespace LiteralCollector

variable (d : Dialect) {c : LiteralCollector}

theorem take_eq (c : LiteralCollector) (s : Step) : s.take d c = c.add (s.rendering d) := by
  rw [Step.take, Step.act_eq_replay, on_replay]

/-- Pieces are added as to a fresh collector, and end at the same value that cannot be cast. -/
theorem addPieces_as_if_fresh (c : LiteralCollector) (ps : List Piece) :
    c.addPieces ps =
      ({ sql := c.sql ++ (empty.addPieces ps).1.sql
         count := c.count + (empty.addPieces ps).1.count },
       (empty.addPieces ps).2) := by
  induction ps generalizing c with
  | nil => simp [addPieces, empty]
  | cons p ps ih =>
    cases p with
    | text s =>
      -- neither collector is fresh after the piece, so both of them are taken back to one that is
      unfold addPieces
      rw [ih { c with sql := c.sql ++ s }, ih { empty with sql := empty.sql ++ s }]
      simp [empty, String.append_assoc]
    | bind b =>
      unfold addPieces
      cases b.serialize with
      | error e => simp [empty]
      | ok v =>
        simp only
        rw [ih (c.write v), ih (empty.write v)]
        simp [write, empty, String.append_assoc, Nat.add_assoc]

theorem take_as_if_fresh (c : LiteralCollector) (s : Step) :
    (s.take d c).1.sql = c.sql ++ (s.take d empty).1.sql ∧
      (s.take d c).1.count = c.count + (s.take d empty).1.count ∧
      (s.take d c).2 = (s.take d empty).2 := by
  rw [take_eq, take_eq, add, add, addPieces_as_if_fresh c]
  rcases empty.addPieces (s.rendering d).pieces with ⟨fresh, _ | e⟩
  · simp
  · simp

/-- A bind whose value cannot be cast writes nothing. -/
theorem take_bind_of_error {b : Bind Caster Value} {e : CompileError}
    (h : ((Step.bind b).take d c).2 = some e) : ((Step.bind b).take d c).1 = c := by
  unfold Step.take Step.act at *
  cases hb : b.serialize with
  | error e' => rw [on_addBind_of_error hb]
  | ok v =>
    rw [on_addBind_of_ok hb] at h
    cases h

end LiteralCollector

/-! ## The law -/

/-- Collectors are only ever appended to, in runs of any steps that may fail. A step does to a
collector what it does to a fresh one, with the same error, but for the numbers of the placeholders,
which follow those that are there. The bind that was added at a place is the one whose placeholder
has its number. A value that cannot be cast leaves the statement with values as it was. -/
theorem Step.collectors_append_as_if_fresh (d : Dialect) :
    (∀ (c : BindCollector) (s : Step), ∃ texts : List String,
      let fresh := (s.take d BindCollector.empty).1
      let numbered (first : Nat) := (List.range' first fresh.binds.length).map d.placeholder
      texts.length = fresh.binds.length + 1 ∧
        fresh.sql = interleave texts (numbered 1) ∧
        (s.take d c).1.sql = c.sql ++ interleave texts (numbered (c.binds.length + 1)) ∧
        (s.take d c).1.binds = c.binds ++ fresh.binds ∧
        (s.take d c).1.preparable = (c.preparable && fresh.preparable) ∧
        (s.take d c).2 = (s.take d BindCollector.empty).2) ∧
    (∀ (c : BindCollector) (earlier more : List Step),
      Extends (run d c earlier) (run d c (earlier ++ more)) ∧
        (run d c earlier).binds <+: (run d c (earlier ++ more)).binds) ∧
    (∀ (steps : List Step) (k : Nat) (b : Bind Caster Value),
      (run d BindCollector.empty steps).binds[k]? = some b →
      ∃ before after, written d steps = before ++ .bind b :: after ∧
        (Piece.binds before).length = k ∧
        (run d BindCollector.empty steps).sql = Piece.withPlaceholders d 1 before ++
          (d.placeholder (k + 1) ++ Piece.withPlaceholders d (k + 2) after)) ∧
    (∀ (c : LiteralCollector) (s : Step),
      let fresh := (s.take d LiteralCollector.empty).1
      (s.take d c).1.sql = c.sql ++ fresh.sql ∧ (s.take d c).1.count = c.count + fresh.count ∧
        (s.take d c).2 = (s.take d LiteralCollector.empty).2) ∧
    (∀ (c : LiteralCollector) (earlier more : List Step),
      Extends (run d c earlier) (run d c (earlier ++ more))) ∧
    (∀ (c : LiteralCollector) (b : Bind Caster Value) (e : CompileError),
      ((Step.bind b).take d c).2 = some e → ((Step.bind b).take d c).1 = c) := by
  refine ⟨?_, ?_, fun steps k b => BindCollector.run_split d, LiteralCollector.take_as_if_fresh d,
    ?_, fun c b e => LiteralCollector.take_bind_of_error d⟩
  · intro c s
    refine ⟨Piece.texts (s.rendering d).pieces, ?_⟩
    have hfresh : (s.take d BindCollector.empty).1.binds = Piece.binds (s.rendering d).pieces := by
      rw [BindCollector.take_eq]
      exact List.nil_append _
    intro fresh numbered
    simp only [numbered, fresh, hfresh, ← Piece.withPlaceholders_eq_interleave]
    rw [BindCollector.take_eq, BindCollector.take_eq]
    refine ⟨Piece.texts_length _, String.empty_append, rfl, rfl, ?_, rfl⟩
    simp [BindCollector.add, BindCollector.empty]
  · intro c earlier more
    rw [Collector.run_append]
    refine ⟨Collector.extends_run d _ more, ?_⟩
    rw [(BindCollector.run_eq d _ more).2]
    exact List.prefix_append _ _
  · intro c earlier more
    rw [Collector.run_append]
    exact Collector.extends_run d _ more

/-- A comparison breaks off at a literal that its column does not take, and two binds follow. The
second of them, the third in all, cannot be written as a literal. -/
theorem Step.collectors_append_as_if_fresh_after_a_fault :
    let name : Bind Caster Value := ⟨"name", .text "a", .text⟩
    let old : Bind Caster Value := ⟨"old", .text "x", .boolean⟩
    let broken : Step :=
      .visitBetween (.bind name) " = " (.casted ⟨none, "old", .boolean⟩ (.text "x"))
    let steps : List Step := [broken, .push "; ", .binds [name, old]]
    let c := run .postgres BindCollector.empty steps
    let l := run .postgres LiteralCollector.empty [broken]
    c.sql = "$1 = ; $2, $3" ∧ c.binds[2]? = some old ∧
    (∃ before after, written .postgres steps = before ++ .bind old :: after ∧
      (Piece.binds before).length = 2 ∧
      c.sql = Piece.withPlaceholders .postgres 1 before ++
        ("$3" ++ Piece.withPlaceholders .postgres 4 after)) ∧
    (∃ texts : List String, texts.length = 2 ∧ "$1 = " = interleave texts ["$1"] ∧
      (broken.take .postgres c).1.sql = c.sql ++ interleave texts ["$4"]) ∧
    l.sql = "'a' = " ∧
    ((Step.bind old).take .postgres l).2 = some (.cast (.invalid (.text "x") "boolean")) ∧
    ((Step.bind old).take .postgres l).1 = l := by
  intro name old broken steps c l
  obtain ⟨hstep, -, hbind, -, -, hliteral⟩ := collectors_append_as_if_fresh .postgres
  obtain ⟨texts, hlength, hfresh, hsql, -⟩ := hstep c broken
  have hone : (broken.take .postgres BindCollector.empty).1.sql = "$1 = " := by decide
  have hthree : c.binds.length = 3 := rfl
  rw [hone] at hfresh
  rw [hthree] at hsql
  exact ⟨by decide, rfl, hbind steps 2 old rfl, ⟨texts, hlength, hfresh, hsql⟩, rfl, rfl,
    hliteral l old _ rfl⟩

end SqlTree
