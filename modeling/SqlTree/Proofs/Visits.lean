-- What a visit does, whatever collector it fills. The visitor touches a collector through its
-- interface only, so that a visit is the replay of a rendering that does not depend on the
-- collector: the flag, the pieces in order, and the error that comes last.
import SqlTree.Proofs.Children
import SqlTree.Proofs.Rendering

namespace SqlTree

/-! ## One visit after another -/

namespace Visit

variable {σ : Type} {v w : Visit σ Unit}

theorem on_bind (c : σ) :
    (do v; w : Visit σ Unit).on c =
      match v.on c with
      | (c, none) => w.on c
      | (c, some e) => (c, some e) := by
  unfold on EStateM.run
  simp only [bind, EStateM.bind]
  cases v c <;> rfl

theorem on_of_ok {c c' : σ} (h : v.on c = (c', none)) :
    (do v; w : Visit σ Unit).on c = w.on c' := by
  rw [on_bind, h]

theorem on_of_error {c c' : σ} {e : CompileError} (h : v.on c = (c', some e)) :
    (do v; w : Visit σ Unit).on c = (c', some e) := by
  rw [on_bind, h]

/-- Nothing follows an error. -/
theorem throw_bind {α : Type} (e : CompileError) (f : α → Visit σ Unit) :
    (throw e : Visit σ α) >>= f = throw e := rfl

end Visit

/-! ## The laws of collectors -/

section

open Collector Visitor

theorem Visitor.on_push {σ : Type} [Collector σ] (s : String) (c : σ) :
    (push s).on c = (pushText c s, none) := rfl

/-- A later collector has all that an earlier one has, and perhaps more after it. -/
def Collector.Extends {σ : Type} [Collector σ] (c later : σ) : Prop :=
  (∃ text, sql later = sql c ++ text) ∧ bindCount c ≤ bindCount later

/-- What is asked of a collector: that nothing is ever taken back, and that the flag is apart from
the rest. A collector whose binds can fail must not show the flag, as it would show whether the flag
was set before the fault. -/
class LawfulCollector (σ : Type) [Collector σ] : Prop where
  sql_pushText (c : σ) (s : String) : sql (pushText c s) = sql c ++ s
  bindCount_pushText (c : σ) (s : String) : bindCount (pushText c s) = bindCount c
  sql_setPreparable (c : σ) (p : Bool) : sql (setPreparable c p) = sql c
  bindCount_setPreparable (c : σ) (p : Bool) : bindCount (setPreparable c p) = bindCount c
  extends_addBind (d : Dialect) (b : Bind Caster Value) (c : σ) : Extends c ((addBind d b).on c).1
  mark_mark (p q : Bool) : (do mark p; mark q : Visit σ Unit) = mark q
  mark_push (p : Bool) (s : String) :
    (do mark p; push s : Visit σ Unit) = do push s; mark p
  mark_addBind (d : Dialect) (p : Bool) (b : Bind Caster Value) :
    (do mark p; addBind d b : Visit σ Unit) = do addBind d b; mark p

instance : LawfulCollector BindCollector where
  sql_pushText _ _ := rfl
  bindCount_pushText _ _ := rfl
  sql_setPreparable _ _ := rfl
  bindCount_setPreparable _ _ := rfl
  extends_addBind _ b c := ⟨⟨_, rfl⟩, by
    show c.binds.length ≤ (c.binds ++ [b]).length
    simp⟩
  mark_mark _ _ := rfl
  mark_push _ _ := rfl
  mark_addBind _ _ _ := rfl

namespace LiteralCollector

theorem on_addBind_of_ok {d : Dialect} {b : Bind Caster Value} {v : Value}
    (h : b.serialize = .ok v) (c : LiteralCollector) :
    (addBind d b : Visit LiteralCollector Unit).on c = (c.write v, none) := by
  simp only [addBind, h]
  rfl

theorem on_addBind_of_error {d : Dialect} {b : Bind Caster Value} {e : CastError}
    (h : b.serialize = .error e) (c : LiteralCollector) :
    (addBind d b : Visit LiteralCollector Unit).on c = (c, some (.cast e)) := by
  simp only [addBind, h]
  rfl

end LiteralCollector

instance : LawfulCollector LiteralCollector where
  sql_pushText _ _ := rfl
  bindCount_pushText _ _ := rfl
  sql_setPreparable _ _ := rfl
  bindCount_setPreparable _ _ := rfl
  extends_addBind d b c := by
    cases hb : b.serialize with
    | ok v =>
      rw [LiteralCollector.on_addBind_of_ok hb]
      exact ⟨⟨_, rfl⟩, Nat.le_succ _⟩
    | error e =>
      rw [LiteralCollector.on_addBind_of_error hb]
      exact ⟨⟨"", String.append_empty.symm⟩, Nat.le_refl _⟩
  mark_mark _ _ := rfl
  mark_push _ _ := rfl
  mark_addBind d p b := by
    have hmark : (mark p : Visit LiteralCollector Unit) = pure () := rfl
    rw [hmark]
    simp

end

/-! ## Replays -/

namespace Rendering

open Collector Visitor

variable {σ : Type} [Collector σ] (d : Dialect)

/-- The statement may not be prepared if this is so. -/
def replayFlag (perValue : Bool) : Visit σ Unit := if perValue then mark false else pure ()

def replayPieces : List Piece → Visit σ Unit
  | [] => pure ()
  | .text s :: ps => do
    push s
    replayPieces ps
  | .bind b :: ps => do
    addBind d b
    replayPieces ps

def replayError : Option CompileError → Visit σ Unit
  | none => pure ()
  | some e => throw e

/-- Does to a collector what a rendering says. -/
def replay (r : Rendering) : Visit σ Unit := do
  replayFlag r.perValue
  replayPieces d r.pieces
  replayError r.error

variable {d}

@[simp] theorem replay_empty : replay d empty = (pure () : Visit σ Unit) := rfl

@[simp] theorem replay_text (s : String) : replay d (text s) = (push s : Visit σ Unit) := rfl

@[simp] theorem replay_bind (b : Bind Caster Value) :
    replay d (bind b) = (addBind d b : Visit σ Unit) := by
  simp [replay, bind, replayFlag, replayPieces, replayError]

@[simp] theorem replay_fail (e : CompileError) :
    replay d (fail e) = (throw e : Visit σ Unit) := rfl

@[simp] theorem replay_varying : replay d varying = (mark false : Visit σ Unit) := rfl

theorem replayPieces_append (ps qs : List Piece) :
    (replayPieces d (ps ++ qs) : Visit σ Unit) =
      (do replayPieces d ps; replayPieces d qs) := by
  induction ps with
  | nil => simp [replayPieces]
  | cons p ps ih => cases p <;> simp [replayPieces, ih]

variable [LawfulCollector σ]

theorem replayFlag_or (p q : Bool) :
    (replayFlag (p || q) : Visit σ Unit) = (do replayFlag p; replayFlag q) := by
  cases p <;> cases q <;> simp [replayFlag, LawfulCollector.mark_mark]

/-- The flag may as well be set after pieces as before them. -/
theorem replayFlag_replayPieces (p : Bool) (ps : List Piece) :
    (do replayFlag p; replayPieces d ps : Visit σ Unit) =
      (do replayPieces d ps; replayFlag p) := by
  cases p with
  | false => simp [replayFlag]
  | true =>
    induction ps with
    | nil => simp [replayFlag, replayPieces]
    | cons q ps ih =>
      simp only [replayFlag, if_true] at ih ⊢
      cases q with
      | text s =>
        simp only [replayPieces, bind_assoc, ← ih]
        simp only [← bind_assoc, LawfulCollector.mark_push]
      | bind b =>
        simp only [replayPieces, bind_assoc, ← ih]
        simp only [← bind_assoc, LawfulCollector.mark_addBind]

/-- A replay of one rendering after another is a replay of each, one after another. -/
theorem replay_append (a b : Rendering) :
    (replay d (a ++ b) : Visit σ Unit) = (do replay d a; replay d b) := by
  cases ha : a.error with
  | some e =>
    rw [append_of_error ha]
    simp only [replay, ha, replayError, bind_assoc, Visit.throw_bind]
  | none =>
    rw [append_of_ok ha]
    simp only [replay, ha, replayError, replayFlag_or, replayPieces_append, bind_assoc, pure_bind]
    -- the second flag goes past the first pieces
    rw [← bind_assoc (replayFlag b.perValue), replayFlag_replayPieces, bind_assoc]

end Rendering

/-! ## Rule by rule -/

namespace Visitor

open Collector Rendering

variable {σ : Type} [Collector σ] [LawfulCollector σ] {d : Dialect}

omit [LawfulCollector σ] in
theorem joinedFrom_succ (separator : String) (index : Nat) (vs : List (Visit σ Unit)) :
    joinedFrom separator (index + 1) vs = joinedFrom separator 1 vs := by
  induction vs generalizing index with
  | nil => rfl
  | cons v vs ih => simp [joinedFrom, ih (index + 1), ih 1]

theorem joined_replay (separator : String) (rs : List Rendering) :
    joined separator (rs.map (replay d)) =
      (replay d (Rendering.joined separator rs) : Visit σ Unit) := by
  induction rs with
  | nil => rfl
  | cons r rs ih =>
    cases rs with
    | nil => simp [joined, joinedFrom, Rendering.joined]
    | cons s rs =>
      rw [Rendering.joined, replay_append, replay_append, replay_text, ← ih]
      simp [joined, joinedFrom, joinedFrom_succ separator 1]

theorem optional_replay (lead : String) (o : Option Rendering) :
    optional lead (o.map (replay d)) = (replay d (.optional lead o) : Visit σ Unit) := by
  cases o with
  | none => rfl
  | some r => simp [optional, Rendering.optional, replay_append]

theorem clause_replay (lead separator : String) (rs : List Rendering) :
    clause lead separator (rs.map (replay d)) =
      (replay d (.clause lead separator rs) : Visit σ Unit) := by
  cases rs with
  | nil => rfl
  | cons r rs =>
    rw [Rendering.clause, replay_append, ← joined_replay]
    simp [clause]

theorem between_replay (op : String) (l r : Rendering) :
    between op (replay d l) (replay d r) = (replay d (.between op l r) : Visit σ Unit) := by
  simp [between, Rendering.between, replay_append]

theorem addBinds_eq_replay (bs : List (Bind Caster Value)) :
    addBinds d bs = (replay d (.binds bs) : Visit σ Unit) := by
  rw [Rendering.binds, ← joined_replay, List.map_map]
  simp [addBinds, Function.comp_def]

theorem column_eq_replay (c : Column Caster) :
    column d c = (replay d (Render.column d c) : Visit σ Unit) := by
  unfold column Render.column
  cases c.table <;> simp [replay_append]

theorem table_eq_replay (t : Table) :
    table d t = (replay d (Render.table d t) : Visit σ Unit) := by
  unfold table Render.table
  cases t.altName <;> simp [replay_append, Rendering.optional]

omit [LawfulCollector σ] in
theorem casted_eq_replay (c : Column Caster) (v : Value) :
    casted c v = (replay d (.literal (c.type.serialize v)) : Visit σ Unit) := by
  unfold casted
  cases c.type.serialize v with
  | ok received => simp [Visit.orStop, Rendering.literal]
  | error e => simp [Visit.orStop, Rendering.literal, Visit.throw_bind]

theorem enclosed_replay (opening closing : String) (r : Rendering) :
    enclosed opening closing (replay d r) =
      (replay d (.text opening ++ (r ++ .text closing)) : Visit σ Unit) := by
  simp [enclosed, replay_append]

theorem suffixed_replay (suffix : String) (r : Rendering) :
    suffixed (replay d r) suffix = (replay d (r ++ .text suffix) : Visit σ Unit) := by
  simp [suffixed, replay_append]

theorem parenthesized_replay (e : Query) (r : Rendering) :
    parenthesized e (replay d r) = (replay d (Render.parenthesized e r) : Visit σ Unit) := by
  cases e with
  | unary op e =>
    cases op with
    | grouping => rfl
    | _ => exact enclosed_replay _ _ r
  | _ => exact enclosed_replay _ _ r

theorem groupingItems_replay (e : Query) (r : Rendering) :
    groupingItems e (replay d r) = (replay d (Render.groupingItems e r) : Visit σ Unit) := by
  cases e with
  | list items => exact enclosed_replay _ _ r
  | _ => rfl

theorem subquery_replay (e : Query) (r : Rendering) :
    subquery e (replay d r) = (replay d (Render.subquery e r) : Visit σ Unit) := by
  cases e with
  | select s => exact enclosed_replay _ _ r
  | _ => rfl

theorem unary_replay (g : Grammar) (op : UnaryOp) (e : Query) (r : Rendering) :
    unary g d op e (replay d r) = (replay d (Render.unary g d op e r) : Visit σ Unit) := by
  cases op with
  | grouping => exact parenthesized_replay e r
  | not => simp [unary, Render.unary, replay_append, parenthesized_replay]
  | ascending | descending | nullsFirst | nullsLast => exact suffixed_replay _ r
  | distinctOn | groupingElement =>
    cases g with
    | standard => rfl
    | postgres => exact enclosed_replay _ _ r
  | cube | rollUp | groupingSet =>
    cases g with
    | standard => rfl
    | postgres => simp [unary, Render.unary, replay_append, groupingItems_replay]
  | lateral =>
    cases g with
    | standard => rfl
    | postgres => simp [unary, Render.unary, replay_append, subquery_replay]

theorem distinctCase_replay (l r : Rendering) :
    distinctCase (replay d l) (replay d r) =
      (replay d (Render.distinctCase l r) : Visit σ Unit) := by
  simp [distinctCase, Render.distinctCase, replay_append, between_replay]

theorem nullTest_replay {v : Visit σ Unit} (nullTest : String) (right : Query)
    {l r : Rendering} (h : v = replay d r) :
    (if right.isNull then suffixed (replay d l) nullTest else v) =
      replay d (if right.isNull then l ++ .text nullTest else r) := by
  split
  · exact suffixed_replay _ l
  · exact h

theorem elementOf_replay (op whenEmpty : String) (right : Query) (l r : Rendering) :
    elementOf op whenEmpty right (replay d l) (replay d r) =
      (replay d (Render.elementOf op whenEmpty right l r) : Visit σ Unit) := by
  rcases Render.elementOf_cases op whenEmpty right l r with
    ⟨rfl, h⟩ | ⟨e, es, rfl, h⟩ | ⟨hright, h⟩
  · rw [h]
    rfl
  · rw [h]
    simp [elementOf, replay_append]
  · rw [h]
    unfold elementOf
    split
    · rename_i items
      exact absurd rfl (hright items)
    · simp [replay_append]

theorem binary_replay (g : Grammar) (op : BinaryOp) (right : Query) (l r : Rendering) :
    binary g op right (replay d l) (replay d r) =
      (replay d (Render.binary g op right l r) : Visit σ Unit) := by
  cases op with
  | equal | notEqual => exact nullTest_replay _ right (between_replay _ l r)
  | greater | greaterOrEqual | less | lessOrEqual | aliased | or => exact between_replay _ l r
  | isIn | notIn => exact elementOf_replay _ _ right l r
  | distinctFrom | notDistinctFrom =>
    cases g with
    | postgres => exact between_replay _ l r
    | standard =>
      refine nullTest_replay _ right ?_
      rw [distinctCase_replay, suffixed_replay]

theorem pattern_replay (op : String) (l r : Rendering) (escape : Option Rendering) :
    pattern op (replay d l) (replay d r) (escape.map (replay d)) =
      (replay d (Render.pattern op l r escape) : Visit σ Unit) := by
  rw [Render.pattern, replay_append, ← optional_replay, ← between_replay]
  rfl

theorem regexp_replay (g : Grammar) (negated caseSensitive : Bool) (l r : Rendering) :
    regexp g d negated caseSensitive (replay d l) (replay d r) =
      (replay d (Render.regexp g d negated caseSensitive l r) : Visit σ Unit) := by
  cases g with
  | standard => rfl
  | postgres => exact between_replay _ l r

theorem call_replay (name : String) (args : List Rendering) (distinct : Bool)
    (altName : Option String) :
    call d name (args.map (replay d)) distinct altName =
      (replay d (Render.call d name args distinct altName) : Visit σ Unit) := by
  unfold call Render.call
  cases distinct <;> cases altName <;>
    simp [replay_append, joined_replay, Rendering.optional]

theorem perValueInList_eq_replay (m : InList Caster Value) :
    perValueInList d m = (replay d (Render.perValueInList d m) : Visit σ Unit) := by
  unfold perValueInList Render.perValueInList
  simp only [replay_append, replay_varying, replay_text, column_eq_replay]
  cases m.polarity <;> rcases m.candidates with e | _ | ⟨v, vs⟩ <;>
    simp [Visit.orStop, Visit.throw_bind, candidates, addBinds_eq_replay]

theorem arrayInList_eq_replay (m : InList Caster Value) :
    arrayInList d m = (replay d (Render.arrayInList d m) : Visit σ Unit) := by
  unfold arrayInList Render.arrayInList
  simp only [replay_append, replay_text, column_eq_replay]
  cases m.polarity <;> cases m.candidates <;> simp [Visit.orStop, Visit.throw_bind]

theorem inList_eq_replay (g : Grammar) (m : InList Caster Value) :
    inList g d m = (replay d (Render.inList g d m) : Visit σ Unit) := by
  unfold inList Render.inList
  cases g with
  | standard => exact perValueInList_eq_replay m
  | postgres =>
    cases m.column.type.kind with
    | binary | json => exact perValueInList_eq_replay m
    | _ => exact arrayInList_eq_replay m

/-! ## Trees -/

omit [LawfulCollector σ] in
theorem nodes_eq_map (ns : List Query) :
    (nodes d ns : List (Visit σ Unit)) = ns.map (·.visit d) := by
  induction ns with
  | nil => rfl
  | cons n ns ih => rw [nodes, ih]; rfl

omit [LawfulCollector σ] in
theorem optionNode_eq_map (o : Option Query) :
    (optionNode d o : Option (Visit σ Unit)) = o.map (·.visit d) := by
  cases o <;> rfl

/-- Trees are visited as they are rendered. -/
def Replays (σ : Type) [Collector σ] (d : Dialect) (n : Query) : Prop :=
  n.visit d = (replay d (n.render d) : Visit σ Unit)

omit [LawfulCollector σ] in
theorem nodes_of_replays (ns : List Query) (h : ∀ n ∈ ns, Replays σ d n) :
    (nodes d ns : List (Visit σ Unit)) = (ns.map (·.render d)).map (replay d) := by
  rw [nodes_eq_map, List.map_map]
  exact List.map_congr_left h

omit [LawfulCollector σ] in
theorem optionNode_of_replays (o : Option Query) (h : ∀ n ∈ o.toList, Replays σ d n) :
    (optionNode d o : Option (Visit σ Unit)) = (o.map (·.render d)).map (replay d) := by
  cases o with
  | none => rfl
  | some n => exact congrArg some (h n (by simp))

theorem joins_replay (js : List (Join Caster Value))
    (h : ∀ n ∈ js.flatMap Join.children, Replays σ d n) :
    joins d js = (replay d (Render.joins d js) : Visit σ Unit) := by
  induction js with
  | nil => rfl
  | cons j js ih =>
    obtain ⟨kind, relation, on⟩ := j
    simp only [List.flatMap_cons, Join.children, List.mem_append, List.mem_cons] at h
    have hrelation : node d.grammar d relation = replay d (relation.render d) :=
      h relation (.inl (.inl rfl))
    have hon := optionNode_of_replays on fun n hn => h n (.inl (.inr hn))
    have hjs := ih fun n hn => h n (.inr hn)
    rw [Render.joins, Render.join_eq, replay_append, replay_append, replay_append, ← hjs,
      ← optional_replay, ← hrelation, ← hon]
    simp [joins]

theorem select_replay (s : Select Caster Value) (h : ∀ n ∈ s.children, Replays σ d n) :
    select d s = (replay d ((Node.select s).render d) : Visit σ Unit) := by
  rw [Node.render_select]
  obtain ⟨unique, projections, source, js, wheres, groups, havings, orders, limit, offset⟩ := s
  simp only [Select.children, List.mem_append] at h
  simp only [select, replay_append, replay_text, ← optional_replay, ← clause_replay]
  rw [optionNode_of_replays unique fun n hn => h n (by simp only [hn, true_or]),
    nodes_of_replays projections fun n hn => h n (by simp only [hn, true_or, or_true]),
    optionNode_of_replays source fun n hn => h n (by simp only [hn, true_or, or_true]),
    joins_replay js fun n hn => h n (by simp only [hn, true_or, or_true]),
    nodes_of_replays wheres fun n hn => h n (by simp only [hn, true_or, or_true]),
    nodes_of_replays groups fun n hn => h n (by simp only [hn, true_or, or_true]),
    nodes_of_replays havings fun n hn => h n (by simp only [hn, true_or, or_true]),
    nodes_of_replays orders fun n hn => h n (by simp only [hn, true_or, or_true]),
    optionNode_of_replays limit fun n hn => h n (by simp only [hn, true_or, or_true]),
    optionNode_of_replays offset fun n hn => h n (by simp only [hn, or_true])]

/-- A node is visited as it is rendered, by either grammar, if its children are. -/
theorem node_replay (g : Grammar) (n : Query) (h : ∀ c ∈ n.children, Replays σ d c) :
    node g d n = (replay d (Render.node g d n) : Visit σ Unit) := by
  have hchild : ∀ c ∈ n.children, node d.grammar d c = (replay d (c.render d) : Visit σ Unit) := h
  cases n with
  | sql | star | distinct | quoted => rfl
  | bind b => exact (replay_bind b).symm
  | column c => exact column_eq_replay c
  | table t => exact table_eq_replay t
  | casted c v => exact casted_eq_replay c v
  | inList m => exact inList_eq_replay g m
  | list items =>
    rw [node, nodes_of_replays items h, joined_replay, Render.node, Render.nodes_eq_map]
  | and operands =>
    rw [node, nodes_of_replays operands h, joined_replay, Render.node, Render.nodes_eq_map]
  | unary op e =>
    rw [node, hchild e (by simp [Node.children]), unary_replay]
    rfl
  | binary op l r =>
    rw [node, hchild l (by simp [Node.children]), hchild r (by simp [Node.children]), binary_replay]
    rfl
  | tableAlias relation name =>
    rw [node, hchild relation (by simp [Node.children]), Render.node, replay_append, replay_append,
      replay_text, replay_text]
    rfl
  | between e low high =>
    rw [node, hchild e (by simp [Node.children]), hchild low (by simp [Node.children]),
      hchild high (by simp [Node.children]), between_replay, between_replay]
    rfl
  | like negated l r escape caseSensitive =>
    have hescape := optionNode_of_replays escape fun c hc => h c (by
      simp only [Node.children, List.mem_cons]
      exact .inr (.inr hc))
    rw [node, hchild l (by simp [Node.children]), hchild r (by simp [Node.children]), hescape,
      pattern_replay, Render.node, Render.optionNode_eq_map]
    rfl
  | regexp negated l r caseSensitive =>
    rw [node, hchild l (by simp [Node.children]), hchild r (by simp [Node.children]), regexp_replay]
    rfl
  | call name args distinct altName =>
    rw [node, nodes_of_replays args h, call_replay, Render.node, Render.nodes_eq_map]
  | select s => exact select_replay s h

end Visitor

namespace Node

open Rendering

variable {σ : Type} [Collector σ] [LawfulCollector σ]

/-- Every query is visited as it is rendered. -/
theorem visit_eq_replay (d : Dialect) (n : Query) :
    n.visit d = (replay d (n.render d) : Visit σ Unit) := by
  induction n using children_induction with
  | step n ih => exact Visitor.node_replay d.grammar n ih

theorem visitStandard_eq_replay (d : Dialect) (n : Query) :
    n.visitStandard d = (replay d (n.renderStandard d) : Visit σ Unit) :=
  Visitor.node_replay .standard n fun c _ => visit_eq_replay d c

end Node

end SqlTree
