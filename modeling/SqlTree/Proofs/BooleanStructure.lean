-- The boolean structure of a tree and of its text. Parentheses are written only for groupings and
-- after NOT, so that the text means what the tree means rests on the precedence of the connectives.
import SqlTree.Proofs.CommonLanguage
import SqlTree.Proofs.ConditionReader

namespace SqlTree

/-! ## Renderings that are read -/

namespace Condition

/-- What binds the parts of a condition together, from the closest to the loosest. -/
inductive Level where
  | operand
  | factors
  | alternatives
deriving DecidableEq, Repr

/-- The tokens are read with this meaning where such parts may come. -/
def Reads : Level → List Token → Meaning → Prop
  | .operand => ReadsOperand
  | .factors => ReadsFactors
  | .alternatives => ReadsAlternatives

theorem Reads.alternatives {level : Level} {ts : List Token} {m : Meaning}
    (h : Reads level ts m) : ReadsAlternatives ts m := by
  cases level with
  | operand => exact ReadsOperand.factors h |>.alternatives
  | factors => exact ReadsFactors.alternatives h
  | alternatives => exact h

theorem Reads.factors {level : Level} {ts : List Token} {m : Meaning} (h : Reads level ts m)
    (hlevel : level ≠ .alternatives) : ReadsFactors ts m := by
  cases level with
  | operand => exact ReadsOperand.factors h
  | factors => exact h
  | alternatives => exact absurd rfl hlevel

end Condition

namespace Rendering

open Condition

/-- A rendering goes through and consists of this text alone. -/
structure Spells (r : Rendering) (cs : List Char) : Prop where
  goesThrough : r.error = none
  noBinds : Piece.binds r.pieces = []
  text : (Piece.weave [] r.pieces).toList = cs

theorem spells_text (s : String) : Spells (text s) s.toList := by
  refine ⟨rfl, rfl, ?_⟩
  simp [Piece.weave]

theorem Spells.append {a b : Rendering} {cs ds : List Char} (ha : a.Spells cs)
    (hb : b.Spells ds) : (a ++ b).Spells (cs ++ ds) := by
  have hpieces : (a ++ b).pieces = a.pieces ++ b.pieces := append_pieces ha.goesThrough
  refine ⟨append_error_eq_none.mpr ⟨ha.goesThrough, hb.goesThrough⟩, ?_, ?_⟩
  · rw [hpieces, Piece.binds_append, ha.noBinds, hb.noBinds, List.append_nil]
  · have hweave := Piece.weave_append [] [] a.pieces b.pieces (by simp [ha.noBinds])
    rw [hpieces, ← List.append_nil [], hweave, String.toList_append, ha.text, hb.text]

/-- A rendering is a text that is read with this meaning where such parts may come. -/
def ReadsAs (r : Rendering) (level : Level) (m : Meaning) : Prop :=
  ∃ cs ts, r.Spells cs ∧ Lexes cs ts ∧ Reads level ts m

variable {r s : Rendering} {level level' : Level} {m m' : Meaning}

theorem readsAs_name {name : String} (h : isLowerName name.toList = true) :
    (text name).ReadsAs .operand fun facts => facts name := by
  have hlexes := lexes_lowerName h
  rw [String.ofList_toList] at hlexes
  exact ⟨_, _, spells_text name, hlexes, readsOperand_name name⟩

theorem ReadsAs.parenthesized (h : r.ReadsAs level m) :
    (text "(" ++ (r ++ text ")")).ReadsAs .operand m := by
  obtain ⟨cs, ts, hspells, hlexes, hreads⟩ := h
  have htext := (spells_text "(").append (hspells.append (spells_text ")"))
  exact ⟨_, _, htext, hlexes.parenthesized, hreads.alternatives.parenthesized⟩

theorem ReadsAs.not (h : r.ReadsAs .operand m) :
    (text "NOT " ++ r).ReadsAs .operand fun facts => (m facts).not := by
  obtain ⟨cs, ts, hspells, hlexes, hreads⟩ := h
  have hword : Leads (['N', 'O', 'T'] ++ [' ']) [.not] :=
    leads_word (List.cons_ne_nil _ _) rfl rfl
  have htext := (spells_text "NOT ").append hspells
  exact ⟨_, _, htext, hword.append_lexes hlexes, ReadsOperand.not hreads⟩

theorem ReadsAs.and (h : r.ReadsAs level m) (hlevel : level ≠ .alternatives)
    (h' : s.ReadsAs .factors m') :
    (r ++ (text " AND " ++ s)).ReadsAs .factors fun facts => (m facts).and (m' facts) := by
  obtain ⟨cs, ts, hspells, hlexes, hreads⟩ := h
  obtain ⟨ds, us, hspells', hlexes', hreads'⟩ := h'
  have htext := hspells.append ((spells_text " AND ").append hspells')
  have hwords := hlexes.between .and ['A', 'N', 'D'] hlexes' (List.cons_ne_nil _ _) rfl rfl
  exact ⟨_, _, htext, hwords, (hreads.factors hlevel).and hreads'⟩

theorem ReadsAs.or (h : r.ReadsAs level m) (h' : s.ReadsAs level' m') :
    (between " OR " r s).ReadsAs .alternatives fun facts => (m facts).or (m' facts) := by
  obtain ⟨cs, ts, hspells, hlexes, hreads⟩ := h
  obtain ⟨ds, us, hspells', hlexes', hreads'⟩ := h'
  have htext := hspells.append ((spells_text " OR ").append hspells')
  have hwords := hlexes.between .or ['O', 'R'] hlexes' (List.cons_ne_nil _ _) rfl rfl
  exact ⟨_, _, htext, hwords, hreads.alternatives.or hreads'.alternatives⟩

end Rendering

/-! ## Conditions as trees -/

namespace Node

open Condition

mutual

/-- What a tree of connectives comes to if the facts come to this. -/
def truth? (facts : String → Truth) : Query → Option Truth
  | .sql name => some (facts name)
  | .and operands => (truths? facts operands).map Truth.all
  | .binary .or left right => do
    let l ← truth? facts left
    let r ← truth? facts right
    some (l.or r)
  | .unary .not operand => (truth? facts operand).map Truth.not
  | .unary .grouping operand => truth? facts operand
  | _ => none

def truths? (facts : String → Truth) : List Query → Option (List Truth)
  | [] => some []
  | n :: ns => do
    let t ← truth? facts n
    let ts ← truths? facts ns
    some (t :: ts)

end

def isOr : Query → Bool
  | .binary .or _ _ => true
  | _ => false

/-- Whether a node is the name of a fact or a connective. An AND has operands, and none of them is
an OR without a grouping. -/
def isConnective : Query → Bool
  | .sql name => isLowerName name.toList
  | .and operands => !operands.isEmpty && operands.all fun e => !e.isOr
  | .binary .or _ _ | .unary .not _ | .unary .grouping _ => true
  | _ => false

/-- Where the text of a node may stand. -/
def level : Query → Level
  | .binary .or _ _ => .alternatives
  | .and _ => .factors
  | _ => .operand

theorem level_ne_alternatives {n : Query} (h : n.isOr = false) : n.level ≠ .alternatives := by
  unfold level
  split
  · simp [isOr] at h
  · simp
  · simp

/-- The text of a tree is read where the tree may stand, with what the tree means. -/
def ReadsBack (d : Dialect) (n : Query) : Prop :=
  ∃ m, (n.render d).ReadsAs n.level m ∧ ∀ facts, n.truth? facts = some (m facts)

variable {d : Dialect}

theorem readsAs_parenthesized {e : Query} {m : Meaning} (h : (e.render d).ReadsAs e.level m) :
    (Render.parenthesized e (e.render d)).ReadsAs .operand m := by
  unfold Render.parenthesized
  split
  · -- a grouping has its parentheses, and so it is an operand as it stands
    exact h
  · exact h.parenthesized

/-- The operands of an AND are read one after another. -/
theorem readsAs_joined {ns : List Query} (hne : ns ≠ []) (hor : ∀ n ∈ ns, n.isOr = false)
    (ih : ∀ n ∈ ns, n.ReadsBack d) :
    ∃ m, (Rendering.joined " AND " (ns.map (·.render d))).ReadsAs .factors m ∧
      ∀ facts, (truths? facts ns).map Truth.all = some (m facts) := by
  induction ns with
  | nil => exact absurd rfl hne
  | cons n ns ihs =>
    obtain ⟨m, hreads, htruth⟩ := ih n List.mem_cons_self
    have hlevel := level_ne_alternatives (hor n List.mem_cons_self)
    cases ns with
    | nil =>
      obtain ⟨cs, ts, hspells, hlexes, hparts⟩ := hreads
      refine ⟨m, ⟨cs, ts, hspells, hlexes, hparts.factors hlevel⟩, ?_⟩
      intro facts
      simp [truths?, htruth, Truth.all]
    | cons next rest =>
      obtain ⟨m', hreads', htruth'⟩ := ihs (List.cons_ne_nil _ _)
        (fun x hx => hor x (List.mem_cons_of_mem n hx))
        (fun x hx => ih x (List.mem_cons_of_mem n hx))
      refine ⟨fun facts => (m facts).and (m' facts), hreads.and hlevel hreads', ?_⟩
      intro facts
      obtain ⟨ts, hts, hall⟩ := Option.map_eq_some_iff.mp (htruth' facts)
      have hcons : truths? facts (n :: next :: rest) = some (m facts :: ts) := by
        rw [truths?, htruth, hts]
        rfl
      rw [hcons, Option.map_some, Truth.all_cons, hall]

theorem readsBack_and {operands : List Query} (hne : operands ≠ [])
    (hor : ∀ n ∈ operands, n.isOr = false) (ih : ∀ n ∈ operands, n.ReadsBack d) :
    ReadsBack d (.and operands) := by
  obtain ⟨m, hreads, htruth⟩ := readsAs_joined hne hor ih
  rw [← render_and] at hreads
  refine ⟨m, hreads, ?_⟩
  intro facts
  rw [truth?, htruth]

theorem readsBack_or {left right : Query} (hleft : left.ReadsBack d) (hright : right.ReadsBack d) :
    ReadsBack d (.binary .or left right) := by
  obtain ⟨m, hreads, htruth⟩ := hleft
  obtain ⟨m', hreads', htruth'⟩ := hright
  refine ⟨fun facts => (m facts).or (m' facts), hreads.or hreads', ?_⟩
  intro facts
  simp [truth?, htruth, htruth']

theorem readsBack_not {e : Query} (h : e.ReadsBack d) : ReadsBack d (.unary .not e) := by
  obtain ⟨m, hreads, htruth⟩ := h
  refine ⟨fun facts => (m facts).not, (readsAs_parenthesized hreads).not, ?_⟩
  intro facts
  simp [truth?, htruth]

theorem readsBack_grouping {e : Query} (h : e.ReadsBack d) :
    ReadsBack d (.unary .grouping e) := by
  obtain ⟨m, hreads, htruth⟩ := h
  refine ⟨m, readsAs_parenthesized hreads, ?_⟩
  intro facts
  simp [truth?, htruth]

/-- A connective is read back if its operands are. -/
theorem readsBack_of_children {n : Query} (hn : n.isConnective = true)
    (ih : ∀ c ∈ n.children, c.ReadsBack d) : n.ReadsBack d := by
  cases n with
  | sql name => exact ⟨_, Rendering.readsAs_name hn, fun facts => by simp [truth?]⟩
  | and operands =>
    have hoperands : operands ≠ [] ∧ ∀ e ∈ operands, e.isOr = false := by
      simpa [isConnective] using hn
    exact readsBack_and hoperands.1 hoperands.2 ih
  | binary op left right =>
    cases op with
    | or => exact readsBack_or (ih left (.head _)) (ih right (.tail _ (.head _)))
    | _ => simp [isConnective] at hn
  | unary op operand =>
    cases op with
    | not => exact readsBack_not (ih operand (.head _))
    | grouping => exact readsBack_grouping (ih operand (.head _))
    | _ => simp [isConnective] at hn
  | _ => simp [isConnective] at hn

theorem readsBack_of_connectives (n : Query) (h : ∀ c ∈ n.nodes, c.isConnective = true) :
    n.ReadsBack d := by
  induction n using children_induction with
  | step n ih =>
    refine readsBack_of_children (h n (mem_nodes_self n)) ?_
    intro c hc
    exact ih c hc fun x hx => h x (mem_nodes_of_child hc hx)

/-! ## The law -/

/-- A tree of facts and connectives, in which every OR under an AND is grouped, compiles in both
dialects. By the precedence of SQL the whole text is one condition, and it comes to what the tree
comes to whatever the facts come to. -/
theorem boolean_structure_survives_rendering (d : Dialect) (n : Query)
    (h : ∀ c ∈ n.nodes, c.isConnective = true) :
    ∃ s c, n.compile d = .ok s ∧ Condition.read? s.sql = some c ∧
      ∀ facts, n.truth? facts = some (c.truth facts) := by
  obtain ⟨m, ⟨cs, ts, hspells, hlexes, hreads⟩, htruth⟩ := readsBack_of_connectives (d := d) n h
  have hcompile := compile_eq_ok.mpr ⟨hspells.goesThrough, rfl⟩
  rw [hspells.noBinds] at hcompile
  have hlexes : Lexes (Piece.weave [] (n.render d).pieces).toList ts := by
    rw [hspells.text]
    exact hlexes
  obtain ⟨c, hread, hc⟩ := read?_of_alternatives hlexes hreads.alternatives
  refine ⟨_, c, hcompile, hread, ?_⟩
  intro facts
  rw [htruth, hc]

/-- An OR that is a root, one that is negated and one in two groupings under an AND. -/
theorem boolean_structure_survives_rendering_of_three :
    let n : Query := .binary .or
      (.and [.unary .not (.binary .or (.sql "a") (.sql "b")), .sql "c",
        .unary .grouping (.unary .grouping (.binary .or (.sql "a") (.unary .not (.sql "c"))))])
      (.sql "d")
    (∀ c ∈ n.nodes, c.isConnective = true) ∧
    ∃ c, Condition.read? "NOT (a OR b) AND c AND (a OR NOT (c)) OR d" = some c ∧
      ∀ facts, n.truth? facts = some (c.truth facts) := by
  intro n
  have hnodes : ∀ c ∈ n.nodes, c.isConnective = true := by
    simp [n, nodes_eq, children, isConnective, isOr]
    decide
  obtain ⟨s, c, hs, hread, htruth⟩ := boolean_structure_survives_rendering .postgres n hnodes
  cases hs
  exact ⟨hnodes, c, hread, htruth⟩

end Node

end SqlTree
