-- The text of a statement is lexically sound, whatever its names and values hold. Every quoted
-- region is closed, parentheses balance, and outside the regions stand the placeholders of the
-- binds and no others.
import SqlTree.Proofs.Children
import SqlTree.Proofs.Scan
import SqlTree.Proofs.ShortestDigits
import SqlTree.Proofs.Substitution

namespace SqlTree

open Scan

/-! ## Literals and names -/

namespace Scan

theorem isPlain_of_isNumeralChar {c : Char} (h : Text.isNumeralChar c = true) :
    isPlain c = true := by
  have hne (q : Char) (hq : Text.isNumeralChar q = false) : (c != q) = true := by
    rw [bne_iff_ne]
    rintro rfl
    rw [h] at hq
    cases hq
  unfold isPlain
  rw [hne '\'' rfl, hne '"' rfl, hne '$' rfl, hne '?' rfl, hne '(' rfl, hne ')' rfl]
  rfl

theorem moves_string (s : String) : Moves .outside .settled 0 0 [] (Quoting.string s).toList := by
  rw [Quoting.string, String.toList_ofList]
  exact moves_enclose .single s.toList

theorem moves_decimal {cs : List Char} (h : Text.IsDecimal cs) :
    Moves .outside .settled 0 0 [] (String.ofList cs).toList := by
  rw [String.toList_ofList]
  exact (moves_plain fun c hc => isPlain_of_isNumeralChar (h.isNumeralChar c hc)).settled

/-- A literal closes every quote in it and shows no parenthesis and no placeholder. -/
theorem moves_literal (v : Value) : Moves .outside .settled 0 0 [] v.literal.toList := by
  cases v with
  | null => exact (moves_of_depthStep (m := 0) rfl).settled
  | bool b => cases b <;> exact (moves_of_depthStep (m := 0) rfl).settled
  | integer n => exact moves_decimal (Text.isDecimal_intDigits _)
  | float d =>
    rw [Value.literal]
    split
    · rename_i hfinite
      rw [Double.text_of_isFinite hfinite]
      exact moves_decimal (Double.isDecimal_plain hfinite)
    · exact moves_string _
  | text _ | bytes _ | json _ | date _ | timestamp _ | array _ =>
    simp only [Value.literal]
    exact moves_string _

theorem moves_name {d : Dialect} (hd : d.identifierQuote = '"') (name : String) :
    Moves .outside .settled 0 0 [] (d.quoteIdentifier name).toList := by
  rw [Dialect.quoteIdentifier, String.toList_ofList, hd]
  exact moves_enclose .double name.toList

end Scan

/-! ## Renderings -/

/-- Every text is closed in itself, and a scan meets in it the placeholders that are marked. -/
def Fits (mark : String → List String) (fills : List String) : Prop :=
  ∀ f ∈ fills, Moves .outside .settled 0 0 (mark f) f.toList

/-- A rendering that goes through takes a scan from one edge and depth to another, whatever fitting
texts stand in the places of its binds. -/
def Rendering.Scans (mark : String → List String) (a b : Edge) (m n : Nat) (r : Rendering) :
    Prop :=
  r.error = none → ∀ fills, fills.length = (Piece.binds r.pieces).length → Fits mark fills →
    Moves a b m n (fills.flatMap mark) (Piece.weave fills r.pieces).toList

/-- Whether a text goes from one depth to another without quotes and placeholders. -/
def Scan.isLead (m n : Nat) (s : String) : Bool := s.toList.foldlM depthStep m == some n

/-- Whether such a text can also come after anything that is closed. -/
def Scan.isGap (m n : Nat) (s : String) : Bool := s.toList.head?.any isApart && isLead m n s

namespace Rendering

variable {mark : String → List String} {a b c : Edge} {m n o : Nat} {r t : Rendering}

theorem scans_fail (e : CompileError) : (fail e).Scans mark a b m n := by
  intro h
  simp at h

theorem scans_of_pieces_eq_nil (h : r.pieces = []) : r.Scans mark a a m m := by
  intro _ fills hlen _
  rw [h] at hlen ⊢
  rw [List.eq_nil_of_length_eq_zero hlen]
  exact moves_nil a m

theorem scans_empty : empty.Scans mark a a m m := scans_of_pieces_eq_nil rfl

theorem scans_varying : varying.Scans mark a a m m := scans_of_pieces_eq_nil rfl

theorem scans_text {s : String} (h : Moves a b m n [] s.toList) :
    (text s).Scans mark a b m n := by
  intro _ fills hlen _
  have : fills = [] := by simpa [Piece.binds] using hlen
  subst this
  simpa [Piece.weave] using h

theorem scans_bind (x : Bind Caster Value) : (bind x).Scans mark .outside .settled 0 0 := by
  intro _ fills hlen hfits
  obtain ⟨f, rfl⟩ : ∃ f, fills = [f] :=
    List.length_eq_one_iff.mp (by simpa [Piece.binds] using hlen)
  simpa [Piece.weave] using hfits f (by simp)

theorem Scans.append (hr : r.Scans mark a b m n) (ht : t.Scans mark b c n o) :
    (r ++ t).Scans mark a c m o := by
  intro h fills hlen hfits
  obtain ⟨her, het⟩ := append_error_eq_none.mp h
  rw [append_pieces her, Piece.binds_append, List.length_append] at hlen
  -- The texts that stand in the first rendering, then those in the second.
  have hsplit := List.take_append_drop (Piece.binds r.pieces).length fills
  have hfirst : (fills.take (Piece.binds r.pieces).length).length =
      (Piece.binds r.pieces).length := by
    rw [List.length_take]; omega
  have hsecond : (fills.drop (Piece.binds r.pieces).length).length =
      (Piece.binds t.pieces).length := by
    rw [List.length_drop]; omega
  rw [append_pieces her, ← hsplit, Piece.weave_append _ _ _ _ hfirst, String.toList_append,
    List.flatMap_append]
  exact (hr her _ hfirst fun f hf => hfits f (List.mem_of_mem_take hf)).append
    (ht het _ hsecond fun f hf => hfits f (List.mem_of_mem_drop hf))

theorem Scans.deeper (j : Nat) (h : r.Scans mark a b m n) : r.Scans mark a b (m + j) (n + j) :=
  fun he fills hlen hfits => (h he fills hlen hfits).deeper j

theorem Scans.of_settled (h : r.Scans mark .settled b m n) : r.Scans mark a b m n :=
  fun he fills hlen hfits => (h he fills hlen hfits).of_settled

theorem Scans.settled (h : r.Scans mark a b m n) : r.Scans mark a .settled m n :=
  fun he fills hlen hfits => (h he fills hlen hfits).settled

theorem scans_lead {s : String} (h : isLead m n s = true) :
    (text s).Scans mark .outside .outside m n :=
  scans_text (moves_of_depthStep (eq_of_beq h))

theorem scans_gap {s : String} (h : isGap m n s = true) :
    (text s).Scans mark .settled .outside m n := by
  simp only [isGap, Bool.and_eq_true] at h
  have hmoves := moves_of_depthStep (eq_of_beq h.2)
  refine scans_text ?_
  cases hs : s.toList with
  | nil => simp [hs] at h
  | cons c cs =>
    rw [hs] at hmoves
    exact hmoves.apart (by simpa [hs] using h.1)

/-! ## The forms that rules are made of -/

/-- A rendering that is closed in itself, with the depth at its end as at its start. -/
abbrev IsOperand (mark : String → List String) (r : Rendering) : Prop :=
  r.Scans mark .outside .settled 0 0

/-- A rendering that can come after an operand. -/
abbrev IsTail (mark : String → List String) (r : Rendering) : Prop :=
  r.Scans mark .settled .settled 0 0

theorem IsOperand.before {s : String} (hs : isLead 0 0 s = true) (h : r.IsOperand mark) :
    (text s ++ r).IsOperand mark :=
  (scans_lead hs).append h

theorem IsOperand.after {s : String} (hs : isGap 0 0 s = true) (h : r.IsOperand mark) :
    (r ++ text s).IsOperand mark :=
  (h.append (scans_gap hs)).settled

theorem IsOperand.between {op : String} (hop : isGap 0 0 op = true) (hr : r.IsOperand mark)
    (ht : t.IsOperand mark) : (between op r t).IsOperand mark :=
  hr.append ((scans_gap hop).append ht)

/-- An operand between a text that opens a parenthesis and one that closes it. -/
theorem IsOperand.wrapped {s e : String} (hs : isLead 0 1 s = true) (he : isGap 1 0 e = true)
    (h : r.IsOperand mark) : (text s ++ (r ++ text e)).IsOperand mark :=
  ((scans_lead hs).append ((h.deeper 1).append (scans_gap he))).settled

/-- An operator that opens a parenthesis, closed after the second operand. -/
theorem IsOperand.applied {op : String} (hop : isGap 0 1 op = true) (hr : r.IsOperand mark)
    (ht : t.IsOperand mark) : (r ++ (text op ++ (t ++ text ")"))).IsOperand mark :=
  (hr.append ((scans_gap hop).append ((ht.deeper 1).append (scans_gap rfl)))).settled

theorem isTail_optional {lead : String} (hlead : isGap 0 0 lead = true) (r? : Option Rendering)
    (h : ∀ r ∈ r?, r.IsOperand mark) : (optional lead r?).IsTail mark := by
  cases r? with
  | none => exact scans_empty
  | some r => exact (scans_gap hlead).append (h r rfl)

theorem isOperand_joined {separator : String} (hs : isGap 0 0 separator = true)
    (rs : List Rendering) (h : ∀ r ∈ rs, r.IsOperand mark) :
    (joined separator rs).IsOperand mark := by
  induction rs with
  | nil => exact scans_empty.settled
  | cons r rest ih =>
    have hr := h r (by simp)
    have hrest := ih fun x hx => h x (by simp [hx])
    cases rest with
    | nil => exact hr
    | cons x rest => exact hr.between hs hrest

theorem isTail_clause {lead separator : String} (hlead : isGap 0 0 lead = true)
    (hs : isGap 0 0 separator = true) (rs : List Rendering) (h : ∀ r ∈ rs, r.IsOperand mark) :
    (clause lead separator rs).IsTail mark := by
  cases rs with
  | nil => exact scans_empty
  | cons r rest => exact (scans_gap hlead).append (isOperand_joined hs _ h)

theorem isOperand_literal (v : Except CastError Value) : (literal v).IsOperand mark := by
  cases v with
  | ok v => exact scans_text (moves_literal v)
  | error e => exact scans_fail _

end Rendering

/-! ## The rules -/

namespace Render

open Rendering

variable {mark : String → List String} {d : Dialect} {l r : Rendering}

theorem isOperand_name (hd : d.identifierQuote = '"') (name : String) :
    (text (d.quoteIdentifier name)).IsOperand mark :=
  scans_text (moves_name hd name)

theorem isOperand_column (hd : d.identifierQuote = '"') (c : Column Caster) :
    (column d c).IsOperand mark := by
  have hdot : isGap 0 0 "." = true := rfl
  unfold column
  split
  · exact isOperand_name hd _
  · exact (isOperand_name hd _).between hdot (isOperand_name hd _)

theorem isTail_name (hd : d.identifierQuote = '"') {lead : String} (hlead : isGap 0 0 lead = true)
    (name? : Option String) :
    (optional lead (name?.map fun a => text (d.quoteIdentifier a))).IsTail mark := by
  cases name? with
  | none => exact scans_empty
  | some a => exact (scans_gap hlead).append (isOperand_name hd a)

theorem isOperand_table (hd : d.identifierQuote = '"') (t : Table) :
    (table d t).IsOperand mark :=
  (isOperand_name hd t.name).append (isTail_name hd rfl t.altName)

theorem isOperand_parenthesized (e : Query) (h : r.IsOperand mark) :
    (parenthesized e r).IsOperand mark := by
  unfold parenthesized
  split
  · exact h
  · exact h.wrapped rfl rfl

theorem isOperand_groupingItems (e : Query) (h : r.IsOperand mark) :
    (groupingItems e r).IsOperand mark := by
  unfold groupingItems
  split
  · exact h.wrapped rfl rfl
  · exact h

theorem isOperand_subquery (e : Query) (h : r.IsOperand mark) :
    (subquery e r).IsOperand mark := by
  unfold subquery
  split
  · exact h.wrapped rfl rfl
  · exact h

theorem isOperand_unary (g : Grammar) (op : UnaryOp) (e : Query) (h : r.IsOperand mark) :
    (unary g d op e r).IsOperand mark := by
  have hitems := isOperand_groupingItems e h
  cases op with
  | grouping => exact isOperand_parenthesized e h
  | not => exact (isOperand_parenthesized e h).before rfl
  | ascending | descending | nullsFirst | nullsLast => exact h.after rfl
  | distinctOn | groupingElement =>
    cases g with
    | standard => exact scans_fail _
    | postgres => exact h.wrapped rfl rfl
  | cube | rollUp | groupingSet =>
    cases g with
    | standard => exact scans_fail _
    | postgres => exact hitems.before rfl
  | lateral =>
    cases g with
    | standard => exact scans_fail _
    | postgres => exact (isOperand_subquery e h).before rfl

theorem isOperand_nullAware {op nullTest : String} (hop : isGap 0 0 op = true)
    (htest : isGap 0 0 nullTest = true) (right : Query) (hl : l.IsOperand mark)
    (hr : r.IsOperand mark) : (nullAware op nullTest right l r).IsOperand mark := by
  unfold nullAware
  split
  · exact hl.after htest
  · exact hl.between hop hr

theorem isOperand_distinctCase (hl : l.IsOperand mark) (hr : r.IsOperand mark) :
    (distinctCase l r).IsOperand mark := by
  refine IsOperand.before rfl ((hl.between rfl hr).append ?_)
  -- The operands come a second time, inside a parenthesis.
  refine (scans_gap (n := 1) rfl).append ((hl.deeper 1).append ?_)
  refine (scans_gap (m := 1) (n := 1) rfl).append ((hr.deeper 1).append ?_)
  exact (scans_gap rfl).settled

theorem isOperand_elementOf {op whenEmpty : String} (hop : isGap 0 1 op = true)
    (hempty : isLead 0 0 whenEmpty = true) (right : Query) (hl : l.IsOperand mark)
    (hr : r.IsOperand mark) : (elementOf op whenEmpty right l r).IsOperand mark := by
  rcases elementOf_cases op whenEmpty right l r with ⟨_, heq⟩ | ⟨_, _, _, heq⟩ | ⟨_, heq⟩
  · rw [heq]
    exact (scans_lead hempty).settled
  · rw [heq]
    exact scans_varying.append (hl.applied hop hr)
  · rw [heq]
    exact hl.applied hop hr

theorem isOperand_binary (g : Grammar) (op : BinaryOp) (right : Query) (hl : l.IsOperand mark)
    (hr : r.IsOperand mark) : (binary g op right l r).IsOperand mark := by
  cases op with
  | equal | notEqual => exact isOperand_nullAware rfl rfl right hl hr
  | isIn | notIn => exact isOperand_elementOf rfl rfl right hl hr
  | distinctFrom | notDistinctFrom =>
    cases g with
    | postgres => exact hl.between rfl hr
    | standard =>
      simp only [binary]
      split
      · exact hl.after rfl
      · exact (isOperand_distinctCase hl hr).after rfl
  | _ => exact hl.between rfl hr

theorem isGap_likeOperator (g : Grammar) (negated caseSensitive : Bool) :
    isGap 0 0 (likeOperator g negated caseSensitive) = true := by
  cases g <;> cases negated <;> cases caseSensitive <;> rfl

theorem isGap_regexpOperator (negated caseSensitive : Bool) :
    isGap 0 0 (regexpOperator negated caseSensitive) = true := by
  cases negated <;> cases caseSensitive <;> rfl

theorem isGap_joinKeyword (kind : JoinKind) : isGap 0 0 (joinKeyword kind) = true := by
  cases kind <;> rfl

theorem isOperand_regexp (g : Grammar) (negated caseSensitive : Bool) (hl : l.IsOperand mark)
    (hr : r.IsOperand mark) : (regexp g d negated caseSensitive l r).IsOperand mark := by
  cases g with
  | postgres => exact hl.between (isGap_regexpOperator negated caseSensitive) hr
  | standard => exact scans_fail _

theorem isOperand_call (hd : d.identifierQuote = '"') {name : String}
    (hname : ∀ c ∈ name.toList, isPlain c = true) (args : List Rendering)
    (hargs : ∀ r ∈ args, r.IsOperand mark) (distinct : Bool) (altName : Option String) :
    (call d name args distinct altName).IsOperand mark := by
  have hdistinct : (if distinct then text "DISTINCT " else empty).Scans mark .outside .outside
      1 1 := by
    cases distinct with
    | true => exact scans_lead rfl
    | false => exact scans_empty
  refine (scans_text (moves_plain hname)).append ((scans_lead (n := 1) rfl).append ?_)
  refine hdistinct.append (((isOperand_joined rfl args hargs).deeper 1).append ?_)
  exact (scans_gap (n := 0) rfl).append (isTail_name hd rfl altName).of_settled

theorem isOperand_perValueInList (hd : d.identifierQuote = '"') (x : InList Caster Value) :
    (perValueInList d x).IsOperand mark := by
  refine scans_varying.append ((isOperand_column hd x.column).applied ?_ ?_)
  · cases x.polarity <;> rfl
  · cases x.candidates with
    | error e => exact scans_fail _
    | ok vs =>
      cases vs with
      | nil => exact scans_text (moves_literal .null)
      | cons v vs =>
        refine isOperand_joined rfl _ ?_
        intro r hr
        obtain ⟨b, _, rfl⟩ := List.mem_map.mp hr
        exact scans_bind b

theorem isOperand_arrayInList (hd : d.identifierQuote = '"') (x : InList Caster Value) :
    (arrayInList d x).IsOperand mark := by
  refine (isOperand_column hd x.column).applied ?_ ?_
  · cases x.polarity <;> rfl
  · cases x.candidates with
    | error e => exact scans_fail _
    | ok vs => exact scans_bind _

theorem isOperand_inList (hd : d.identifierQuote = '"') (g : Grammar) (x : InList Caster Value) :
    (inList g d x).IsOperand mark := by
  unfold inList
  split
  · exact isOperand_perValueInList hd x
  · exact isOperand_perValueInList hd x
  · exact isOperand_perValueInList hd x
  · exact isOperand_arrayInList hd x

section

variable {o : Option Query} {ns : List Query}

theorem isTail_optionalNode {lead : String} (hlead : isGap 0 0 lead = true)
    (h : ∀ c ∈ o.toList, (c.render d).IsOperand mark) :
    (optional lead (o.map (·.render d))).IsTail mark := by
  refine isTail_optional hlead _ ?_
  intro r hr
  obtain ⟨c, hc, rfl⟩ := Option.map_eq_some_iff.mp hr
  exact h c (Option.mem_toList.mpr hc)

theorem isOperand_nodes {separator : String} (hs : isGap 0 0 separator = true)
    (h : ∀ c ∈ ns, (c.render d).IsOperand mark) :
    (joined separator (ns.map (·.render d))).IsOperand mark := by
  refine isOperand_joined hs _ ?_
  intro r hr
  obtain ⟨c, hc, rfl⟩ := List.mem_map.mp hr
  exact h c hc

theorem isTail_nodes {lead separator : String} (hlead : isGap 0 0 lead = true)
    (hs : isGap 0 0 separator = true) (h : ∀ c ∈ ns, (c.render d).IsOperand mark) :
    (clause lead separator (ns.map (·.render d))).IsTail mark := by
  refine isTail_clause hlead hs _ ?_
  intro r hr
  obtain ⟨c, hc, rfl⟩ := List.mem_map.mp hr
  exact h c hc

theorem isTail_joins (js : List (Join Caster Value))
    (h : ∀ c ∈ js.flatMap Join.children, (c.render d).IsOperand mark) :
    (joins d js).IsTail mark := by
  induction js with
  | nil => exact scans_empty
  | cons j js ih =>
    simp only [List.flatMap_cons, Join.children, List.cons_append, List.mem_cons,
      List.mem_append] at h
    rw [joins, join_eq]
    refine Scans.append ?_ (ih fun c hc => h c (.inr (.inr hc)))
    refine (scans_gap (isGap_joinKeyword j.kind)).append ((h j.relation (.inl rfl)).append ?_)
    exact isTail_optionalNode rfl fun c hc => h c (.inr (.inl hc))

theorem isOperand_select (s : Select Caster Value)
    (h : ∀ c ∈ s.children, (c.render d).IsOperand mark) :
    ((Node.select s).render d).IsOperand mark := by
  simp only [Select.children, List.mem_append] at h
  rw [Node.render_select]
  refine (scans_lead (n := 0) rfl).append (Scans.of_settled ?_)
  refine (isTail_optionalNode rfl fun c hc => h c (by simp only [hc, true_or])).append ?_
  refine (isTail_nodes rfl rfl fun c hc => h c (by simp only [hc, true_or, or_true])).append ?_
  refine (isTail_optionalNode rfl fun c hc => h c (by simp only [hc, true_or, or_true])).append ?_
  refine (isTail_joins _ fun c hc => h c (by simp only [hc, true_or, or_true])).append ?_
  refine (isTail_nodes rfl rfl fun c hc => h c (by simp only [hc, true_or, or_true])).append ?_
  refine (isTail_nodes rfl rfl fun c hc => h c (by simp only [hc, true_or, or_true])).append ?_
  refine (isTail_nodes rfl rfl fun c hc => h c (by simp only [hc, true_or, or_true])).append ?_
  refine (isTail_nodes rfl rfl fun c hc => h c (by simp only [hc, true_or, or_true])).append ?_
  refine (isTail_optionalNode rfl fun c hc => h c (by simp only [hc, true_or, or_true])).append ?_
  exact isTail_optionalNode rfl fun c hc => h c (by simp only [hc, or_true])

end

end Render

/-! ## Trees -/

namespace Node

open Rendering Render

/-- The text that a node puts into the statement as it is. -/
def ownRawTexts : Query → List String
  | sql text => [text]
  | call name _ _ _ => [name]
  | _ => []

/-- All texts of a tree that go into the statement as they are. -/
def rawTexts (n : Query) : List String :=
  n.gather children (fun _ _ h => h) ownRawTexts

theorem rawTexts_eq (n : Query) :
    n.rawTexts = n.ownRawTexts ++ n.children.flatMap rawTexts :=
  gather_eq children (fun _ _ h => h) ownRawTexts n

/-- If the raw texts of a tree are plain, its rendering is closed in itself. -/
theorem isOperand_render {mark : String → List String} {d : Dialect}
    (hd : d.identifierQuote = '"') (n : Query)
    (hraw : ∀ s ∈ n.rawTexts, ∀ c ∈ s.toList, isPlain c = true) :
    (n.render d).IsOperand mark := by
  induction n using children_induction with
  | step n ih =>
    have hown (s : String) (hs : s ∈ n.ownRawTexts) : ∀ c ∈ s.toList, isPlain c = true :=
      hraw s (by rw [rawTexts_eq]; exact List.mem_append_left _ hs)
    have hc : ∀ c ∈ n.children, (c.render d).IsOperand mark := by
      intro c hc
      refine ih c hc fun s hs => hraw s ?_
      rw [rawTexts_eq]
      exact List.mem_append_right _ (List.mem_flatMap.mpr ⟨c, hc, hs⟩)
    cases n with
    | sql s => exact (scans_text (moves_plain (hown s (by simp [ownRawTexts])))).settled
    | star => exact (scans_lead rfl).settled
    | distinct => exact (scans_lead rfl).settled
    | column x => exact isOperand_column hd x
    | table t => exact isOperand_table hd t
    | quoted v => exact scans_text (moves_literal v)
    | casted x v => exact isOperand_literal _
    | bind b => exact scans_bind b
    | inList x => exact isOperand_inList hd d.grammar x
    | list items => rw [render_list]; exact isOperand_nodes rfl hc
    | and operands => rw [render_and]; exact isOperand_nodes rfl hc
    | unary op e => exact isOperand_unary d.grammar op e (hc e (by simp [children]))
    | binary op l r =>
      exact isOperand_binary d.grammar op r (hc l (by simp [children])) (hc r (by simp [children]))
    | tableAlias relation name =>
      have hblank : isGap 0 0 " " = true := rfl
      exact (hc relation (by simp [children])).between hblank (isOperand_name hd name)
    | between e low high =>
      exact (hc e (by simp [children])).between rfl
        ((hc low (by simp [children])).between rfl (hc high (by simp [children])))
    | like negated l r escape caseSensitive =>
      rw [render_like]
      refine Scans.append ((hc l (by simp [children])).between (isGap_likeOperator _ _ _)
        (hc r (by simp [children]))) (isTail_optionalNode rfl fun c h => hc c ?_)
      simp only [children, List.mem_cons]
      exact .inr (.inr h)
    | regexp negated l r caseSensitive =>
      exact isOperand_regexp d.grammar negated caseSensitive (hc l (by simp [children]))
        (hc r (by simp [children]))
    | call name args distinct altName =>
      rw [render_call]
      refine isOperand_call hd (hown name (by simp [ownRawTexts])) _ ?_ distinct altName
      intro r hr
      obtain ⟨c, h, rfl⟩ := List.mem_map.mp hr
      exact hc c h
    | select s => exact isOperand_select s hc

/-! ## The law -/

theorem fits_placeholders (d : Dialect) (indices : List Nat) :
    Fits (fun f => [f]) (indices.map d.placeholder) := by
  intro f hf
  obtain ⟨k, _, rfl⟩ := List.mem_map.mp hf
  unfold Dialect.placeholder
  split
  · exact moves_question
  · rw [String.toList_ofList]
    exact moves_numbered _ fun _ => Text.isDigit_of_mem_natDigits

theorem fits_literals (vs : List Value) : Fits (fun _ => []) (vs.map Value.literal) := by
  intro f hf
  obtain ⟨v, _, rfl⟩ := List.mem_map.mp hf
  exact moves_literal v

/-- A scan of a statement meets the placeholders of its binds in order. -/
theorem placeholders_of_compile {d : Dialect} (hd : d.identifierQuote = '"') {n : Query}
    (hraw : ∀ s ∈ n.rawTexts, ∀ c ∈ s.toList, isPlain c = true) {s : Statement}
    (hs : n.compile d = .ok s) :
    placeholders? s.sql = some ((List.range' 1 s.binds.length).map d.placeholder) := by
  obtain ⟨hr, rfl⟩ := compile_eq_ok.mp hs
  have hfits := fits_placeholders d (List.range' 1 (Piece.binds (n.render d).pieces).length)
  have hmoves := isOperand_render hd n hraw hr _ (by simp) hfits
  rw [List.flatMap_singleton'] at hmoves
  exact hmoves.placeholders

/-- A scan of a statement with its values written in meets no placeholder. -/
theorem placeholders_of_toSql {d : Dialect} (hd : d.identifierQuote = '"') {n : Query}
    (hraw : ∀ s ∈ n.rawTexts, ∀ c ∈ s.toList, isPlain c = true) {sql : String}
    (hs : n.toSql d = .ok sql) : placeholders? sql = some [] := by
  obtain ⟨hr, vs, hv, rfl⟩ := toSql_eq_ok.mp hs
  have hmoves := isOperand_render hd n hraw hr _ (by simpa using mapM_length hv) (fits_literals vs)
  rw [List.flatMap_eq_nil_iff.mpr fun _ _ => rfl] at hmoves
  exact hmoves.placeholders

/-- Whatever the names and values of a query hold, its statement closes every quote and every
parenthesis, and outside quotes it shows the placeholders of its binds in order and no others. With
the values written in, it shows none. Only the raw texts of the query have to be plain. -/
theorem statements_are_lexically_sound (n : Query)
    (hraw : ∀ s ∈ n.rawTexts, ∀ c ∈ s.toList, c ∉ ['\'', '"', '$', '?', '(', ')']) :
    (∀ s, n.compile .postgres = .ok s → placeholders? s.sql =
      some ((List.range' 1 s.binds.length).map fun k => "$" ++ toString k)) ∧
    (∀ s, n.compile .generic = .ok s →
      placeholders? s.sql = some (List.replicate s.binds.length "?")) ∧
    (∀ sql, n.toSql .postgres = .ok sql → placeholders? sql = some []) ∧
    (∀ sql, n.toSql .generic = .ok sql → placeholders? sql = some []) := by
  have hplain : ∀ s ∈ n.rawTexts, ∀ c ∈ s.toList, isPlain c = true :=
    fun s hs c hc => isPlain_of_not_mem (hraw s hs c hc)
  refine ⟨?_, ?_, fun sql => placeholders_of_toSql rfl hplain,
    fun sql => placeholders_of_toSql rfl hplain⟩
  · intro s hs
    rw [placeholders_of_compile rfl hplain hs]
    congr 1
    refine List.map_congr_left fun k _ => ?_
    rw [← String.toList_inj, String.toList_append]
    simp [Dialect.placeholder, Dialect.postgres, Text.natDigits]
  · intro s hs
    rw [placeholders_of_compile rfl hplain hs, show Dialect.generic.placeholder = fun _ => "?"
      from rfl, List.map_const', List.length_range']

/-- Quotes and marks in names and values, behind raw texts without any. -/
theorem statements_are_lexically_sound_with_quotes :
    let n : Query := .call "lower" [.binary .equal (.column ⟨none, "a\"$1(", .text⟩)
      (.bind ⟨"a", .text "')?", .text⟩), .sql "b"] false none
    (∀ s ∈ n.rawTexts, ∀ c ∈ s.toList, c ∉ ['\'', '"', '$', '?', '(', ')']) ∧
      placeholders? "lower(\"a\"\"$1(\" = $1, b)" = some ["$1"] ∧
      placeholders? "lower(\"a\"\"$1(\" = ?, b)" = some ["?"] ∧
      placeholders? "lower(\"a\"\"$1(\" = '\'\')?', b)" = some [] := by
  intro n
  have hraw : ∀ s ∈ n.rawTexts, ∀ c ∈ s.toList, c ∉ ['\'', '"', '$', '?', '(', ')'] := by
    have htexts : n.rawTexts = ["lower", "b"] := by simp [n, rawTexts_eq, ownRawTexts, children]
    simp [htexts]
  obtain ⟨hpostgres, hgeneric, hliteral, -⟩ := statements_are_lexically_sound n hraw
  have hnumbered := hpostgres _ rfl
  have hquestion := hgeneric _ rfl
  have hwritten := hliteral _ rfl
  exact ⟨hraw, hnumbered, hquestion, hwritten⟩

end Node

end SqlTree
