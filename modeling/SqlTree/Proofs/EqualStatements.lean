-- Statements of equal trees. Equal trees that have been read compile or fail together. Their
-- statements have equal binds and may be prepared alike, and differ at most where the sign of a
-- zero shows: in a literal, or in a text that a column receives.
import SqlTree.Proofs.EqualTrees
import SqlTree.Proofs.Preparable
import SqlTree.Proofs.Presentation

namespace SqlTree

/-! ## Renderings without signs -/

/-- The piece with positive zeros only in what is bound. Where signs do not count in texts either,
the text is left out. -/
def Piece.unsign (everywhere : Bool) : Piece → Piece
  | .text s => .text (if everywhere then "" else s)
  | .bind b => .bind b.unsign

/-- Renderings that go through or fail together and differ in nothing but the signs of zeros. -/
structure Rendering.Alike (everywhere : Bool) (r r' : Rendering) : Prop where
  error : r.error.isSome = r'.error.isSome
  perValue : r.perValue = r'.perValue
  pieces : r.pieces.map (Piece.unsign everywhere) = r'.pieces.map (Piece.unsign everywhere)

theorem Bind.unsign_unsign (b : Bind Caster Value) : b.unsign.unsign = b.unsign := by
  simp only [Bind.unsign, Value.unsign_unsign]

namespace Rendering

variable {everywhere : Bool} {r r' r'' : Rendering}

theorem Alike.symm (h : Alike everywhere r r') : Alike everywhere r' r :=
  ⟨h.error.symm, h.perValue.symm, h.pieces.symm⟩

theorem Alike.trans (h : Alike everywhere r r') (h' : Alike everywhere r' r'') :
    Alike everywhere r r'' :=
  ⟨h.error.trans h'.error, h.perValue.trans h'.perValue, h.pieces.trans h'.pieces⟩

theorem Alike.error_eq_none (h : Alike everywhere r r') (hr : r.error = none) :
    r'.error = none := by
  rw [← Option.not_isSome_iff_eq_none, ← h.error, hr]
  exact Bool.noConfusion

theorem Alike.exists_error (h : Alike everywhere r r') {e : CompileError}
    (hr : r.error = some e) : ∃ f, r'.error = some f := by
  rw [← Option.isSome_iff_exists, ← h.error, hr]
  rfl

theorem alike_congruence (everywhere : Bool) : Congruence (Alike everywhere) where
  refl := fun _ => ⟨rfl, rfl, rfl⟩
  append := by
    intro a a' b b' ha hb
    cases he : a.error with
    | some e =>
      -- Nothing follows an error, on either side.
      obtain ⟨e', he'⟩ := ha.exists_error he
      rw [append_of_error he, append_of_error he']
      exact ha
    | none =>
      rw [append_of_ok he, append_of_ok (ha.error_eq_none he)]
      refine ⟨hb.error, ?_, ?_⟩
      · rw [ha.perValue, hb.perValue]
      · rw [List.map_append, List.map_append, ha.pieces, hb.pieces]

theorem alike_fail (e e' : CompileError) : Alike everywhere (fail e) (fail e') := ⟨rfl, rfl, rfl⟩

theorem alike_bind (everywhere : Bool) (b : Bind Caster Value) :
    Alike everywhere (bind b) (bind b.unsign) := by
  refine ⟨rfl, rfl, ?_⟩
  simp only [bind, List.map_cons, List.map_nil, Piece.unsign, Bind.unsign_unsign]

theorem alike_binds (everywhere : Bool) (bs : List (Bind Caster Value)) :
    Alike everywhere (binds bs) (binds (bs.map Bind.unsign)) := by
  rw [binds, binds, List.map_map]
  exact (alike_congruence everywhere).joined ", " bs fun b _ => alike_bind everywhere b

/-! ## Leaves -/

/-- Casts that end alike give literals that differ in their texts at most. -/
theorem alike_literal {a b : Except CastError Value} (h : Outcome.of a = Outcome.of b) :
    Alike true (literal a) (literal b) := by
  cases a with
  | ok v =>
    obtain ⟨w, rfl⟩ := Outcome.of_eq_taken.mp h.symm
    exact ⟨rfl, rfl, rfl⟩
  | error e =>
    cases b with
    | ok w =>
      obtain ⟨v, hv⟩ := Outcome.of_eq_taken.mp h
      cases hv
    | error e' => exact alike_fail _ _

/-- A literal for a column that does not show the signs of zeros is the same whatever they are. -/
theorem alike_literal_of_unseen {c : Caster} (hc : c.showsZeros = false) (v : Value) :
    Alike everywhere (literal (c.serialize v)) (literal (c.serialize v.unsign)) := by
  cases h : c.serialize v with
  | ok w =>
    rw [Caster.serialize_unsign_of_unseen hc h]
    exact (alike_congruence everywhere).refl _
  | error e =>
    have houtcome := c.outcome_serialize_unsign v
    cases h' : c.serialize v.unsign with
    | ok w =>
      rw [h, h'] at houtcome
      obtain ⟨u, hu⟩ := Outcome.of_eq_taken.mp houtcome.symm
      cases hu
    | error e' => exact alike_fail _ _

theorem alike_perValueInList (d : Dialect) (m : InList Caster Value) :
    Alike everywhere (Render.perValueInList d m)
      (Render.perValueInList d { m with values := m.values.map Value.unsign }) := by
  have t := alike_congruence everywhere
  refine t.append (t.refl _) (t.append (t.refl _) (t.before _ (t.after _ ?_)))
  unfold InList.candidates
  rcases InList.filterCandidates_unsign m.column.type m.values with
    ⟨e, e', he, he'⟩ | ⟨vs, hvs, hvs'⟩
  · simp only [he, he']
    exact alike_fail _ _
  · simp only [hvs, hvs']
    cases vs with
    | nil => exact t.refl _
    | cons v vs =>
      let bound (v : Value) : Bind Caster Value :=
        { name := m.column.name, value := v, type := m.column.type }
      have hunsign : ((v :: vs).map bound).map Bind.unsign =
          ((v :: vs).map Value.unsign).map bound := by
        rw [List.map_map, List.map_map]
        rfl
      have hbinds := alike_binds everywhere ((v :: vs).map bound)
      rw [hunsign] at hbinds
      exact hbinds

theorem alike_arrayInList (d : Dialect) (m : InList Caster Value) :
    Alike everywhere (Render.arrayInList d m)
      (Render.arrayInList d { m with values := m.values.map Value.unsign }) := by
  have t := alike_congruence everywhere
  refine t.append (t.refl _) (t.before _ (t.after _ ?_))
  unfold InList.candidates
  rcases InList.filterCandidates_unsign m.column.type m.values with
    ⟨e, e', he, he'⟩ | ⟨vs, hvs, hvs'⟩
  · simp only [he, he']
    exact alike_fail _ _
  · simp only [hvs, hvs']
    have hbind := alike_bind everywhere
      { name := m.column.name, value := .array vs, type := .array m.column.type ',' }
    rwa [Bind.unsign, Value.unsign, Value.unsignItems_eq_map] at hbind

theorem alike_unsignLeaf (everywhere : Bool) (d : Dialect) (n : Query) :
    Alike everywhere (n.render d) ((n.unsignLeaf everywhere).render d) := by
  have t := alike_congruence everywhere
  cases n with
  | quoted v =>
    cases everywhere with
    | false => exact t.refl _
    | true => exact ⟨rfl, rfl, rfl⟩
  | casted c v =>
    show Alike everywhere (literal (c.type.serialize v)) (literal (c.type.serialize
      (if everywhere || !c.type.showsZeros then v.unsign else v)))
    cases everywhere with
    | true => exact alike_literal (c.type.outcome_serialize_unsign v).symm
    | false =>
      cases hc : c.type.showsZeros with
      | true => exact t.refl _
      | false => exact alike_literal_of_unseen hc v
  | bind b => exact alike_bind everywhere b
  | inList m =>
    show Alike everywhere (Render.inList d.grammar d m)
      (Render.inList d.grammar d { m with values := m.values.map Value.unsign })
    rw [Render.inList_eq, Render.inList_eq]
    have hper : InList.isPerValue d.grammar { m with values := m.values.map Value.unsign } =
        m.isPerValue d.grammar := rfl
    rw [hper]
    split
    · exact alike_perValueInList d m
    · exact alike_arrayInList d m
  | _ => exact t.refl _

end Rendering

/-! ## Trees -/

namespace Node

theorem look_unsignLeaf (everywhere : Bool) (n : Query) :
    (n.unsignLeaf everywhere).look = n.look := by
  cases n with
  | quoted v =>
    simp only [unsignLeaf, look]
    split <;> simp only [v.isNull_unsign]
  | casted c v =>
    simp only [unsignLeaf, look]
    split <;> simp only [v.isNull_unsign]
  | _ => rfl

/-- Trees of one essence are rendered alike, apart from the signs of zeros. -/
theorem alike_of_essence {a b : Query} (d : Dialect) (ha : a.mapLeaves rename = a)
    (hb : b.mapLeaves rename = b) (h : a.mapLeaves essence = b.mapLeaves essence) :
    Rendering.Alike true (a.render d) (b.render d) := by
  have hessence (n : Query) (hn : n.mapLeaves rename = n) :
      Rendering.Alike true (n.render d) ((n.mapLeaves essence).render d) := by
    have hboth := (Rendering.alike_congruence true).twoMapLeaves (f := rename) (g := essence)
      (fun c => look_unsignLeaf true (rename c))
      (fun c => Rendering.alike_unsignLeaf true d (rename c)) n
    rwa [hn] at hboth
  have hb := hessence b hb
  rw [← h] at hb
  exact (hessence a ha).trans hb.symm

/-- Trees that differ only in signs of zeros that no statement shows are rendered alike. -/
theorem alike_of_unsignUnseen {a b : Query} (d : Dialect) (h : a.unsignUnseen = b.unsignUnseen) :
    Rendering.Alike false (a.render d) (b.render d) := by
  have hunseen (n : Query) : Rendering.Alike false (n.render d) (n.unsignUnseen.render d) := by
    rw [← render_prune]
    exact (Rendering.alike_congruence false).mapLeaves (look_unsignLeaf false)
      (Rendering.alike_unsignLeaf false d) n.prune
  have hb := hunseen b
  rw [← h] at hb
  exact (hunseen a).trans hb.symm

end Node

/-! ## Binds -/

theorem Piece.binds_map_unsign (everywhere : Bool) (ps : List Piece) :
    binds (ps.map (unsign everywhere)) = (binds ps).map Bind.unsign := by
  induction ps with
  | nil => rfl
  | cons p ps ih => cases p <;> simp [unsign, binds, ih]

theorem Piece.weave_map_unsign (fills : List String) (ps : List Piece) :
    weave fills (ps.map (unsign false)) = weave fills ps := by
  induction ps generalizing fills with
  | nil => rfl
  | cons p ps ih =>
    cases p with
    | text s => simp [unsign, weave, ih]
    | bind b => cases fills <;> simp [unsign, weave, ih]

/-- Renderings alike have binds that differ in nothing but the signs of zeros. -/
theorem Rendering.Alike.binds {everywhere : Bool} {r r' : Rendering} (h : Alike everywhere r r') :
    List.Forall₂ (fun x y => x.unsign = y.unsign) (Piece.binds r.pieces)
      (Piece.binds r'.pieces) := by
  have hunsign := congrArg Piece.binds h.pieces
  rw [Piece.binds_map_unsign, Piece.binds_map_unsign] at hunsign
  rwa [← List.forall₂_eq_eq_eq, List.forall₂_map_left_iff, List.forall₂_map_right_iff] at hunsign

namespace Bind

variable {x y : Bind Caster Value} {xs ys : List (Bind Caster Value)}

theorem unsign_eq_iff :
    x.unsign = y.unsign ↔ x.name = y.name ∧ x.value.unsign = y.value.unsign ∧ x.type = y.type := by
  rw [unsign, unsign, Bind.mk.injEq]

theorem same_of_unsign (htame : x.value.same x.value = true) (h : x.unsign = y.unsign) :
    x.same y = true := by
  obtain ⟨hname, hvalue, htype⟩ := unsign_eq_iff.mp h
  simp only [Bind.same, hname, (Value.same_iff _ _).mpr ⟨htame, hvalue⟩, htype, BEq.rfl,
    Bool.and_self]

/-- What is bound to one column is taken or refused whatever the signs of its zeros. They show in
what the column receives only if that is a text, and otherwise at most as the sign of a zero. -/
theorem serialize_alike (h : x.unsign = y.unsign) :
    (∃ e f, x.serialize = .error e ∧ y.serialize = .error f) ∨
      ∃ v w, x.serialize = .ok v ∧ y.serialize = .ok w ∧
        ((x.type.writesZeros = true → x.value = y.value) → v.unsign = w.unsign) := by
  obtain ⟨-, hvalue, htype⟩ := unsign_eq_iff.mp h
  have hsame : x.type.serialize x.value.unsign = y.type.serialize y.value.unsign := by
    rw [hvalue, htype]
  have houtcome : Outcome.of x.serialize = Outcome.of y.serialize := by
    rw [Bind.serialize, Bind.serialize, ← Caster.outcome_serialize_unsign, hsame,
      Caster.outcome_serialize_unsign]
  cases hx : x.serialize with
  | error e =>
    cases hy : y.serialize with
    | error f => exact .inl ⟨e, f, rfl, rfl⟩
    | ok w =>
      rw [hy] at houtcome
      obtain ⟨v, hv⟩ := Outcome.of_eq_taken.mp houtcome
      rw [hx] at hv
      cases hv
  | ok v =>
    rw [hx] at houtcome
    obtain ⟨w, hy⟩ := Outcome.of_eq_taken.mp houtcome.symm
    refine .inr ⟨v, w, rfl, hy, fun htext => ?_⟩
    cases hc : x.type.writesZeros with
    | true =>
      rw [Bind.serialize, htext hc, htype, ← Bind.serialize, hy] at hx
      exact congrArg Value.unsign (Except.ok.inj hx).symm
    | false =>
      obtain ⟨u, hu, huv⟩ := Caster.serialize_unsign hc hx
      obtain ⟨u', hu', huw⟩ := Caster.serialize_unsign (htype ▸ hc) hy
      rw [hsame, hu'] at hu
      rw [← huv, ← huw, Except.ok.inj hu]

theorem mapM_serialize_alike (h : List.Forall₂ (fun x y => x.unsign = y.unsign) xs ys) :
    (∃ e f, xs.mapM (·.serialize) = .error e ∧ ys.mapM (·.serialize) = .error f) ∨
      ∃ vs ws, xs.mapM (·.serialize) = .ok vs ∧ ys.mapM (·.serialize) = .ok ws ∧
        (List.Forall₂ (fun x y => x.type.writesZeros = true → x.value = y.value) xs ys →
          vs.map Value.unsign = ws.map Value.unsign) := by
  induction h with
  | nil => exact .inr ⟨[], [], rfl, rfl, fun _ => rfl⟩
  | @cons x y xs ys hxy _ ih =>
    rcases serialize_alike hxy with ⟨e, f, hx, hy⟩ | ⟨v, w, hx, hy, hvw⟩
    · exact .inl ⟨e, f, mapM_cons_eq_error.mpr (.inl hx), mapM_cons_eq_error.mpr (.inl hy)⟩
    · rcases ih with ⟨e, f, hxs, hys⟩ | ⟨vs, ws, hxs, hys, hvws⟩
      · exact .inl ⟨e, f, mapM_cons_eq_error.mpr (.inr ⟨v, hx, hxs⟩),
          mapM_cons_eq_error.mpr (.inr ⟨w, hy, hys⟩)⟩
      · refine .inr ⟨v :: vs, w :: ws, mapM_cons_eq_ok.mpr ⟨v, vs, hx, hxs, rfl⟩,
          mapM_cons_eq_ok.mpr ⟨w, ws, hy, hys, rfl⟩, fun htext => ?_⟩
        obtain ⟨hhead, htail⟩ := List.forall₂_cons.mp htext
        rw [List.map_cons, List.map_cons, hvw hhead, hvws htail]

end Bind

theorem InList.filterCandidates_sublist {c : Caster} {vs ws : List Value}
    (h : filterCandidates c vs = .ok ws) : ws.Sublist vs := by
  induction vs generalizing ws with
  | nil =>
    cases h
    exact .slnil
  | cons v vs ih =>
    obtain ⟨keep, rest, -, hrest, rfl⟩ := filterCandidates_cons_eq_ok.mp h
    cases keep with
    | false => exact (ih hrest).cons v
    | true => exact (ih hrest).cons_cons v

namespace Node

theorem renderedNodes_subset (n : Query) : n.renderedNodes ⊆ n.nodes := by
  induction n using children_induction with
  | step n ih =>
    intro x hx
    rw [renderedNodes_eq, List.mem_cons] at hx
    rcases hx with rfl | hx
    · exact mem_nodes_self x
    · obtain ⟨c, hc, hxc⟩ := List.mem_flatMap.mp hx
      have hchild := renderedChildren_subset n hc
      exact mem_nodes_of_child hchild (ih c hchild hxc)

/-- What a node binds of its own has no NaN in it if the values that it holds have none. -/
theorem tame_of_mem_ownBinds {g : Grammar} {n : Query} (h : n.ownTame) {x : Bind Caster Value}
    (hx : x ∈ n.ownBinds g) : x.value.same x.value = true := by
  cases n with
  | bind b =>
    obtain rfl := List.mem_singleton.mp hx
    exact h
  | inList m =>
    have hcandidates {vs : List Value} (hvs : m.candidates = .ok vs) :
        ∀ v ∈ vs, v.same v = true := fun v hv =>
      h v ((InList.filterCandidates_sublist hvs).mem hv)
    rw [ownBinds] at hx
    cases hm : m.candidates with
    | error e => simp [InList.valueBinds, InList.arrayBinds, hm] at hx
    | ok vs =>
      split at hx
      · simp only [InList.valueBinds, hm, List.mem_map] at hx
        obtain ⟨v, hv, rfl⟩ := hx
        exact hcandidates hm v hv
      · simp only [InList.arrayBinds, hm, List.mem_singleton] at hx
        subst hx
        rw [Value.same]
        exact Value.sameItems_self.mpr (hcandidates hm)
  | _ => cases hx

/-- A statement binds no NaN if its tree holds none. -/
theorem tame_of_mem_binds {d : Dialect} {n : Query} (h : n.IsTame)
    (herror : (n.render d).error = none) :
    ∀ x ∈ Piece.binds (n.render d).pieces, x.value.same x.value = true := by
  intro x hx
  rw [(Rendering.hasBinds_tally d).render n herror] at hx
  obtain ⟨c, hc, hxc⟩ := mem_gatherVisited.mp hx
  exact tame_of_mem_ownBinds (h c (renderedNodes_subset n hc)) hxc

end Node

/-- Statements with the same text, equal binds and the same mark are equal. -/
theorem Statement.same_of_binds {s t : Statement} (hsql : s.sql = t.sql)
    (hprep : s.preparable = t.preparable)
    (hbinds : List.Forall₂ (fun x y => x.same y = true) s.binds t.binds) : s.same t = true := by
  obtain ⟨hlength, hzip⟩ := List.forall₂_iff_zip.mp hbinds
  simp only [same, hsql, hprep, hlength, BEq.rfl, Bool.true_and, List.all_eq_true]
  exact fun p hp => hzip hp

/-! ## The law -/

/-- Equal trees that have been read compile or fail together. Their statements may be prepared alike
and have equal binds, and the statements are equal if the trees differ in no sign of a zero that
shows. The values that the columns receive can be given for both or for neither. They are the same
but for the signs of zeros if whatever is received as a text is bound with the same signs. -/
theorem Query.equal_trees_compile_alike (d : Dialect) {text other : String} {a b : Query}
    (ha : Query.read .postgres text = .ok a) (hb : Query.read .postgres other = .ok b)
    (hsame : a.same b = true) :
    (∃ e f, a.compile d = .error e ∧ b.compile d = .error f) ∨
    ∃ s t, a.compile d = .ok s ∧ b.compile d = .ok t ∧ s.preparable = t.preparable ∧
      List.Forall₂ (fun x y => x.same y = true) s.binds t.binds ∧
      (a.unsignUnseen = b.unsignUnseen → s.same t = true) ∧
      ((∃ e f, s.values = .error e ∧ t.values = .error f) ∨
        ∃ vs ws, s.values = .ok vs ∧ t.values = .ok ws ∧
          (List.Forall₂ (fun x y => x.type.writesZeros = true → x.value = y.value)
              s.binds t.binds →
            vs.map Value.unsign = ws.map Value.unsign)) := by
  obtain ⟨hessence, htame⟩ := Node.matches_of_same hsame
  have halike := Node.alike_of_essence d (mapLeaves_rename_of_read ha)
    (mapLeaves_rename_of_read hb) hessence
  cases hea : (a.render d).error with
  | some e =>
    obtain ⟨f, heb⟩ := halike.exists_error hea
    exact .inl ⟨e, f, Node.compile_eq_error.mpr hea, Node.compile_eq_error.mpr heb⟩
  | none =>
    have heb := halike.error_eq_none hea
    have hpairs := halike.binds
    have hbinds : List.Forall₂ (fun x y => x.same y = true)
        (Piece.binds (a.render d).pieces) (Piece.binds (b.render d).pieces) :=
      ((List.forall₂_and_left _ _).mpr ⟨Node.tame_of_mem_binds htame hea, hpairs⟩).imp
        fun x y hxy => Bind.same_of_unsign hxy.1 hxy.2
    have hprep : (!(a.render d).perValue) = !(b.render d).perValue := by rw [halike.perValue]
    refine .inr ⟨_, _, Node.compile_eq_ok.mpr ⟨hea, rfl⟩, Node.compile_eq_ok.mpr ⟨heb, rfl⟩, hprep,
      hbinds, fun hunseen => ?_, Bind.mapM_serialize_alike hpairs⟩
    have hpieces := (Node.alike_of_unsignUnseen d hunseen).pieces
    refine Statement.same_of_binds ?_ hprep hbinds
    show Piece.weave _ (a.render d).pieces = Piece.weave _ (b.render d).pieces
    rw [hbinds.length_eq, ← Piece.weave_map_unsign _ (a.render d).pieces, hpieces,
      Piece.weave_map_unsign]

/-! ## Zeros of both signs -/

/-- The zero of a sign. -/
def Double.zero (negative : Bool) : Double := ⟨if negative then 0x8000000000000000 else 0⟩

theorem Json.prints_zero (negative : Bool) : (number (.double (.zero negative))).Prints := by
  have hnumber :
      SpellsNumber (.double (.zero negative)) negative ⟨['0'], true, ['0'], none⟩ 'e' := by
    cases negative <;> exact ⟨rfl, rfl, nofun, .inl rfl, rfl⟩
  have hchars : (if negative then ['-'] else []) ++ numeralChars 'e' ⟨['0'], true, ['0'], none⟩ =
      (Number.double (.zero negative)).chars := by
    cases negative <;> decide
  have hspells := Token.Spells.number hnumber
  rw [hchars] at hspells
  exact prints_number hspells

/-- A zero for a column of floats that is bound, one for a column of integers as a literal, and one
in an array that is bound, with names of the types of these columns. -/
def zerosDocument (negative : Bool) (float int ints : String) : Document :=
  .and [.bind ⟨"x", .number (.double (.zero negative)), float⟩,
    .casted ⟨none, "n", int⟩ (.number (.double (.zero negative))),
    .bind ⟨"a", .array [.number (.double (.zero negative))], ints⟩]

def zerosJson (negative : Bool) (float int ints : String) : Json :=
  let zero : Json := .number (.double (.zero negative))
  .array [.string "and", .array [
    .array [.string "bind", .array [.null, .string "x", .string float], zero],
    .array [.string "casted", .array [.null, .string "n", .string int], zero],
    .array [.string "bind", .array [.null, .string "a", .string ints], .array [zero]]]]

theorem isShown_zerosDocument (negative : Bool) (float int ints : String) :
    Document.IsShown (zerosDocument negative float int ints)
      (zerosJson negative float int ints) := by
  have hcolumn (name type : String) : Document.IsRecord (Document.partsOfColumn none name type)
      (.array [.null, .string name, .string type]) :=
    .array (.cons rfl (.cons rfl (.cons rfl (.nil nofun))))
  have hbind (name type : String) (value : Json) (hvalue : value.canonical = value) :
      Document.IsShown (.bind ⟨name, value, type⟩)
        (.array [.string "bind", .array [.null, .string name, .string type], value]) :=
    .array (.cons rfl (.cons ⟨none, hcolumn name type⟩ (.cons hvalue (.nil nofun))))
  have hcasted (value : Json) (hvalue : value.canonical = value) :
      Document.IsShown (.casted ⟨none, "n", int⟩ value)
        (.array [.string "casted", .array [.null, .string "n", .string int], value]) :=
    .array (.cons rfl (.cons (hcolumn "n" int) (.cons hvalue (.nil nofun))))
  have hoperands : Document.AreShown [.bind _, .casted _ _, .bind _] [_, _, _] :=
    ⟨hbind "x" float (.number (.double (.zero negative))) rfl,
      hcasted (.number (.double (.zero negative))) rfl,
      hbind "a" ints (.array [.number (.double (.zero negative))]) rfl, trivial⟩
  exact .array (.cons rfl (.cons ⟨_, hoperands, rfl⟩ (.nil nofun)))

theorem isWritten_zerosDocument (negative : Bool) (float int ints : String) :
    (zerosDocument negative float int ints).IsWritten
      (zerosJson negative float int ints).compact := by
  have hzero := Json.prints_zero negative
  have hthree {a b c : Json} (ha : a.Prints) (hb : b.Prints) (hc : c.Prints) :
      (Json.array [a, b, c]).Prints := by
    refine Json.prints_array fun j hj => ?_
    simp only [List.mem_cons, List.not_mem_nil, or_false] at hj
    rcases hj with rfl | rfl | rfl
    · exact ha
    · exact hb
    · exact hc
  have hnode {value : Json} (kind name type : String) (hvalue : value.Prints) :
      (Json.array [.string kind, .array [.null, .string name, .string type], value]).Prints :=
    hthree (Json.prints_string _)
      (hthree Json.prints_null (Json.prints_string _) (Json.prints_string _)) hvalue
  have hzeros : (Json.array [.number (.double (.zero negative))]).Prints :=
    Json.prints_array (List.forall_mem_cons.mpr ⟨hzero, nofun⟩)
  have hoperands := hthree (hnode "bind" "x" float hzero) (hnode "casted" "n" int hzero)
    (hnode "bind" "a" ints hzeros)
  refine ⟨_, isShown_zerosDocument negative float int ints, Nat.le_of_ble_eq_true rfl,
    Json.isText_of_prints (Json.prints_array ?_)⟩
  exact List.forall_mem_cons.mpr ⟨Json.prints_string _, List.forall_mem_cons.mpr ⟨hoperands, nofun⟩⟩

/-- The query of the document. -/
def zerosQuery (negative : Bool) : Query :=
  .and [.bind ⟨"x", .float (.zero negative), .float⟩,
    .casted ⟨none, "n", .ofBytes 4⟩ (.float (.zero negative)),
    .bind ⟨"a", .array [.float (.zero negative)], .array (.ofBytes 4) ','⟩]

def zerosStatement (negative : Bool) : Statement :=
  { sql := "$1 AND 0 AND $2"
    binds := [⟨"x", .float (.zero negative), .float⟩,
      ⟨"a", .array [.float (.zero negative)], .array (.ofBytes 4) ','⟩]
    preparable := true }

theorem serialize_zero (negative : Bool) :
    (Caster.ofBytes 4).serialize (.float (.zero negative)) = .ok (.integer 0) := by
  have hzero : (Double.zero negative).isZero = true := by cases negative <;> decide
  show Width.serialize _ (.float (.zero negative)) = _
  rw [Width.serialize, Double.toInt?_of_isZero hzero]
  rfl

theorem compile_zerosQuery (negative : Bool) :
    (zerosQuery negative).compile .postgres = .ok (zerosStatement negative) := by
  have hrender : (zerosQuery negative).render .postgres =
      ⟨[.bind ⟨"x", .float (.zero negative), .float⟩, .text " AND ", .text "0", .text " AND ",
        .bind ⟨"a", .array [.float (.zero negative)], .array (.ofBytes 4) ','⟩], false, none⟩ := by
    show Rendering.joined " AND " [.bind ⟨"x", .float (.zero negative), .float⟩,
      .literal ((Caster.ofBytes 4).serialize (.float (.zero negative))),
      .bind ⟨"a", .array [.float (.zero negative)], .array (.ofBytes 4) ','⟩] = _
    rw [serialize_zero]
    rfl
  rw [Node.compile_eq, hrender]
  rfl

theorem values_zerosStatement (negative : Bool) :
    (zerosStatement negative).values = .ok [.float (.zero negative), .text "\x7b0\x7d"] := by
  have hitems : Caster.castItems (Caster.ofBytes 4).serialize [.float (.zero negative)] =
      .ok [.integer 0] :=
    Caster.castItems_cons_eq_ok.mpr ⟨_, _, serialize_zero negative, rfl, rfl⟩
  have harray : (Caster.array (.ofBytes 4) ',').serialize (.array [.float (.zero negative)]) =
      .ok (.text "\x7b0\x7d") := by
    rw [Caster.serialize, Caster.serializeArray, hitems]
    rfl
  exact mapM_cons_eq_ok.mpr ⟨_, _, rfl, mapM_cons_eq_ok.mpr ⟨_, _, harray, rfl, rfl⟩, rfl⟩

/-- Two documents that are equal trees with other signs and other names of the types. Their
statements are equal, the column of floats receives zeros of both signs, and the column of arrays
receives the same. -/
theorem Query.equal_trees_compile_alike_with_zeros_of_both_signs :
    let a := zerosQuery false
    let b := zerosQuery true
    Query.read .postgres ("[\"and\",[[\"bind\",[null,\"x\",\"float\"],0.0]," ++
      "[\"casted\",[null,\"n\",\"int\"],0.0],[\"bind\",[null,\"a\",\"int[]\"],[0.0]]]]") = .ok a ∧
      Query.read .postgres ("[\"and\",[[\"bind\",[null,\"x\",\"float8\"],-0.0]," ++
        "[\"casted\",[null,\"n\",\"integer\"],-0.0]," ++
        "[\"bind\",[null,\"a\",\"integer[]\"],[-0.0]]]]") = .ok b ∧
      a.same b = true ∧ a.unsignUnseen = b.unsignUnseen ∧
      ∃ s t vs ws, a.compile .postgres = .ok s ∧ b.compile .postgres = .ok t ∧
        s.same t = true ∧ s.values = .ok vs ∧ t.values = .ok ws ∧
        vs.map Value.unsign = ws.map Value.unsign := by
  intro a b
  have ha : Query.read .postgres (zerosJson false "float" "int" "int[]").compact = .ok a := by
    rw [Document.read_of_isWritten (isWritten_zerosDocument false "float" "int" "int[]")]
    rfl
  have hb : Query.read .postgres (zerosJson true "float8" "integer" "integer[]").compact =
      .ok b := by
    rw [Document.read_of_isWritten (isWritten_zerosDocument true "float8" "integer" "integer[]")]
    rfl
  have hsame : a.same b = true := by
    simp only [a, b, zerosQuery, Node.same, sameNodes, Bind.same, Column.same, Value.same,
      Value.sameItems]
    rfl
  have hunseen : a.unsignUnseen = b.unsignUnseen := rfl
  refine ⟨ha, hb, hsame, hunseen, ?_⟩
  have hs := compile_zerosQuery false
  have ht := compile_zerosQuery true
  rcases equal_trees_compile_alike .postgres ha hb hsame with
    ⟨e, f, he, -⟩ | ⟨s, t, hs', ht', -, -, hequal, hvalues⟩
  · rw [hs] at he
    cases he
  · obtain rfl := Except.ok.inj (hs.symm.trans hs')
    obtain rfl := Except.ok.inj (ht.symm.trans ht')
    rcases hvalues with ⟨e, f, he, -⟩ | ⟨vs, ws, hvs, hws, hreceived⟩
    · rw [values_zerosStatement] at he
      cases he
    · have hfloat : Caster.float.writesZeros = true →
          Value.float (.zero false) = .float (.zero true) := Bool.noConfusion
      have harray : (Caster.array (.ofBytes 4) ',').writesZeros = true →
          Value.array [.float (.zero false)] = .array [.float (.zero true)] := Bool.noConfusion
      exact ⟨_, _, vs, ws, hs, ht, hequal hunseen, hvs, hws,
        hreceived (.cons hfloat (.cons harray .nil))⟩

theorem isShown_quoted (negative : Bool) :
    Document.IsShown (.quoted (.number (.double (.zero negative))))
      (.object [("node", .string "quoted"), ("value", .number (.double (.zero negative)))]) := by
  have hvalue : (Json.number (.double (.zero negative))).canonical =
      .number (.double (.zero negative)) := rfl
  have hothers : ∀ field ∈ ([] : List (String × Json)), field.1 ∉ ["node", "value"] := by simp
  exact .object (.shown rfl (.shown hvalue .nil)) hothers (.refl _)

/-- The document of a literal zero reads as the literal. -/
theorem read_quoted_zero (negative : Bool) :
    Query.read .postgres (Json.object [("node", .string "quoted"),
      ("value", .number (.double (.zero negative)))]).compact =
        .ok (.quoted (.float (.zero negative))) := by
  have hprints : (Json.object [("node", .string "quoted"),
      ("value", .number (.double (.zero negative)))]).Prints := by
    refine Json.prints_object (List.forall_mem_cons.mpr ⟨Json.prints_string "quoted", ?_⟩)
    exact List.forall_mem_cons.mpr ⟨Json.prints_zero negative, by simp⟩
  exact Document.read_of_isWritten ⟨_, isShown_quoted negative, Nat.le_of_ble_eq_true rfl,
    Json.isText_of_prints hprints⟩ .postgres

/-- Equal trees need not compile to equal statements: a literal shows the sign of a zero. -/
theorem Query.equal_literals_show_the_sign_of_a_zero :
    ∃ a b s t, Query.read .postgres "\x7b\"node\":\"quoted\",\"value\":0.0\x7d" = .ok a ∧
      Query.read .postgres "\x7b\"node\":\"quoted\",\"value\":-0.0\x7d" = .ok b ∧
      a.same b = true ∧
      a.compile .generic = .ok s ∧ b.compile .generic = .ok t ∧ s.sql = "0" ∧ t.sql = "-0" ∧
      s.same t = false := by
  refine ⟨.quoted (.float (.zero false)), .quoted (.float (.zero true)), ⟨"0", [], true⟩,
    ⟨"-0", [], true⟩, read_quoted_zero false, read_quoted_zero true, ?_, rfl, rfl, rfl, rfl, rfl⟩
  simp only [Node.same, Value.same]
  rfl

end SqlTree
