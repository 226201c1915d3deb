-- The texts of JSON values: the tokens of a value with any white space among them. A text of a
-- value reads as the value, if not too many containers are open at a time.
import SqlTree.Json.Reader
import SqlTree.Proofs.JsonTokens

namespace SqlTree.Json

/-! ## Tokens of values -/

mutual
/-- The tokens of a value. -/
def tokens : Json → List Token
  | null => [.null]
  | bool b => [.bool b]
  | number n => [.number n]
  | string s => [.string s]
  | array items => .openArray :: (itemTokens items ++ [.closeArray])
  | object fields => .openObject :: (fieldTokens fields ++ [.closeObject])

def itemTokens : List Json → List Token
  | [] => []
  | [j] => tokens j
  | j :: k :: rest => tokens j ++ .comma :: itemTokens (k :: rest)

/-- The tokens of keys and values, with commas between them. -/
def fieldTokens : List (String × Json) → List Token
  | [] => []
  | [(key, j)] => .string key :: .colon :: tokens j
  | (key, j) :: field :: rest =>
    .string key :: .colon :: (tokens j ++ .comma :: fieldTokens (field :: rest))
end

mutual
/-- How many containers lie in each other at the deepest place. -/
def depth : Json → Nat
  | array items => itemsDepth items + 1
  | object fields => fieldsDepth fields + 1
  | _ => 0

def itemsDepth : List Json → Nat
  | [] => 0
  | j :: js => max (depth j) (itemsDepth js)

def fieldsDepth : List (String × Json) → Nat
  | [] => 0
  | (_, j) :: rest => max (depth j) (fieldsDepth rest)
end

/-- The texts of a value. -/
def IsText (j : Json) (cs : List Char) : Prop := IsLayout j.tokens cs

/-! ## Tokens that touch -/

theorem isChain_cons_of_not_isSolid {t : Token} {ts : List Token} (ht : t.isSolid = false)
    (hts : ts.IsChain Token.MayTouch) : (t :: ts).IsChain Token.MayTouch :=
  List.isChain_cons.mpr ⟨fun _ _ => .inl ht, hts⟩

theorem isChain_cons_of_head {t : Token} {ts : List Token}
    (hhead : ∀ u ∈ ts.head?, u.isSolid = false) (hts : ts.IsChain Token.MayTouch) :
    (t :: ts).IsChain Token.MayTouch :=
  List.isChain_cons.mpr ⟨fun u hu => .inr (hhead u hu), hts⟩

mutual
/-- No two words or numerals touch in a value, nor with what follows it if that begins with
neither. -/
theorem isChain_tokens (j : Json) {rest : List Token} (hhead : ∀ t ∈ rest.head?, t.isSolid = false)
    (hrest : rest.IsChain Token.MayTouch) : (j.tokens ++ rest).IsChain Token.MayTouch := by
  cases j with
  | null | bool b | number n | string s => exact isChain_cons_of_head hhead hrest
  | array items =>
    rw [tokens, List.cons_append, List.append_assoc]
    refine isChain_cons_of_not_isSolid rfl (isChain_itemTokens items ?_ ?_)
    · simp [Token.isSolid]
    · exact isChain_cons_of_not_isSolid rfl hrest
  | object fields =>
    rw [tokens, List.cons_append, List.append_assoc]
    refine isChain_cons_of_not_isSolid rfl (isChain_fieldTokens fields ?_ ?_)
    · simp [Token.isSolid]
    · exact isChain_cons_of_not_isSolid rfl hrest

theorem isChain_itemTokens (items : List Json) {rest : List Token}
    (hhead : ∀ t ∈ rest.head?, t.isSolid = false) (hrest : rest.IsChain Token.MayTouch) :
    (itemTokens items ++ rest).IsChain Token.MayTouch := by
  match items with
  | [] => exact hrest
  | [j] => exact isChain_tokens j hhead hrest
  | j :: k :: more =>
    rw [itemTokens, List.append_assoc]
    refine isChain_tokens j (by simp [Token.isSolid]) ?_
    exact isChain_cons_of_not_isSolid rfl (isChain_itemTokens (k :: more) hhead hrest)

theorem isChain_fieldTokens (fields : List (String × Json)) {rest : List Token}
    (hhead : ∀ t ∈ rest.head?, t.isSolid = false) (hrest : rest.IsChain Token.MayTouch) :
    (fieldTokens fields ++ rest).IsChain Token.MayTouch := by
  match fields with
  | [] => exact hrest
  | [(key, j)] =>
    refine isChain_cons_of_not_isSolid rfl (isChain_cons_of_not_isSolid rfl ?_)
    exact isChain_tokens j hhead hrest
  | (key, j) :: field :: more =>
    rw [fieldTokens, List.cons_append, List.cons_append, List.append_assoc]
    refine isChain_cons_of_not_isSolid rfl (isChain_cons_of_not_isSolid rfl ?_)
    refine isChain_tokens j (by simp [Token.isSolid]) ?_
    exact isChain_cons_of_not_isSolid rfl (isChain_fieldTokens (field :: more) hhead hrest)
end

/-! ## Values read back -/

/-- An item may come first in an array as it may come later. -/
theorem foldlM_first (j : Json) (js : List Json) (stack : List Frame) (ts : List Token) :
    (itemTokens (j :: js) ++ ts).foldlM Parsing.step (.first stack) =
      (itemTokens (j :: js) ++ ts).foldlM Parsing.step (.value (.array [] :: stack)) := by
  cases js <;> cases j <;> rfl

theorem foldlM_firstKey (field : String × Json) (fields : List (String × Json))
    (stack : List Frame) (ts : List Token) :
    (fieldTokens (field :: fields) ++ ts).foldlM Parsing.step (.firstKey stack) =
      (fieldTokens (field :: fields) ++ ts).foldlM Parsing.step (.key [] stack) := by
  cases fields <;> rfl

mutual
/-- The tokens of a value lead from where it must come to where it is complete. -/
theorem foldlM_tokens (stack : List Frame) (ts : List Token) : (j : Json) →
    stack.length + j.depth ≤ maxDepth →
    (j.tokens ++ ts).foldlM Parsing.step (.value stack) = ts.foldlM Parsing.step (.after j stack)
  | .null, _ | .bool _, _ | .number _, _ | .string _, _ => rfl
  | .array items, h => by
    rw [depth] at h
    have hopen : Parsing.step (.value stack) .openArray = some (.first stack) :=
      if_pos (by omega)
    have hitems := fun hne => foldlM_itemTokens [] stack ts items hne (by omega)
    rw [tokens, List.cons_append, List.append_assoc, List.foldlM_cons, hopen]
    match items with
    | [] => rfl
    | j :: js => exact (foldlM_first j js stack _).trans (hitems nofun)
  | .object fields, h => by
    rw [depth] at h
    have hopen : Parsing.step (.value stack) .openObject = some (.firstKey stack) :=
      if_pos (by omega)
    have hfields := fun hne => foldlM_fieldTokens [] stack ts fields hne (by omega)
    rw [tokens, List.cons_append, List.append_assoc, List.foldlM_cons, hopen]
    match fields with
    | [] => rfl
    | field :: rest => exact (foldlM_firstKey field rest stack _).trans (hfields nofun)

/-- The items of an array and its end, after those that are done. -/
theorem foldlM_itemTokens (done : List Json) (stack : List Frame) (ts : List Token) :
    (items : List Json) → items ≠ [] → stack.length + 1 + itemsDepth items ≤ maxDepth →
    (itemTokens items ++ .closeArray :: ts).foldlM Parsing.step (.value (.array done :: stack)) =
      ts.foldlM Parsing.step (.after (.array (done.reverse ++ items)) stack)
  | [], hne, _ => absurd rfl hne
  | [j], _, h => by
    rw [itemsDepth] at h
    rw [itemTokens, foldlM_tokens (.array done :: stack) _ j (by rw [List.length_cons]; omega)]
    simp [Parsing.step]
  | j :: k :: rest, _, h => by
    rw [itemsDepth] at h
    have hrest := foldlM_itemTokens (j :: done) stack ts (k :: rest) nofun (by omega)
    rw [itemTokens, List.append_assoc,
      foldlM_tokens (.array done :: stack) _ j (by rw [List.length_cons]; omega)]
    simpa [Parsing.step] using hrest

/-- The fields of an object and its end, after those that are done. -/
theorem foldlM_fieldTokens (done : List (String × Json)) (stack : List Frame) (ts : List Token) :
    (fields : List (String × Json)) → fields ≠ [] →
    stack.length + 1 + fieldsDepth fields ≤ maxDepth →
    (fieldTokens fields ++ .closeObject :: ts).foldlM Parsing.step (.key done stack) =
      ts.foldlM Parsing.step (.after (.object (done.reverse ++ fields)) stack)
  | [], hne, _ => absurd rfl hne
  | [(key, j)], _, h => by
    rw [fieldsDepth] at h
    have hj := foldlM_tokens (.object done key :: stack) (.closeObject :: ts) j
      (by rw [List.length_cons]; omega)
    rw [fieldTokens]
    refine hj.trans ?_
    simp [Parsing.step]
  | (key, j) :: field :: rest, _, h => by
    rw [fieldsDepth] at h
    have hj := fun ts => foldlM_tokens (.object done key :: stack) ts j
      (by rw [List.length_cons]; omega)
    have hrest := foldlM_fieldTokens ((key, j) :: done) stack ts (field :: rest) nofun (by omega)
    rw [fieldTokens, List.cons_append, List.cons_append, List.append_assoc]
    refine (hj _).trans ?_
    simpa [Parsing.step] using hrest
end

theorem ofTokens?_tokens {j : Json} (h : j.depth ≤ maxDepth) : ofTokens? j.tokens = some j := by
  have hrun := foldlM_tokens [] [] j (by simpa using h)
  rw [List.append_nil] at hrun
  rw [ofTokens?, hrun]
  rfl

/-- Every text of a value reads as the value, if not too many containers are open at a time. -/
theorem read?_of_isText {j : Json} {text : String} (htext : j.IsText text.toList)
    (hdepth : j.depth ≤ maxDepth) : read? text = some j := by
  have hchain : (j.tokens ++ []).IsChain Token.MayTouch := isChain_tokens j (by simp) .nil
  rw [List.append_nil] at hchain
  rw [read?, tokens?_layout htext hchain]
  exact ofTokens?_tokens hdepth

end SqlTree.Json
