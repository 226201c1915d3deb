-- A scan of SQL from left to right. It passes over quoted regions, counts the parentheses outside
-- them, and notes the placeholders that it meets there.
import SqlTree.Dialect

namespace SqlTree

/-! ## The scan -/

/-- The quotes that a region can stand in. -/
inductive Quote where
  | single
  | double
deriving DecidableEq, Repr

def Quote.char : Quote → Char
  | single => '\''
  | double => '"'

/-- Where a scan stands. -/
inductive Place where
  | outside
  /-- In a region that this quote has opened. -/
  | inside (quote : Quote)
  /-- On a quote in its region: the region is over, unless the same quote follows at once. -/
  | onQuote (quote : Quote)
  /-- After a dollar sign and these digits. -/
  | number (digits : List Char)
deriving DecidableEq, Repr

/-- A scan on its way. -/
structure Scan where
  place : Place
  /-- How many parentheses are open. -/
  depth : Nat
  /-- The placeholders so far, in order. -/
  met : List String
deriving DecidableEq, Repr

namespace Scan

/-- A scan that stands outside. -/
def clear (depth : Nat) (met : List String) : Scan := ⟨.outside, depth, met⟩

/-- The placeholder of a dollar sign and digits. -/
def numbered (digits : List Char) : String := String.ofList ('$' :: digits)

/-- A character outside quoted regions. A parenthesis that closes none is refused. -/
def stepOutside (depth : Nat) (met : List String) (c : Char) : Option Scan :=
  if c == '\'' then some ⟨.inside .single, depth, met⟩
  else if c == '"' then some ⟨.inside .double, depth, met⟩
  else if c == '(' then some (clear (depth + 1) met)
  else if c == ')' then
    match depth with
    | 0 => none
    | depth + 1 => some (clear depth met)
  else if c == '?' then some (clear depth (met ++ ["?"]))
  else if c == '$' then some ⟨.number [], depth, met⟩
  else some (clear depth met)

/-- One character further. -/
def step : Scan → Char → Option Scan
  | ⟨.outside, depth, met⟩, c => stepOutside depth met c
  | ⟨.inside q, depth, met⟩, c => some ⟨if c == q.char then .onQuote q else .inside q, depth, met⟩
  | ⟨.onQuote q, depth, met⟩, c =>
    if c == q.char then some ⟨.inside q, depth, met⟩ else stepOutside depth met c
  | ⟨.number digits, depth, met⟩, c =>
    if c.isDigit then some ⟨.number (digits ++ [c]), depth, met⟩
    else stepOutside depth (met ++ [numbered digits]) c

/-- The scan outside, if it is not in a quoted region. -/
def settle : Scan → Option Scan
  | ⟨.outside, depth, met⟩ => some (clear depth met)
  | ⟨.inside _, _, _⟩ => none
  | ⟨.onQuote _, depth, met⟩ => some (clear depth met)
  | ⟨.number digits, depth, met⟩ => some (clear depth (met ++ [numbered digits]))

/-- The placeholders in a text, in order, if every quoted region and every parenthesis in it is
closed and no parenthesis is closed that is not open. -/
def placeholders? (sql : String) : Option (List String) := do
  let s ← sql.toList.foldlM step (clear 0 [])
  let t ← s.settle
  if t.depth = 0 then some t.met else none

/-! ## Moves -/

/-- How much is known of where a scan stands. -/
inductive Edge where
  /-- It is outside. -/
  | outside
  /-- It is outside, or the next character may show that it is. -/
  | settled

/-- A scan is at an edge, and is the other scan there. -/
def Edge.At : Edge → Scan → Scan → Prop
  | .outside, s, t => s = t
  | .settled, s, t => s.settle = some t

/-- The characters take every scan from the first edge to the second. On the way the depth goes
from `m` to `n`, both above any depth from before, and the scan meets these placeholders. -/
def Moves (a b : Edge) (m n : Nat) (ps : List String) (cs : List Char) : Prop :=
  ∀ s k met, a.At s (clear (k + m) met) →
    ∃ t, cs.foldlM step s = some t ∧ b.At t (clear (k + n) (met ++ ps))

theorem Edge.At.settle {e : Edge} {s : Scan} {depth : Nat} {met : List String}
    (h : e.At s (clear depth met)) : s.settle = some (clear depth met) := by
  cases e with
  | outside => rw [show s = clear depth met from h]; rfl
  | settled => exact h

/-- A text that a scan gets through from the start to a settled end. -/
theorem Moves.placeholders {ps : List String} {sql : String}
    (h : Moves .outside .settled 0 0 ps sql.toList) : placeholders? sql = some ps := by
  obtain ⟨t, hrun, hend⟩ := h (clear 0 []) 0 [] rfl
  have hsettle : t.settle = some (clear 0 ps) := hend
  unfold placeholders?
  rw [hrun]
  simp [hsettle, clear]

theorem Moves.append {a b c : Edge} {m n o : Nat} {ps qs : List String} {cs ds : List Char}
    (h : Moves a b m n ps cs) (h' : Moves b c n o qs ds) :
    Moves a c m o (ps ++ qs) (cs ++ ds) := by
  intro s k met hs
  obtain ⟨t, hrun, ht⟩ := h s k met hs
  obtain ⟨u, hrun', hu⟩ := h' t k (met ++ ps) ht
  refine ⟨u, ?_, ?_⟩
  · rw [List.foldlM_append, hrun]
    exact hrun'
  · rw [← List.append_assoc]
    exact hu

theorem Moves.deeper {a b : Edge} {m n : Nat} {ps : List String} {cs : List Char} (j : Nat)
    (h : Moves a b m n ps cs) : Moves a b (m + j) (n + j) ps cs := by
  intro s k met hs
  have hs' : a.At s (clear (k + j + m) met) := by
    rw [show k + j + m = k + (m + j) by omega]; exact hs
  obtain ⟨t, hrun, ht⟩ := h s (k + j) met hs'
  refine ⟨t, hrun, ?_⟩
  rw [show k + (n + j) = k + j + n by omega]
  exact ht

theorem Moves.of_settled {a b : Edge} {m n : Nat} {ps : List String} {cs : List Char}
    (h : Moves .settled b m n ps cs) : Moves a b m n ps cs :=
  fun s k met hs => h s k met hs.settle

theorem Moves.settled {a b : Edge} {m n : Nat} {ps : List String} {cs : List Char}
    (h : Moves a b m n ps cs) : Moves a .settled m n ps cs := by
  intro s k met hs
  obtain ⟨t, hrun, ht⟩ := h s k met hs
  exact ⟨t, hrun, ht.settle⟩

theorem moves_nil (a : Edge) (m : Nat) : Moves a a m m [] [] := by
  intro s k met hs
  refine ⟨s, rfl, ?_⟩
  rw [List.append_nil]
  exact hs

/-! ## Texts without quotes and placeholders -/

/-- The characters that a scan takes no note of. -/
def isPlain (c : Char) : Bool :=
  c != '\'' && c != '"' && c != '$' && c != '?' && c != '(' && c != ')'

theorem isPlain_of_not_mem {c : Char} (h : c ∉ ['\'', '"', '$', '?', '(', ')']) :
    isPlain c = true := by
  simp only [List.mem_cons, List.not_mem_nil, or_false, not_or] at h
  obtain ⟨h1, h2, h3, h4, h5, h6⟩ := h
  simp [isPlain, h1, h2, h3, h4, h5, h6]

theorem stepOutside_plain {c : Char} (h : isPlain c = true) (depth : Nat) (met : List String) :
    stepOutside depth met c = some (clear depth met) := by
  simp only [isPlain, Bool.and_eq_true, bne_iff_ne] at h
  obtain ⟨⟨⟨⟨⟨h1, h2⟩, h3⟩, h4⟩, h5⟩, h6⟩ := h
  simp [stepOutside, h1, h2, h3, h4, h5, h6]

/-- The depth after a character that is plain or a parenthesis. -/
def depthStep (depth : Nat) (c : Char) : Option Nat :=
  if isPlain c then some depth
  else if c == '(' then some (depth + 1)
  else if c == ')' then
    match depth with
    | 0 => none
    | depth + 1 => some depth
  else none

theorem step_of_depthStep {m n : Nat} {c : Char} (h : depthStep m c = some n) (k : Nat)
    (met : List String) : (clear (k + m) met).step c = some (clear (k + n) met) := by
  unfold depthStep at h
  split at h
  · rename_i hc
    cases h
    exact stepOutside_plain hc _ _
  · split at h
    · rename_i hc
      cases h
      rw [eq_of_beq hc]
      rfl
    · split at h
      · rename_i hc
        cases m with
        | zero => cases h
        | succ m =>
          cases h
          rw [eq_of_beq hc]
          rfl
      · cases h

theorem moves_of_depthStep {m n : Nat} {cs : List Char} (h : cs.foldlM depthStep m = some n) :
    Moves .outside .outside m n [] cs := by
  induction cs generalizing m with
  | nil =>
    cases h
    exact moves_nil .outside _
  | cons c cs ih =>
    rw [List.foldlM_cons] at h
    obtain ⟨j, hc, hcs⟩ := Option.bind_eq_some_iff.mp h
    rintro s k met rfl
    obtain ⟨t, hrun, ht⟩ := ih hcs (clear (k + j) met) k met rfl
    refine ⟨t, ?_, ht⟩
    rw [List.foldlM_cons, step_of_depthStep hc]
    exact hrun

theorem depthStep_plain {cs : List Char} (h : ∀ c ∈ cs, isPlain c = true) (m : Nat) :
    cs.foldlM depthStep m = some m := by
  induction cs with
  | nil => rfl
  | cons c cs ih =>
    have hc : depthStep m c = some m := by simp [depthStep, h c (by simp)]
    rw [List.foldlM_cons, hc]
    exact ih fun x hx => h x (by simp [hx])

theorem moves_plain {cs : List Char} (h : ∀ c ∈ cs, isPlain c = true) :
    Moves .outside .outside 0 0 [] cs :=
  moves_of_depthStep (depthStep_plain h 0)

/-! ## Texts that come after something -/

/-- Whether a character cannot go on with what stands before it: it is no quote and no digit. -/
def isApart (c : Char) : Bool := c != '\'' && c != '"' && !c.isDigit

/-- At such a character it is settled that the scan is outside. -/
theorem step_of_settle {s t : Scan} {c : Char} (hc : isApart c = true) (hs : s.settle = some t) :
    s.step c = t.step c := by
  simp only [isApart, Bool.and_eq_true, bne_iff_ne, Bool.not_eq_true'] at hc
  obtain ⟨⟨h1, h2⟩, h3⟩ := hc
  obtain ⟨place, depth, met⟩ := s
  cases place with
  | outside => cases hs; rfl
  | inside q => cases hs
  | onQuote q =>
    cases hs
    have hq : (c == q.char) = false := by cases q <;> simpa [Quote.char]
    simp [step, clear, hq]
  | number digits =>
    cases hs
    simp [step, clear, h3]

/-- A text that starts with such a character can come after anything that is closed. -/
theorem Moves.apart {b : Edge} {m n : Nat} {ps : List String} {c : Char} {cs : List Char}
    (hc : isApart c = true) (h : Moves .outside b m n ps (c :: cs)) :
    Moves .settled b m n ps (c :: cs) := by
  intro s k met hs
  obtain ⟨t, hrun, ht⟩ := h (clear (k + m) met) k met rfl
  refine ⟨t, ?_, ht⟩
  rw [List.foldlM_cons, step_of_settle hc hs]
  rwa [List.foldlM_cons] at hrun

/-! ## Quoted regions -/

/-- A scan stays in a region over text in which the quote is doubled. -/
theorem run_doubled (q : Quote) (depth : Nat) (met : List String) (cs : List Char) :
    (cs.flatMap fun c => if c == q.char then [q.char, q.char] else [c]).foldlM step
      ⟨.inside q, depth, met⟩ = some ⟨.inside q, depth, met⟩ := by
  induction cs with
  | nil => rfl
  | cons c cs ih =>
    rw [List.flatMap_cons, List.foldlM_append]
    have hc : (if c == q.char then [q.char, q.char] else [c]).foldlM step
        (⟨.inside q, depth, met⟩ : Scan) = some ⟨.inside q, depth, met⟩ := by
      split
      · simp [List.foldlM_cons, step]
      · rename_i hne
        simp [List.foldlM_cons, step, hne]
    rw [hc]
    exact ih

theorem moves_enclose (q : Quote) (cs : List Char) :
    Moves .outside .settled 0 0 [] (Quoting.enclose q.char cs) := by
  rintro s k met rfl
  refine ⟨⟨.onQuote q, k, met⟩, ?_, by simp [Edge.At, settle]⟩
  have hopen : (clear (k + 0) met).step q.char = some ⟨.inside q, k, met⟩ := by cases q <;> rfl
  rw [Quoting.enclose, List.foldlM_cons, hopen]
  show List.foldlM step (⟨.inside q, k, met⟩ : Scan) _ = _
  rw [List.foldlM_append, run_doubled]
  simp [List.foldlM_cons, step]

/-! ## Placeholders -/

theorem moves_question : Moves .outside .settled 0 0 ["?"] ['?'] := by
  rintro s k met rfl
  exact ⟨clear k (met ++ ["?"]), rfl, rfl⟩

theorem run_digits (read ds : List Char) (h : ∀ c ∈ ds, c.isDigit = true) (depth : Nat)
    (met : List String) :
    ds.foldlM step ⟨.number read, depth, met⟩ = some ⟨.number (read ++ ds), depth, met⟩ := by
  induction ds generalizing read with
  | nil => simp
  | cons c ds ih =>
    have hc : step ⟨.number read, depth, met⟩ c = some ⟨.number (read ++ [c]), depth, met⟩ := by
      simp [step, h c (by simp)]
    rw [List.foldlM_cons, hc]
    show List.foldlM step (⟨.number (read ++ [c]), depth, met⟩ : Scan) ds = _
    rw [ih _ fun x hx => h x (by simp [hx])]
    simp

theorem moves_numbered (ds : List Char) (h : ∀ c ∈ ds, c.isDigit = true) :
    Moves .outside .settled 0 0 [numbered ds] ('$' :: ds) := by
  rintro s k met rfl
  refine ⟨⟨.number ds, k, met⟩, ?_, rfl⟩
  exact run_digits [] ds h k met

end Scan

end SqlTree
