-- Collectors, which are filled with the text and the binds of a statement. One keeps the binds
-- apart and writes placeholders, the other writes the values in as literals.
import SqlTree.Dialect
import SqlTree.Query.InList

namespace SqlTree

/-- Why a query gives no statement. -/
inductive CompileError where
  /-- A value in the query cannot be cast. -/
  | cast (e : CastError)
  /-- The dialect has nothing for this kind of node. -/
  | unsupported (kind : String) (dialect : String)
deriving Repr

/-- What a user is told. -/
def CompileError.message : CompileError → String
  | cast e => e.message
  | unsupported kind dialect => kind ++ " is not supported by the " ++ dialect ++ " dialect"

/-- The value that the column receives. -/
def Bind.serialize (b : Bind Caster Value) : Except CastError Value := b.type.serialize b.value

/-! ## Visits -/

/-- What is done to a collector. A visit may stop early, and what it has written by then stays. -/
abbrev Visit (σ : Type) : Type → Type := EStateM CompileError σ

namespace Visit

variable {σ α : Type}

/-- The collector after a visit, and what stopped it. -/
def on (v : Visit σ Unit) (c : σ) : σ × Option CompileError :=
  match v.run c with
  | .ok _ c => (c, none)
  | .error e c => (c, some e)

/-- Goes on with what has been cast, or stops. -/
def orStop : Except CastError α → Visit σ α
  | .ok a => pure a
  | .error e => throw (.cast e)

end Visit

/-- What can be done to a collector. -/
class Collector (σ : Type) where
  /-- The text so far. -/
  sql : σ → String
  bindCount : σ → Nat
  pushText : σ → String → σ
  /-- Writes what stands for a bind in a dialect. -/
  addBind : Dialect → Bind Caster Value → Visit σ Unit
  setPreparable : σ → Bool → σ

/-! ## Keeping binds -/

/-- A statement so far, with its binds and whether it may be prepared. -/
structure BindCollector where
  sql : String
  binds : List (Bind Caster Value)
  preparable : Bool
deriving Repr

namespace BindCollector

def empty : BindCollector := ⟨"", [], true⟩

/-- Says anew whether the statement may be prepared. -/
def setPreparable (c : BindCollector) (preparable : Bool) : BindCollector :=
  { c with preparable }

/-- Keeps a bind and writes the placeholder with its number. -/
def keep (d : Dialect) (b : Bind Caster Value) (c : BindCollector) : BindCollector :=
  let binds := c.binds ++ [b]
  { c with binds, sql := c.sql ++ d.placeholder binds.length }

instance : Collector BindCollector where
  sql := sql
  bindCount c := c.binds.length
  pushText c s := { c with sql := c.sql ++ s }
  addBind d b := modify (keep d b)
  setPreparable := setPreparable

end BindCollector

/-! ## Writing values -/

/-- A statement so far, and how many values have been written into it. -/
structure LiteralCollector where
  sql : String
  count : Nat
deriving DecidableEq, Repr

namespace LiteralCollector

def empty : LiteralCollector := ⟨"", 0⟩

/-- Writes a value that has been cast. -/
def write (v : Value) (c : LiteralCollector) : LiteralCollector :=
  { sql := c.sql ++ v.literal, count := c.count + 1 }

instance : Collector LiteralCollector where
  sql := sql
  bindCount := count
  pushText c s := { c with sql := c.sql ++ s }
  addBind _ b := do
    let v ← Visit.orStop b.serialize
    modify (write v)
  setPreparable c _ := c

end LiteralCollector

end SqlTree
