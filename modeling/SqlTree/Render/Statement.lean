-- Finished statements.
import SqlTree.Query.Equality
import SqlTree.Render.Visitor
import SqlTree.Value.Json

namespace SqlTree

/-- A statement with placeholders, its binds, and whether it may be prepared once and run with
other values. -/
structure Statement where
  sql : String
  binds : List (Bind Caster Value)
  preparable : Bool
deriving Repr

namespace Node

/-- Visits a query with a collector and hands the collector back. -/
def compileWith {σ : Type} [Collector σ] (d : Dialect) (n : Query) (c : σ) :
    Except CompileError σ :=
  match (n.visit d).on c with
  | (_, some e) => .error e
  | (c, none) => .ok c

/-- The statement of a query, with placeholders for its binds. -/
def compile (d : Dialect) (n : Query) : Except CompileError Statement := do
  let c ← n.compileWith d BindCollector.empty
  return { sql := c.sql, binds := c.binds, preparable := c.preparable }

/-- The statement of a query, with the values of its binds written in. -/
def toSql (d : Dialect) (n : Query) : Except CompileError String := do
  let c ← n.compileWith d LiteralCollector.empty
  return c.sql

end Node

namespace Statement

/-- The values that the columns receive. -/
def values (s : Statement) : Except CastError (List Value) := s.binds.mapM (·.serialize)

/-- A bind as JSON, with its number and the value that its column receives. -/
def boundJson (index : Nat) (b : Bind Caster Value) (v : Value) : Json :=
  .object [
    ("index", .number (.int index)),
    ("name", .string b.name),
    ("sql_type", .string b.type.sqlType),
    ("value", v.boundJson) ]

/-- Binds as JSON, numbered from an index. -/
def boundJsons (index : Nat) : List (Bind Caster Value) → Except CastError (List Json)
  | [] => .ok []
  | b :: bs => do
    let v ← b.serialize
    return boundJson index b v :: (← boundJsons (index + 1) bs)

/-- The list of bound values as JSON. -/
def bound (s : Statement) : Except CastError Json := do
  return .array (← boundJsons 1 s.binds)

def same (a b : Statement) : Bool :=
  a.sql == b.sql && a.preparable == b.preparable && a.binds.length == b.binds.length
    && (a.binds.zip b.binds).all fun (x, y) => x.same y

end Statement

end SqlTree
