-- From documents to queries: the column types of a document are looked up by name, each name once.
import SqlTree.Cast.TypeMap
import SqlTree.Document.Reader
import SqlTree.Value.Json

namespace SqlTree

/-- A column whose type is not known. -/
structure ResolveError where
  column : String
  type : String
  cause : CastError
deriving Repr

namespace ResolveError

/-- Where the error lies. -/
def place (e : ResolveError) : String := "In attribute " ++ Text.quoted e.column

/-- The error with its causes. -/
def message (e : ResolveError) : String :=
  e.place ++ ": Cannot resolve column type " ++ Text.quoted e.type ++ ": " ++ e.cause.message

end ResolveError

namespace Document

/-- The casters that have been looked up so far, by the names as they were given. -/
abbrev Cache := List (String × Caster)

/-- A resolution goes on until the first column of unknown type. -/
abbrev Resolution := StateT Cache (Except ResolveError)

/-- The caster of a column's type. -/
def resolveType (types : TypeMap) (column type : String) : Resolution Caster := fun cache =>
  match cache.find? (·.1 == type) with
  | some (_, c) => .ok (c, cache)
  | none =>
    match types.lookup type with
    | .ok c => .ok (c, (type, c) :: cache)
    | .error cause => .error { column, type, cause }

def resolveColumn (types : TypeMap) (c : Column String) : Resolution (Column Caster) := do
  return { table := c.table, name := c.name, type := ← resolveType types c.name c.type }

/-- The value for a column: JSON columns take it as it is, null apart. -/
def columnValue (c : Caster) (j : Json) : Value :=
  match c.kind, j with
  | .json, .null => .null
  | .json, j => .json j
  | _, j => .ofJson j

mutual
/-- Resolves a tree, from its first part to its last. -/
def resolve (types : TypeMap) : Document → Resolution Query
  | .sql s => return .sql s
  | .star => return .star
  | .distinct => return .distinct
  | .column c => return .column (← resolveColumn types c)
  | .table t => return .table t
  | .quoted j => return .quoted (.ofJson j)
  | .casted c j => do
    let c ← resolveColumn types c
    return .casted c (columnValue c.type j)
  | .bind b => do
    let type ← resolveType types b.name b.type
    return .bind { name := b.name, value := columnValue type b.value, type }
  | .list items => return .list (← resolveAll types items)
  | .and children => return .and (← resolveAll types children)
  | .unary op e => return .unary op (← resolve types e)
  | .binary op l r => do
    let l ← resolve types l
    return .binary op l (← resolve types r)
  | .tableAlias relation name => return .tableAlias (← resolve types relation) name
  | .between e low high => do
    let e ← resolve types e
    let low ← resolve types low
    return .between e low (← resolve types high)
  | .like negated l r escape caseSensitive => do
    let l ← resolve types l
    let r ← resolve types r
    return .like negated l r (← resolveOption types escape) caseSensitive
  | .regexp negated l r caseSensitive => do
    let l ← resolve types l
    return .regexp negated l (← resolve types r) caseSensitive
  | .call name args distinct altName => return .call name (← resolveAll types args) distinct altName
  | .inList m => do
    let c ← resolveColumn types m.column
    return .inList {
      column := c, values := m.values.map (columnValue c.type), polarity := m.polarity }
  | .select s => return .select (← resolveSelect types s)

def resolveAll (types : TypeMap) : List Document → Resolution (List Query)
  | [] => return []
  | n :: ns => do
    let n ← resolve types n
    return n :: (← resolveAll types ns)

def resolveOption (types : TypeMap) : Option Document → Resolution (Option Query)
  | none => return none
  | some n => return some (← resolve types n)

/-- Resolves a join: what is joined, then the condition. -/
def resolveJoin (types : TypeMap) : Join String Json → Resolution (Join Caster Value)
  | ⟨kind, relation, on⟩ => do
    let relation ← resolve types relation
    return ⟨kind, relation, ← resolveOption types on⟩

def resolveJoins (types : TypeMap) :
    List (Join String Json) → Resolution (List (Join Caster Value))
  | [] => return []
  | j :: js => do
    let j ← resolveJoin types j
    return j :: (← resolveJoins types js)

/-- Resolves a statement: its joins first, then the other parts in order. -/
def resolveSelect (types : TypeMap) : Select String Json → Resolution (Select Caster Value)
  | ⟨distinct, projections, source, joins, wheres, groups, havings, orders, limit, offset⟩ => do
    let joins ← resolveJoins types joins
    let distinct ← resolveOption types distinct
    let projections ← resolveAll types projections
    let source ← resolveOption types source
    let wheres ← resolveAll types wheres
    let groups ← resolveAll types groups
    let havings ← resolveAll types havings
    let orders ← resolveAll types orders
    let limit ← resolveOption types limit
    let offset ← resolveOption types offset
    return ⟨distinct, projections, source, joins, wheres, groups, havings, orders, limit, offset⟩
end

end Document

/-! ## Queries from text -/

/-- Why a text gives no query. -/
inductive DocumentError where
  /-- The text is no document. -/
  | invalid
  | unresolved (e : ResolveError)
deriving Repr

namespace DocumentError

/-- What a user is told. -/
def message : DocumentError → String
  | invalid => "Invalid query document"
  | unresolved e => e.message

/-- The message without its causes. -/
def headline : DocumentError → String
  | invalid => "Invalid query document"
  | unresolved e => e.place

end DocumentError

/-- The query of a document. -/
def Document.toQuery (types : TypeMap) (doc : Document) : Except DocumentError Query :=
  match Document.resolve types doc [] with
  | .ok (q, _) => .ok q
  | .error e => .error (.unresolved e)

/-- The query that the text of a document describes. -/
def Query.read (types : TypeMap) (text : String) : Except DocumentError Query :=
  match Document.read? text with
  | none => .error .invalid
  | some doc => doc.toQuery types

end SqlTree
